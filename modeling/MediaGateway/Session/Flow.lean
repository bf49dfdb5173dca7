import MediaGateway.Session.Media

/-!
# The check for media

A session with everything that moves its packet counters: messages and media of the
browser, the rounds of the two threads that receive from IMS, and `checkMediaFlow`.

A check compares each counter with its value at the last check.  `Counts` says by how
much they have moved, and `checks_right_iff` is when a check comes to the right
result: the threads count a round of `recvfrom` that has failed as well.
-/

namespace MediaGateway

open Lib

/-- The object of a session, the timer tables and the static variables. -/
structure Watched where
  session : SessionObj
  timer : Timer
  statics : Statics

/-- What happens to a session that is watched. -/
inductive FlowEvent
  /-- a message, a packet of the browser or for it, or a state of ICE -/
  | media (e : MediaEvent)
  /-- a round of `cbFuncAudio` -/
  | audioFromIMS (srtp : Srtp) (recv : Option (Bytes × Nat))
  /-- a round of `cbFuncVideo` -/
  | videoFromIMS (recv : Option (Bytes × Nat))
  /-- `checkMediaFlow` -/
  | check

/-- What leaves a session. -/
inductive FlowOut
  | action (a : Action)
  | toConverter (data : Bytes)

/-- One event of the session `self`.  Nothing happens to one that was torn down. -/
def flowStep (cfg : Config) (self : Nat) (w : Watched) (e : FlowEvent) :
    Watched × List FlowOut :=
  match w.session with
  | .stopped _ _ => (w, [])
  | .running s =>
    match e with
    | .media e =>
      let r := (mediaSession cfg self).step
        { session := s, timer := w.timer, statics := w.statics } e
      ({ session := .running r.1.session, timer := r.1.timer, statics := r.1.statics },
        r.2.map .action)
    | .audioFromIMS srtp recv =>
      let r := s.imsAgent.cbFuncAudio cfg srtp recv s.webAgent
      ({ w with session := .running { s with imsAgent := r.1 } }, r.2.map .action)
    | .videoFromIMS recv =>
      let r := s.imsAgent.cbFuncVideo recv
      ({ w with session := .running { s with imsAgent := r.1 } },
        r.2.toList.map .toConverter)
    | .check =>
      let r := s.checkMediaFlow self w.timer
      ({ w with session := r.1, timer := r.2 }, [])

/-! ## What has come since the last check -/

/-- Media packets accepted from the browser, datagrams received from IMS, and rounds of
`recvfrom` that failed. -/
structure Since where
  accepted : Nat
  received : Nat
  failed : Nat
  deriving DecidableEq, Repr

def Since.zero : Since := { accepted := 0, received := 0, failed := 0 }

/-- `receiveDataCallback` passes the packet on. -/
def Accepted (w : WebAgent) (componentID : Nat) (buf : Bytes) : Prop :=
  Taken w componentID buf ∧
    ((RTP_HEADER.payload buf : Int) = PT_PCMA_DEFAULT ∨ (RTP_HEADER.payload buf : Int) = w.vPayload)

instance (w : WebAgent) (componentID : Nat) (buf : Bytes) :
    Decidable (Accepted w componentID buf) :=
  inferInstanceAs (Decidable (_ ∧ (_ ∨ _)))

def Since.receive (recv : Option (Bytes × Nat)) (n : Since) : Since :=
  match recv with
  | some _ => { n with received := n.received + 1 }
  | none => { n with failed := n.failed + 1 }

/-- The counts after an event at the session `s`. -/
def Since.next (s : MediaSession) (e : FlowEvent) (n : Since) : Since :=
  match e with
  | .media (.received _ componentID _ buf) =>
    if Accepted s.webAgent componentID buf then { n with accepted := n.accepted + 1 } else n
  | .media _ => n
  | .audioFromIMS _ recv => n.receive recv
  | .videoFromIMS recv => n.receive recv
  | .check => .zero

/-- The session together with these counts. -/
def watched (cfg : Config) (self : Nat) : Transducer (Watched × Since) FlowEvent FlowOut where
  step := fun st e =>
    let r := flowStep cfg self st.1 e
    let since :=
      match st.1.session with
      | .running s => st.2.next s e
      | .stopped _ _ => st.2
    ((r.1, since), r.2)

/-- A new session, whatever timers are set. -/
def Watched.start (cfg : Config) (t : Timer) (g : Statics) : Watched × Since :=
  ({ session := .running (newSession cfg t).1, timer := (newSession cfg t).2, statics := g }, .zero)

/-- A check tears the session down exactly when no packet was accepted or no datagram was
received.  Otherwise the session keeps everything but the counters it remembers and its
timer, which is a new one. -/
def Right (cfg : Config) (self : Nat) (st : Watched × Since) : FlowEvent → Prop
  | .check => ∀ s, st.1.session = .running s →
      (flowStep cfg self st.1 .check).1 =
        if st.2.accepted = 0 ∨ st.2.received = 0 then
          { st.1 with session := .stopped s.offerSessionID s.timerID }
        else
          { st.1 with
            session := .running
              { s with
                webAgent := { s.webAgent with precnt := s.webAgent.curcnt }
                imsAgent := { s.imsAgent with precnt := s.imsAgent.curcnt }
                timerID := (st.1.timer.setTimer self).1 }
            timer := (st.1.timer.setTimer self).2 }
  | _ => True

/-- What the counters show is what has come: neither has come round to where it was, and
no failure stands in for a datagram. -/
def Shown (st : Watched × Since) : FlowEvent → Prop
  | .check => ∀ s, st.1.session = .running s →
      ((st.2.accepted % 2 ^ 32 = 0 ∨ (st.2.received + st.2.failed) % 2 ^ 32 = 0) ↔
        (st.2.accepted = 0 ∨ st.2.received = 0))
  | _ => True

/-! ## The counters -/

/-- The counters have moved by what has come since the last check. -/
structure Counts (s : MediaSession) (n : Since) : Prop where
  web : s.webAgent.curcnt = s.webAgent.precnt + UInt32.ofNat n.accepted
  ims : s.imsAgent.curcnt = s.imsAgent.precnt + UInt32.ofNat (n.received + n.failed)

/-- A counter shows nothing exactly when it has come round. -/
theorem add_ofNat_eq_iff (c : UInt32) (n : Nat) : c + UInt32.ofNat n = c ↔ n % 2 ^ 32 = 0 := by
  have hlt := c.toNat_lt
  rw [← UInt32.toNat_inj, UInt32.toNat_add, UInt32.toNat_ofNat']
  omega

theorem ofNat_succ (n : Nat) : UInt32.ofNat (n + 1) = UInt32.ofNat n + 1 := UInt32.ofNat_add n 1

/-- Messages leave the counters alone. -/
theorem counters_handle (cfg : Config) (h : MediaSession.Handler) (env : Env) (self : Nat)
    (sMsg : SessionMessage) (s : MediaSession) (t : Timer) {n : Since} (hs : Counts s n) :
    Counts (MediaSession.handle cfg h env self sMsg s t).1 n := by
  have hread : Counts (MediaSession.readMessage cfg h env sMsg s) n := by
    cases h with
    | candidateFromWeb =>
      refine ⟨?_, hs.ims⟩
      simp only [MediaSession.readMessage, WebAgent.handleCandidateFromWeb]
      split_ifs <;> exact hs.web
    | _ => exact ⟨hs.web, hs.ims⟩
  cases hm : MediaSession.startsMedia h sMsg with
  | false => rwa [MediaSession.handle_of_not_startsMedia hm]
  | true =>
    rw [MediaSession.handle_of_startsMedia hm]
    exact ⟨hread.web, hread.ims⟩

/-- A round of `recvfrom` is counted however it ends. -/
theorem counts_receive (recv : Option (Bytes × Nat)) {s : MediaSession} {n : Since}
    (hs : Counts s n) :
    Counts { s with imsAgent := { s.imsAgent with curcnt := s.imsAgent.curcnt + 1 } }
      (n.receive recv) := by
  have hsucc : s.imsAgent.curcnt + 1 =
      s.imsAgent.precnt + UInt32.ofNat (n.received + n.failed + 1) := by
    rw [ofNat_succ, hs.ims, UInt32.add_assoc]
  cases recv with
  | some r =>
    refine ⟨hs.web, ?_⟩
    show s.imsAgent.curcnt + 1 = s.imsAgent.precnt + UInt32.ofNat (n.received + 1 + n.failed)
    rw [hsucc, Nat.add_right_comm]
  | none => exact ⟨hs.web, hsucc⟩

theorem cbFuncAudio_fst (cfg : Config) (srtp : Srtp) (recv : Option (Bytes × Nat)) (w : WebAgent)
    (a : ImsAgent) : (a.cbFuncAudio cfg srtp recv w).1 = { a with curcnt := a.curcnt + 1 } := by
  cases recv <;> rfl

theorem cbFuncVideo_fst (recv : Option (Bytes × Nat)) (a : ImsAgent) :
    (a.cbFuncVideo recv).1 = { a with curcnt := a.curcnt + 1 } := by
  cases recv <;> rfl

/-- A packet from the browser is counted when it is accepted. -/
theorem receiveDataCallback_fst (cfg : Config) (srtp : Srtp) (componentID len : Nat)
    (buf : Bytes) (a : ImsAgent) (w : WebAgent) (g : Statics) :
    (w.receiveDataCallback cfg srtp componentID len buf a g).1 =
      if Accepted w componentID buf then { w with curcnt := w.curcnt + 1 } else w := by
  by_cases htaken : Taken w componentID buf
  · rw [received_of_taken htaken]
    dsimp only
    by_cases haudio : (RTP_HEADER.payload buf : Int) = PT_PCMA_DEFAULT
    · have haccepted : Accepted w componentID buf := ⟨htaken, .inl haudio⟩
      rw [if_pos haudio, if_pos haccepted]
    · by_cases hvideo : (RTP_HEADER.payload buf : Int) = w.vPayload
      · have haccepted : Accepted w componentID buf := ⟨htaken, .inr hvideo⟩
        rw [if_neg haudio, if_pos hvideo, if_pos haccepted]
      · have hnot : ¬ Accepted w componentID buf := fun h => h.2.elim haudio hvideo
        rw [if_neg haudio, if_neg hvideo, if_neg hnot]
  · have hnot : ¬ Accepted w componentID buf := fun h => htaken h.1
    rw [received_of_not_taken htaken, if_neg hnot]

/-- One event other than a check. -/
theorem counts_media (cfg : Config) (self : Nat) (l : Live) (e : MediaEvent) {n : Since}
    (hs : Counts l.session n) :
    Counts ((mediaSession cfg self).step l e).1.session (n.next l.session (.media e)) := by
  cases e with
  | signal e => exact counters_handle cfg e.handler e.env self e.message l.session l.timer hs
  | received srtp componentID len buf =>
    have hfst := receiveDataCallback_fst cfg srtp componentID len buf l.session.imsAgent
      l.session.webAgent l.statics
    simp only [mediaSession, hfst, Since.next]
    split
    · refine ⟨?_, hs.ims⟩
      show l.session.webAgent.curcnt + 1 = _
      rw [ofNat_succ, hs.web, UInt32.add_assoc]
    · exact hs
  | forWeb srtp mediaData len type => exact hs
  | stateChanged componentID state =>
    refine ⟨?_, hs.ims⟩
    simp only [mediaSession, WebAgent.componentStateChangedCallback]
    split <;> exact hs.web
  | counted => exact hs

/-- What `checkMediaFlow` does with counters that have moved by the counts. -/
theorem flowStep_check (cfg : Config) (self : Nat) {w : Watched} {s : MediaSession} {n : Since}
    (hw : w.session = .running s) (hs : Counts s n) :
    (flowStep cfg self w .check).1 =
      if n.accepted % 2 ^ 32 = 0 ∨ (n.received + n.failed) % 2 ^ 32 = 0 then
        { w with session := .stopped s.offerSessionID s.timerID }
      else
        { w with
          session := .running
            { s with
              webAgent := { s.webAgent with precnt := s.webAgent.curcnt }
              imsAgent := { s.imsAgent with precnt := s.imsAgent.curcnt }
              timerID := (w.timer.setTimer self).1 }
          timer := (w.timer.setTimer self).2 } := by
  have hcheck := MediaSession.checkMediaFlow_eq self
    { web := s.webAgent.curcnt, ims := s.imsAgent.curcnt } s w.timer
  have hflow : s.withFlow { web := s.webAgent.curcnt, ims := s.imsAgent.curcnt } = s := rfl
  have hweb : s.webAgent.curcnt = s.webAgent.precnt ↔ n.accepted % 2 ^ 32 = 0 := by
    rw [hs.web, add_ofNat_eq_iff]
  have hims : s.imsAgent.curcnt = s.imsAgent.precnt ↔
      (n.received + n.failed) % 2 ^ 32 = 0 := by
    rw [hs.ims, add_ofNat_eq_iff]
  rw [hflow] at hcheck
  simp only [flowStep, hw, hcheck, MediaSession.flows, Bool.and_eq_true, bne_iff_ne, ne_eq, hweb,
    hims, ← not_or]
  by_cases hstop : n.accepted % 2 ^ 32 = 0 ∨ (n.received + n.failed) % 2 ^ 32 = 0
  · rw [if_neg (not_not.2 hstop), if_pos hstop]
  · rw [if_pos hstop, if_neg hstop]
    rfl

/-! ## Every run -/

/-- The counters of a session that runs have moved by what has come. -/
def Counted (st : Watched × Since) : Prop :=
  ∀ s, st.1.session = .running s → Counts s st.2

theorem counted_start (cfg : Config) (t : Timer) (g : Statics) :
    Counted (Watched.start cfg t g) := by
  intro s hs
  obtain rfl := SessionObj.running.inj hs
  exact ⟨rfl, rfl⟩

theorem counted_step (cfg : Config) (self : Nat) (st : Watched × Since) (e : FlowEvent)
    (h : Counted st) : Counted ((watched cfg self).step st e).1 := by
  obtain ⟨⟨session, timer, statics⟩, n⟩ := st
  cases session with
  | stopped offerSessionID timerID => exact h
  | running s =>
    have hs : Counts s n := h s rfl
    intro s' hs'
    cases e with
    | media e =>
      obtain rfl := SessionObj.running.inj hs'
      exact counts_media cfg self { session := s, timer, statics } e hs
    | audioFromIMS srtp recv =>
      obtain rfl := SessionObj.running.inj hs'
      simp only [cbFuncAudio_fst]
      exact counts_receive recv hs
    | videoFromIMS recv =>
      obtain rfl := SessionObj.running.inj hs'
      simp only [cbFuncVideo_fst]
      exact counts_receive recv hs
    | check =>
      have hcheck := flowStep_check cfg self (w := { session := .running s, timer, statics }) rfl hs
      have hsession :
          (flowStep cfg self { session := .running s, timer, statics } .check).1.session =
            .running s' := hs'
      rw [hcheck] at hsession
      split at hsession
      · cases hsession
      · obtain rfl := SessionObj.running.inj hsession
        exact ⟨(UInt32.add_zero _).symm, (UInt32.add_zero _).symm⟩

theorem ite_eq_ite_iff {α : Type} {p q : Prop} [Decidable p] [Decidable q] {x y : α}
    (hne : x ≠ y) : ((if p then x else y) = if q then x else y) ↔ (p ↔ q) := by
  by_cases hp : p <;> by_cases hq : q <;> simp [hp, hq, hne, hne.symm]

/-- At one event. -/
theorem right_iff (cfg : Config) (self : Nat) (st : Watched × Since) (e : FlowEvent)
    (h : Counted st) : Right cfg self st e ↔ Shown st e := by
  cases e with
  | media e => exact Iff.rfl
  | audioFromIMS srtp recv => exact Iff.rfl
  | videoFromIMS recv => exact Iff.rfl
  | check =>
    refine forall_congr' fun s => forall_congr' fun hs => ?_
    rw [flowStep_check cfg self hs (h s hs)]
    refine ite_eq_ite_iff fun heq => ?_
    cases congrArg Watched.session heq

/-- In every run of a session every check comes to the right result exactly when at every
check the counters show what has come. -/
theorem checks_right_iff (cfg : Config) (self : Nat) (t : Timer) (g : Statics)
    (es : List FlowEvent) :
    (watched cfg self).Meets (Right cfg self) (Watched.start cfg t g) es ↔
      (watched cfg self).Meets Shown (Watched.start cfg t g) es :=
  Transducer.meets_congr (counted_step cfg self) (right_iff cfg self) (counted_start cfg t g) es

/-- A packet of the browser arrives, `recvfrom` fails, and the session goes on. -/
theorem not_checks_right :
    ¬ ∀ es, (watched (Config.over []) 0).Meets (Right (Config.over []) 0)
      (Watched.start (Config.over []) Timer.init Statics.init) es := by
  intro h
  have hrun := h (establishing.map .media ++
    [ .media (.received Srtp.refusing 1 12 [0x80, 8, 0, 1, 0, 0, 0, 0, 0, 0, 0, 9])
    , .audioFromIMS Srtp.refusing none, .check ])
  have hshown := (Transducer.meets_congr (counted_step _ _) (right_iff _ _)
    (counted_start _ _ _) _).1 hrun
  obtain ⟨-, -, -, -, -, hcheck, -⟩ := hshown
  have hiff := hcheck _ rfl
  exact absurd hiff (by decide)

end MediaGateway
