import MediaGateway.Media
import MediaGateway.Session.History

/-!
# Media and SRTP

A session with its media threads: packets may come from the browser and for the
browser between any two messages, ICE may report any state, libsrtp may return
any status, and other sessions count their own video packets in the static
variables (`mediaSession`).

`Guarded` says that media bytes leave the gateway only right behind a successful
operation of libsrtp on them.  `sendData` looks at the status;
`receiveDataCallback` and `sendrtcp` do not, and `guarded_iff` says for which runs
that does no harm.
-/

namespace MediaGateway

open Lib

/-! ## The session with its media threads -/

/-- A session, the timer tables and the static variables. -/
structure Live where
  session : MediaSession
  timer : Timer
  statics : Statics

/-- What happens to a session. -/
inductive MediaEvent
  /-- a message for one of the handlers -/
  | signal (e : Signal)
  /-- `receiveDataCallback` -/
  | received (srtp : Srtp) (componentID len : Nat) (buf : Bytes)
  /-- `WebAgent::sendData`, called with a packet from IMS or from the codec
  converter -/
  | forWeb (srtp : Srtp) (mediaData : Bytes) (len : Nat) (type : Bool)
  /-- `componentStateChangedCallback` -/
  | stateChanged (componentID state : Nat)
  /-- another session counts a video packet -/
  | counted

/-- The session `self` as a machine over its messages and its media. -/
def mediaSession (cfg : Config) (self : Nat) : Transducer Live MediaEvent Action where
  step := fun l e =>
    match e with
    | .signal e =>
      let r := (session cfg self).step (l.session, l.timer) e
      ({ l with session := r.1.1, timer := r.1.2 }, r.2)
    | .received srtp componentID len buf =>
      let r := l.session.webAgent.receiveDataCallback cfg srtp componentID len buf
        l.session.imsAgent l.statics
      ({ l with session := { l.session with webAgent := r.1 }, statics := r.2.1 }, r.2.2)
    | .forWeb srtp mediaData len type =>
      (l, l.session.webAgent.sendData cfg srtp mediaData len type)
    | .stateChanged componentID state =>
      ({ l with session :=
          { l.session with
            webAgent := l.session.webAgent.componentStateChangedCallback componentID state } }, [])
    | .counted => ({ l with statics := l.statics.count }, [])

/-! ## Media behind a successful operation -/

/-- Every media action comes right behind a successful operation of its path. -/
def Guarded (acts : List Action) : Prop :=
  ∀ pre path data post, acts = pre ++ .media path data :: post →
    ∃ before, pre = before ++ [.srtp path.op .ok]

/-- Media bytes leave. -/
def Action.isMedia : Action → Bool
  | .media _ _ => true
  | _ => false

theorem guarded_of_no_media {acts : List Action} (h : ∀ a ∈ acts, a.isMedia = false) :
    Guarded acts := by
  intro pre path data post heq
  subst heq
  have hmedia := h (.media path data) (by simp)
  cases hmedia

/-- The first action is no media. -/
def StartsQuiet (acts : List Action) : Prop := ∀ a ∈ acts.head?, a.isMedia = false

theorem startsQuiet_nil : StartsQuiet [] := by
  intro a ha
  cases ha

theorem startsQuiet_cons {a : Action} {acts : List Action} (h : a.isMedia = false) :
    StartsQuiet (a :: acts) := by
  intro b hb
  obtain rfl := Option.some.inj hb
  exact h

theorem StartsQuiet.append {xs ys : List Action} (hxs : StartsQuiet xs) (hys : StartsQuiet ys) :
    StartsQuiet (xs ++ ys) := by
  cases xs with
  | nil => exact hys
  | cons x xs => exact startsQuiet_cons (hxs x rfl)

/-- Two stretches of actions are guarded apart, unless the second starts with
media. -/
theorem guarded_append {xs ys : List Action} (hys : StartsQuiet ys) :
    Guarded (xs ++ ys) ↔ Guarded xs ∧ Guarded ys := by
  constructor
  · intro h
    constructor
    · intro pre path data post heq'
      subst heq'
      exact h pre path data (post ++ ys) (by rw [List.append_assoc, List.cons_append])
    · intro pre path data post heq'
      subst heq'
      obtain ⟨before, hbefore⟩ := h (xs ++ pre) path data post (by rw [List.append_assoc])
      rcases List.eq_nil_or_concat pre with rfl | ⟨pre, a, rfl⟩
      · have hmedia := hys (.media path data) rfl
        cases hmedia
      · rw [List.concat_eq_append, ← List.append_assoc] at hbefore
        obtain ⟨-, hlast⟩ := List.append_inj' hbefore rfl
        exact ⟨pre, by rw [List.concat_eq_append, hlast]⟩
  · intro hboth pre path data post heq
    rcases hboth with ⟨hx, hy⟩
    rcases List.append_eq_append_iff.1 heq with ⟨rest, rfl, hsplit⟩ | ⟨rest, rfl, hsplit⟩
    · obtain ⟨before, rfl⟩ := hy rest path data post hsplit
      exact ⟨xs ++ before, by rw [List.append_assoc]⟩
    · cases rest with
      | nil =>
        rw [List.nil_append] at hsplit
        subst hsplit
        have hmedia := hys (.media path data) rfl
        cases hmedia
      | cons a rest =>
        rw [List.cons_append] at hsplit
        obtain ⟨rfl, -⟩ := List.cons.inj hsplit
        exact hx pre path data rest rfl

/-- One operation and then media on a path of that operation. -/
theorem guarded_pair {op : SrtpOp} {status : ErrStatus} {path : MediaPath} {data : Bytes}
    (hop : path.op = op) :
    Guarded [.srtp op status, .media path data] ↔ status = .ok := by
  subst hop
  constructor
  · intro h
    obtain ⟨before, hbefore⟩ := h [.srtp path.op status] path data [] rfl
    have hsnoc : [] ++ [Action.srtp path.op status] = before ++ [.srtp path.op .ok] := hbefore
    obtain ⟨-, hlast⟩ := List.append_inj' hsnoc rfl
    simpa using hlast
  · intro heq' pre path' data' post heq
    subst heq'
    rcases pre with _ | ⟨a, _ | ⟨b, pre⟩⟩
    · cases heq
    · obtain ⟨rfl, hrest⟩ := List.cons.inj heq
      obtain ⟨hmedia, -⟩ := List.cons.inj hrest
      obtain ⟨rfl, -⟩ := Action.media.inj hmedia
      exact ⟨[], rfl⟩
    · simp at heq

/-! ## One event -/

/-- The packets that `receiveDataCallback` looks into. -/
def Taken (w : WebAgent) (componentID : Nat) (buf : Bytes) : Prop :=
  componentID = 1 ∧ w.rtpConverter.isReady = true ∧ w.isReady = true ∧ buf.getD 0 0 = 0x80

instance (w : WebAgent) (componentID : Nat) (buf : Bytes) : Decidable (Taken w componentID buf) :=
  inferInstanceAs (Decidable (_ ∧ _))

/-- What libsrtp has to answer at a packet from the browser: audio and video
have to pass `srtp_unprotect`, and the video packet at which a full frame is
asked for has `srtp_protect_rtcp` succeed. -/
def Cleared (l : Live) : MediaEvent → Prop
  | .received srtp componentID len buf =>
    let w := l.session.webAgent
    Taken w componentID buf →
      ((RTP_HEADER.payload buf : Int) = PT_PCMA_DEFAULT → (srtp.unprotect buf len).status = .ok) ∧
      ((RTP_HEADER.payload buf : Int) ≠ PT_PCMA_DEFAULT →
        (RTP_HEADER.payload buf : Int) = w.vPayload →
        (srtp.unprotect buf len).status = .ok ∧
        (l.statics.due = true →
          (srtp.protectRtcp (w.rtcpPacket srtp.sc (l.statics.a + 1)) 20).status = .ok))
  | _ => True

theorem guarded_sendData (cfg : Config) (srtp : Srtp) (mediaData : Bytes) (len : Nat)
    (type : Bool) (w : WebAgent) : Guarded (w.sendData cfg srtp mediaData len type) := by
  have hnil : Guarded [] := guarded_of_no_media (by simp)
  have hpath : ∀ (r : SrtpResult) (path : MediaPath), path.op = .protect →
      Guarded (.srtp .protect r.status ::
        if w.isReady && r.status == .ok then [.media path (r.buffer.take r.len)] else []) := by
    intro r path hop
    split
    · rename_i hok
      rw [Bool.and_eq_true, beq_iff_eq] at hok
      exact (guarded_pair hop).2 hok.2
    · exact guarded_of_no_media (by simp [Action.isMedia])
  unfold WebAgent.sendData
  split
  · exact hnil
  · split
    · dsimp only
      split
      · exact hnil
      · exact hpath _ .audioToWeb rfl
    · exact hpath _ .videoToWeb rfl

theorem received_of_not_taken {cfg : Config} {srtp : Srtp} {componentID len : Nat} {buf : Bytes}
    {a : ImsAgent} {w : WebAgent} {g : Statics} (h : ¬ Taken w componentID buf) :
    w.receiveDataCallback cfg srtp componentID len buf a g = (w, g, []) := by
  unfold WebAgent.receiveDataCallback
  by_cases hcomp : componentID ≠ 1
  · rw [if_pos hcomp]
  by_cases hready : (!w.rtpConverter.isReady || !w.isReady) = true
  · rw [if_neg hcomp, if_pos hready]
  by_cases hbyte : buf.getD 0 0 ≠ 0x80
  · rw [if_neg hcomp, if_neg hready, if_pos hbyte]
  simp only [Bool.or_eq_true, Bool.not_eq_true', not_or, Bool.not_eq_false] at hready
  exact absurd ⟨not_not.1 hcomp, hready.1, hready.2, not_not.1 hbyte⟩ h

theorem received_of_taken {cfg : Config} {srtp : Srtp} {componentID len : Nat} {buf : Bytes}
    {a : ImsAgent} {w : WebAgent} {g : Statics} (h : Taken w componentID buf) :
    w.receiveDataCallback cfg srtp componentID len buf a g =
      let r := srtp.unprotect buf len
      if (RTP_HEADER.payload buf : Int) = PT_PCMA_DEFAULT then
        ( { w with curcnt := w.curcnt + 1 }, g
        , [.srtp .unprotect r.status, .media .audioToIMS (a.sendData cfg r.buffer r.len false)] )
      else if (RTP_HEADER.payload buf : Int) = w.vPayload then
        ( { w with curcnt := w.curcnt + 1 }, g.count
        , (if g.due then w.sendrtcp srtp (g.a + 1) else []) ++
            [ .srtp .unprotect r.status
            , .media .videoToConverter (convertAndSend r.buffer r.len) ] )
      else
        (w, g, []) := by
  obtain ⟨rfl, hconv, hready, hbyte⟩ := h
  simp only [WebAgent.receiveDataCallback, hconv, hready, hbyte]
  simp only [ne_eq, not_true_eq_false, Bool.not_true, Bool.or_self, Bool.false_eq_true, if_false]

theorem guarded_sendrtcp_iff {srtp : Srtp} {componentID : Nat} {buf : Bytes} {w : WebAgent}
    {g : Statics} (h : Taken w componentID buf) :
    Guarded (if g.due then w.sendrtcp srtp (g.a + 1) else []) ↔
      (g.due = true → (srtp.protectRtcp (w.rtcpPacket srtp.sc (g.a + 1)) 20).status = .ok) := by
  obtain ⟨-, hconv, hready, -⟩ := h
  cases hdue : g.due with
  | false => simpa using guarded_of_no_media (by simp)
  | true =>
    simp only [if_true, WebAgent.sendrtcp, hconv, hready, Bool.and_self, true_imp_iff]
    exact guarded_pair rfl

/-- A packet from the browser is guarded exactly when libsrtp clears it. -/
theorem guarded_received_iff (cfg : Config) (l : Live) (srtp : Srtp) (componentID len : Nat)
    (buf : Bytes) :
    Guarded (l.session.webAgent.receiveDataCallback cfg srtp componentID len buf
        l.session.imsAgent l.statics).2.2 ↔
      Cleared l (.received srtp componentID len buf) := by
  have hnil : Guarded [] := guarded_of_no_media (by simp)
  simp only [Cleared]
  by_cases htaken : Taken l.session.webAgent componentID buf
  · rw [received_of_taken htaken]
    by_cases haudio : (RTP_HEADER.payload buf : Int) = PT_PCMA_DEFAULT
    · simp only [htaken, haudio, if_pos, true_imp_iff, ne_eq, not_true_eq_false, false_imp_iff,
        and_true]
      exact guarded_pair rfl
    · by_cases hvideo : (RTP_HEADER.payload buf : Int) = l.session.webAgent.vPayload
      · have hpair : Guarded [.srtp .unprotect (srtp.unprotect buf len).status,
            .media .videoToConverter (convertAndSend (srtp.unprotect buf len).buffer
              (srtp.unprotect buf len).len)] ↔ (srtp.unprotect buf len).status = .ok :=
          guarded_pair rfl
        dsimp only
        rw [if_neg haudio, if_pos hvideo, guarded_append (startsQuiet_cons rfl),
          hpair, guarded_sendrtcp_iff htaken]
        constructor
        · intro hboth _
          rcases hboth with ⟨hrtcp, hunprotect⟩
          exact ⟨fun h => absurd h haudio, fun _ _ => ⟨hunprotect, hrtcp⟩⟩
        · intro h
          obtain ⟨hunprotect, hrtcp⟩ := (h htaken).2 haudio hvideo
          exact ⟨hrtcp, hunprotect⟩
      · simp [haudio, hvideo, hnil]
  · rw [received_of_not_taken htaken]
    simp [htaken, hnil]

/-! ## Every run -/

theorem no_media_signal {cfg : Config} {self : Nat} {st : MediaSession × Timer} {e : Signal}
    {a : Action} (ha : a ∈ ((session cfg self).step st e).2) : a.isMedia = false := by
  have hreply : ∀ s, a ∈ MediaSession.reply cfg e.handler e.env e.message s →
      a.isMedia = false := by
    intro s ha
    have hsig := MediaSession.isSignalling_of_mem_reply ha
    cases a with
    | media path data => cases hsig
    | _ => rfl
  cases hm : MediaSession.startsMedia e.handler e.message with
  | false =>
    simp only [session, MediaSession.handle_of_not_startsMedia hm] at ha
    exact hreply _ ha
  | true =>
    simp only [session, MediaSession.handle_of_startsMedia hm, List.mem_append] at ha
    rcases ha with ha | ha
    · exact hreply _ ha
    · simp only [MediaSession.doTailingJobs, WebAgent.doTailingJobs, List.mem_cons,
        List.not_mem_nil, or_false] at ha
      rcases ha with rfl | rfl <;> rfl

/-- One event is guarded exactly when libsrtp clears it. -/
theorem guarded_step_iff (cfg : Config) (self : Nat) (l : Live) (e : MediaEvent) :
    Guarded ((mediaSession cfg self).step l e).2 ↔ Cleared l e := by
  have hnil : Guarded [] := guarded_of_no_media (by simp)
  cases e with
  | signal e =>
    simp only [Cleared, iff_true]
    exact guarded_of_no_media fun a ha => no_media_signal ha
  | received srtp componentID len buf => exact guarded_received_iff cfg l srtp componentID len buf
  | forWeb srtp mediaData len type =>
    simp only [Cleared, iff_true]
    exact guarded_sendData cfg srtp mediaData len type l.session.webAgent
  | stateChanged componentID state => exact iff_of_true hnil trivial
  | counted => exact iff_of_true hnil trivial

theorem startsQuiet_received (cfg : Config) (l : Live) (srtp : Srtp) (componentID len : Nat)
    (buf : Bytes) :
    StartsQuiet (l.session.webAgent.receiveDataCallback cfg srtp componentID len buf
      l.session.imsAgent l.statics).2.2 := by
  by_cases htaken : Taken l.session.webAgent componentID buf
  · have hrtcp : StartsQuiet (l.session.webAgent.sendrtcp srtp (l.statics.a + 1)) := by
      unfold WebAgent.sendrtcp
      split
      · exact startsQuiet_cons rfl
      · exact startsQuiet_nil
    rw [received_of_taken htaken]
    dsimp only
    split
    · exact startsQuiet_cons rfl
    · split
      · split
        · exact hrtcp.append (startsQuiet_cons rfl)
        · exact startsQuiet_cons rfl
      · exact startsQuiet_nil
  · rw [received_of_not_taken htaken]
    exact startsQuiet_nil

theorem startsQuiet_sendData (cfg : Config) (srtp : Srtp) (mediaData : Bytes) (len : Nat)
    (type : Bool) (w : WebAgent) : StartsQuiet (w.sendData cfg srtp mediaData len type) := by
  unfold WebAgent.sendData
  dsimp only
  split_ifs
  all_goals first
    | exact startsQuiet_nil
    | exact startsQuiet_cons rfl

/-- No event starts with media. -/
theorem startsQuiet_step (cfg : Config) (self : Nat) (l : Live) (e : MediaEvent) :
    StartsQuiet ((mediaSession cfg self).step l e).2 := by
  cases e with
  | signal e => exact fun a ha => no_media_signal (List.mem_of_mem_head? ha)
  | received srtp componentID len buf => exact startsQuiet_received cfg l srtp componentID len buf
  | forWeb srtp mediaData len type =>
    exact startsQuiet_sendData cfg srtp mediaData len type l.session.webAgent
  | stateChanged componentID state => exact startsQuiet_nil
  | counted => exact startsQuiet_nil

theorem startsQuiet_run (cfg : Config) (self : Nat) (l : Live) (es : List MediaEvent) :
    StartsQuiet ((mediaSession cfg self).run l es).2 := by
  induction es generalizing l with
  | nil => exact startsQuiet_nil
  | cons e es ih =>
    rw [Transducer.run_cons]
    exact (startsQuiet_step cfg self l e).append (ih _)

/-- In every run of a session, media leaves only behind a successful operation
of libsrtp exactly when libsrtp clears every packet that comes from the
browser. -/
theorem guarded_iff (cfg : Config) (self : Nat) (l : Live) (es : List MediaEvent) :
    Guarded ((mediaSession cfg self).run l es).2 ↔ (mediaSession cfg self).Meets Cleared l es := by
  induction es generalizing l with
  | nil => exact iff_of_true (guarded_of_no_media (by simp)) trivial
  | cons e es ih =>
    rw [Transducer.run_cons, guarded_append (startsQuiet_run cfg self _ es), guarded_step_iff,
      ih, Transducer.meets_cons]

/-- A new session before any message. -/
def Live.new (cfg : Config) : Live where
  session := MediaSession.fresh cfg
  timer := Timer.init
  statics := Statics.init

/-- libsrtp at a packet that does not authenticate: the buffer stays as it
is. -/
def Srtp.refusing : Srtp where
  unprotect := fun buf len => { status := .authFail, buffer := buf, len }
  protect := fun buf len => { status := .ok, buffer := buf, len }
  protectRtcp := fun buf len => { status := .ok, buffer := buf, len }
  sc := 0

/-- A call from the web is set up and ICE becomes ready. -/
def establishing : List MediaEvent :=
  [ .signal (audioSdp .offerFromWeb RoapType.offer "8")
  , .signal (audioSdp .answerFromIMS RoapType.answer "8")
  , .stateChanged 1 4 ]

/-- An audio packet that libsrtp refuses goes to IMS. -/
theorem not_guarded :
    ¬ Guarded ((mediaSession (Config.over []) 0).run (Live.new (Config.over []))
      (establishing ++
        [.received Srtp.refusing 1 12 [0x80, 8, 0, 1, 0, 0, 0, 0, 0, 0, 0, 9]])).2 := by
  intro h
  rw [Transducer.run_append, guarded_append (startsQuiet_run _ _ _ _), Transducer.run_cons,
    Transducer.run_nil, List.append_nil, guarded_step_iff] at h
  have hstatus := (h.2 ⟨rfl, by decide, by decide, rfl⟩).1 (by decide)
  cases hstatus

end MediaGateway
