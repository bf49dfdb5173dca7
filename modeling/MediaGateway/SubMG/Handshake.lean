import MediaGateway.SubMG.Invariant

/-!
# The handshake

`startFFmpeg` takes the address of a sub-MG out of `addr` once `curstate` says that
there is an answer.  The other thread sets `curstate` before it stores the address,
and `CodecConverter::run` does not look at what `startFFmpeg` returns.

`Stored` is the invariant of every run.  `handshake_safe` is the result: a converter
gets the address of the answer to its own request in every run in which no request
fails and an entry of `addr` is not read while it is stored or stored while it is
read.
-/

namespace MediaGateway

open Lib

namespace SubMG

variable {cfg : Config} {s s' : State} {e : Event} {es : List Event} {log o : List Entry}

/-! ## What `addr` holds -/

/-- The ID whose address the thread of `SubMG::run` is storing. -/
def Control.storing? : Control → Option Nat
  | .setFirst _ msg | .setSecond _ msg => some msg.ID
  | _ => none

/-- The pair of IP and port is one that an answer with this ID carried. -/
def Answer (log : List Entry) (id : Nat) (a : Bytes × UInt16) : Prop :=
  ∃ subMG, Entry.applied subMG id a.2 ∈ log ∧ subMG.1 = a.1

theorem Answer.append {id : Nat} {a : Bytes × UInt16} (h : Answer log id a) (o : List Entry) :
    Answer (log ++ o) id a := by
  obtain ⟨subMG, hin, hip⟩ := h
  exact ⟨subMG, List.mem_append_left o hin, hip⟩

/-- The address of an ID that is answered, except while one is being stored. -/
structure Stored (s : State) (log : List Entry) : Prop where
  half : ∀ r msg, s.control = .setSecond r msg → (s.subMG r.i).1 = (s.addr msg.ID).1
  stored : ∀ id, s.curstate id = 2 → s.control.storing? = some id ∨ Answer log id (s.addr id)

theorem stored_init : Stored init [] where
  half := fun _ _ h => by cases h
  stored := fun _ h => by cases h

/-- The other thread does not touch what `Stored` is about. -/
theorem Stored.frame (h : Stored s log) (hcontrol : s'.control = s.control)
    (hava : s'.avaSubMG = s.avaSubMG) (haddr : s'.addr = s.addr)
    (hcurstate : ∀ id, s'.curstate id = 2 → s.curstate id = 2) (o : List Entry) :
    Stored s' (log ++ o) where
  half := by
    rw [hcontrol, haddr]
    intro r msg hpc
    rw [State.subMG, hava]
    exact h.half r msg hpc
  stored := by
    intro id htwo
    rw [hcontrol, haddr]
    rcases h.stored id (hcurstate id htwo) with hstoring | hanswer
    · exact .inl hstoring
    · exact .inr (hanswer.append o)

/-- Storing an address. -/
theorem stored_control (h : Stored s log) {env : Outside}
    (ht : Trans cfg s (.control env) s' o) : Stored s' (log ++ o) := by
  have hdone : s.control.storing? = none → ∀ id, s.curstate id = 2 → Answer log id (s.addr id) := by
    intro hnone id htwo
    rcases h.stored id htwo with hstoring | hanswer
    · rw [hnone] at hstoring
      cases hstoring
    · exact hanswer
  cases ht with
  | @setState _ r msg hpc =>
    refine ⟨fun _ _ hpc' => (by cases hpc'), fun id htwo => ?_⟩
    by_cases hid : id = msg.ID
    · exact .inl (by rw [hid]; rfl)
    · refine .inr ((hdone (by rw [hpc]; rfl) id ?_).append [])
      dsimp only at htwo
      rwa [Function.update_of_ne hid] at htwo
  | @setFirst _ r msg hpc =>
    constructor
    · intro r' msg' hpc'
      cases hpc'
      dsimp only
      rw [Function.update_self]
      rfl
    · intro id htwo
      by_cases hid : id = msg.ID
      · exact .inl (by rw [hid]; rfl)
      · rcases h.stored id htwo with hstoring | hanswer
        · rw [hpc] at hstoring
          exact absurd (Option.some.inj hstoring).symm hid
        · dsimp only
          rw [Function.update_of_ne hid]
          exact .inr (hanswer.append [])
  | @setSecond _ r msg hpc =>
    refine ⟨fun _ _ hpc' => (by cases hpc'), fun id htwo => .inr ?_⟩
    dsimp only
    by_cases hid : id = msg.ID
    · rw [hid, Function.update_self]
      exact ⟨s.subMG r.i, List.mem_append_right log (List.mem_singleton.2 rfl), h.half r msg hpc⟩
    · rw [Function.update_of_ne hid]
      rcases h.stored id htwo with hstoring | hanswer
      · rw [hpc] at hstoring
        exact absurd (Option.some.inj hstoring).symm hid
      · exact hanswer.append _
  | @accept _ r hpc hge =>
    obtain ⟨avaSubMG, heq⟩ := accept_eq r env s
    rw [heq]
    exact ⟨fun _ _ hpc' => (by cases hpc'),
      fun id htwo => .inr ((hdone (by rw [hpc]; rfl) id htwo).append [])⟩
  | wait hpc =>
    rw [List.append_nil]
    exact h
  | select hpc | skip hpc | closed hpc | recv hpc | waited hpc =>
    exact ⟨fun _ _ hpc' => (by cases hpc'),
      fun id htwo => .inr ((hdone (by rw [hpc]; rfl) id htwo).append _)⟩

theorem stored_step (h : Stored s log) (hstep : (threads cfg).step s e = .ok (s', o)) :
    Stored s' (log ++ o) := by
  have ht := step_ok hstep
  cases e with
  | call type myRecvPort destPort pad =>
    obtain ⟨-, hcases⟩ := call_eq ht
    have hframe : s'.control = s.control ∧ s'.avaSubMG = s.avaSubMG ∧ s'.addr = s.addr ∧
        s'.curstate = s.curstate := by
      rcases hcases with rfl | ⟨-, ⟨r, rfl⟩ | ⟨-, rfl⟩⟩ <;> exact ⟨rfl, rfl, rfl, rfl⟩
    obtain ⟨hcontrol, hava, haddr, hcurstate⟩ := hframe
    exact h.frame hcontrol hava haddr (fun id htwo => hcurstate ▸ htwo) o
  | requester env =>
    obtain ⟨hcontrol, hava, haddr, hcurstate⟩ := requester_curstate ht
    refine h.frame hcontrol hava haddr (fun id htwo => ?_) o
    rcases hcurstate with heq | ⟨r, idx, subMG, -, -, heq⟩
    · rwa [heq] at htwo
    · rw [heq, Function.update_apply] at htwo
      split at htwo
      · cases htwo
      · exact htwo
  | control env => exact stored_control h ht

/-! ## Reading it -/

/-- The step is taken in turn: a codec can be asked for, the request does not fail,
the address is not read between the point where `curstate` says that there is an
answer and the point where all of it is stored, and nothing is stored between the
two reads. -/
def inTurn (cfg : Config) (s : State) : Event → Bool
  | .call type _ _ _ => (selectCodec cfg.codec type).isSome
  | .requester env =>
    match s.requester with
    | .available _ _ => decide (s.avaSubMG ≠ [])
    | .sending _ _ => decide (0 < env.num)
    | .readFirst _ idx => decide (s.control.storing? ≠ some idx)
    | _ => true
  | .control _ =>
    match s.requester with
    | .readSecond _ idx _ => decide (s.control.storing? ≠ some idx)
    | _ => true

/-- A call of `startFFmpeg` that sent a request and got this address for it. -/
def Answered (log : List Entry) (ab : Option Int) (a : Bytes × UInt16) : Prop :=
  ∃ id : Nat, ab = some (id : Int) ∧ Sent log id ∧ Answer log id a

/-- What the thread of `CodecConverter::run` has read. -/
def Requester.Reads (addr : Nat → Bytes × UInt16) (log : List Entry) : Requester → Prop
  | .readSecond _ idx destIP => Answer log idx (destIP, (addr idx).2)
  | .returned _ ab destIP destPort => Answered log ab (destIP, destPort)
  | .running _ ab => ∃ a, Answered log ab a
  | _ => True

/-- A destination is set, and a converter started, only with the address that the
answer to the converter's own request carried. -/
structure Handshake (log : List Entry) : Prop where
  destination : ∀ type ab destIP destPort,
    Entry.setDestination type ab destIP destPort ∈ log → Answered log ab (destIP, destPort)
  started : ∀ type ab, Entry.run type ab ∈ log → ab ≠ some (-1) ∧ ab ≠ some (-2)

theorem handshake_nil : Handshake [] where
  destination := fun _ _ _ _ h => by cases h
  started := fun _ _ h => by cases h

theorem Answered.append {ab : Option Int} {a : Bytes × UInt16} (h : Answered log ab a)
    (o : List Entry) : Answered (log ++ o) ab a := by
  obtain ⟨id, hab, hsent, hanswer⟩ := h
  exact ⟨id, hab, hsent.append o, hanswer.append o⟩

theorem Answered.ne_failed {ab : Option Int} {a : Bytes × UInt16} (h : Answered log ab a) :
    ab ≠ some (-1) ∧ ab ≠ some (-2) := by
  obtain ⟨id, rfl, -⟩ := h
  refine ⟨fun heq => ?_, fun heq => ?_⟩ <;>
    have hid := Option.some.inj heq <;> omega

/-- What was read stays true while the entry of `addr` between the two reads stays as it
is. -/
theorem Requester.Reads.mono {addr addr' : Nat → Bytes × UInt16} {q : Requester}
    (h : q.Reads addr log)
    (haddr : ∀ r idx destIP, q = .readSecond r idx destIP → addr' idx = addr idx)
    (o : List Entry) : q.Reads addr' (log ++ o) := by
  cases q with
  | readSecond r idx destIP =>
    have hsame := haddr r idx destIP rfl
    show Answer (log ++ o) idx (destIP, (addr' idx).2)
    rw [hsame]
    exact Answer.append h o
  | returned type ab destIP destPort => exact Answered.append h o
  | running type ab =>
    obtain ⟨a, hanswered⟩ := h
    exact ⟨a, hanswered.append o⟩
  | _ => trivial

/-- The thread of `SubMG::run` changes one entry of `addr`. -/
theorem control_addr {env : Outside} (ht : Trans cfg s (.control env) s' o) {id : Nat}
    (hid : s.control.storing? ≠ some id) : s'.addr id = s.addr id := by
  have hne : ∀ msg : CtrlMsg, s.control.storing? = some msg.ID → id ≠ msg.ID := by
    intro msg hstoring heq'
    subst heq'
    exact hid hstoring
  cases ht with
  | @setFirst _ r msg hpc => exact Function.update_of_ne (hne msg (by rw [hpc]; rfl)) _ _
  | @setSecond _ r msg hpc => exact Function.update_of_ne (hne msg (by rw [hpc]; rfl)) _ _
  | @accept _ r hpc hge =>
    obtain ⟨avaSubMG, heq⟩ := accept_eq r env s
    rw [heq]
  | _ => rfl

/-- What holds of a run whose steps are taken in turn. -/
structure InTurn (s : State) (log : List Entry) : Prop where
  issued : Issued s log
  stored : Stored s log
  reads : s.requester.Reads s.addr log
  handshake : Handshake log

theorem inTurn_init : InTurn init [] where
  issued := issued_init
  stored := stored_init
  reads := trivial
  handshake := handshake_nil

/-- The thread of `CodecConverter::run` reads an address of its own. -/
theorem reads_requester (h : InTurn s log) {env : Outside}
    (hturn : inTurn cfg s (.requester env) = true)
    (ht : Trans cfg s (.requester env) s' o) :
    s'.requester.Reads s'.addr (log ++ o) := by
  have hreads := h.reads
  have hholds := h.issued.requester
  unfold inTurn at hturn
  cases ht with
  | noSubMG hpc hlen =>
    rw [hpc] at hturn
    exact absurd (List.length_eq_zero_iff.1 hlen) (of_decide_eq_true hturn)
  | sendFailed hpc _ hnum =>
    rw [hpc] at hturn
    exact absurd (of_decide_eq_true hturn) (Int.not_lt.2 hnum)
  | @readFirst _ r idx hpc =>
    rw [hpc] at hturn hholds
    rcases h.stored.stored idx hholds.1 with hstoring | hanswer
    · exact absurd hstoring (of_decide_eq_true hturn)
    · exact hanswer.append []
  | @readSecond _ r idx destIP hpc =>
    rw [hpc] at hreads hholds
    exact ⟨idx, rfl, hholds.2.append [], Answer.append hreads []⟩
  | @setDestination _ type ab destIP destPort hpc =>
    rw [hpc] at hreads
    exact ⟨(destIP, destPort), Answered.append hreads _⟩
  | idle | wrap | taken | poll => exact hreads.mono (fun _ _ _ _ => rfl) []
  | _ => trivial

/-- While it does, the other thread leaves the entry alone. -/
theorem reads_control (h : InTurn s log) {env : Outside}
    (hturn : inTurn cfg s (.control env) = true)
    (ht : Trans cfg s (.control env) s' o) :
    s'.requester.Reads s'.addr (log ++ o) := by
  rw [(control_curstate ht).1]
  refine h.reads.mono (fun r idx destIP hpc => control_addr ht ?_) o
  unfold inTurn at hturn
  rw [hpc] at hturn
  exact of_decide_eq_true hturn

/-- A call starts with nothing read, unless there is no codec to ask for. -/
theorem reads_call (h : InTurn s log) {type : Bool} {myRecvPort destPort : UInt16} {pad : UInt32}
    (hturn : inTurn cfg s (.call type myRecvPort destPort pad) = true)
    (ht : Trans cfg s (.call type myRecvPort destPort pad) s' o) :
    s'.requester.Reads s'.addr (log ++ o) := by
  obtain ⟨rfl, hcases⟩ := call_eq ht
  rcases hcases with rfl | ⟨-, ⟨r, rfl⟩ | ⟨hnone, rfl⟩⟩
  · exact h.reads.mono (fun _ _ _ _ => rfl) []
  · trivial
  · rw [inTurn, hnone] at hturn
    cases hturn

/-- Destinations are set, and converters started, by two statements. -/
theorem requester_of_entry (ht : Trans cfg s e s' o) :
    (∀ type ab destIP destPort, Entry.setDestination type ab destIP destPort ∈ o →
      s.requester = .returned type ab destIP destPort) ∧
    ∀ type ab, Entry.run type ab ∈ o → s.requester = .running type ab := by
  cases ht with
  | setDestination hpc =>
    refine ⟨fun type ab destIP destPort hin => ?_, fun type ab hin => ?_⟩
    · cases List.mem_singleton.1 hin
      exact hpc
    · cases List.mem_singleton.1 hin
  | run hpc =>
    refine ⟨fun type ab destIP destPort hin => ?_, fun type ab hin => ?_⟩
    · cases List.mem_singleton.1 hin
    · cases List.mem_singleton.1 hin
      exact hpc
  | _ => simp

theorem handshake_step (h : InTurn s log) (ht : Trans cfg s e s' o) : Handshake (log ++ o) := by
  obtain ⟨hdestination, hrun⟩ := requester_of_entry ht
  have hreads := h.reads
  constructor
  · intro type ab destIP destPort hin
    rcases List.mem_append.1 hin with hin | hin
    · exact (h.handshake.destination type ab destIP destPort hin).append o
    · rw [hdestination type ab destIP destPort hin] at hreads
      exact Answered.append hreads o
  · intro type ab hin
    rcases List.mem_append.1 hin with hin | hin
    · exact h.handshake.started type ab hin
    · rw [hrun type ab hin] at hreads
      obtain ⟨a, hanswered⟩ := hreads
      exact hanswered.ne_failed

theorem inTurn_step (h : InTurn s log) (hturn : inTurn cfg s e = true)
    (hstep : (threads cfg).step s e = .ok (s', o)) : InTurn s' (log ++ o) where
  issued := issued_step h.issued hstep
  stored := stored_step h.stored hstep
  reads := by
    have ht := step_ok hstep
    cases e with
    | call type myRecvPort destPort pad => exact reads_call h hturn ht
    | requester env => exact reads_requester h hturn ht
    | control env => exact reads_control h hturn ht
  handshake := handshake_step h (step_ok hstep)

/-- In every run whose steps are taken in turn a converter gets the address of the
answer to its own request, and is not started without one. -/
theorem handshake_safe (cfg : Config) (es : List Event)
    (hrun : (threads cfg).run init es = .ok (s, log))
    (hturn : (threads cfg).Meets (fun s e => inTurn cfg s e = true) init es) :
    Handshake log := by
  have hinv : InTurn s ([] ++ log) :=
    Machine.run_inv_log (fun _ _ _ _ _ hinv hturn hstep => inTurn_step hinv hturn hstep)
      inTurn_init hturn hrun
  exact hinv.handshake

/-- A request whose answer is stored before it is read. -/
theorem handshake_call :
    ∃ s log, (threads Config.main).run init oneCall = .ok (s, log) ∧ Handshake log := by
  obtain ⟨s, log, hrun⟩ := Machine.fault_eq_none
    (show (threads Config.main).fault init oneCall = none by decide +kernel)
  exact ⟨s, log, hrun, handshake_safe Config.main oneCall hrun (by decide +kernel)⟩

/-- No answer went to `addr`. -/
theorem not_answered {ab : Option Int} {a : Bytes × UInt16}
    (h : log.filter (fun entry => entry matches .applied _ _ _) = []) : ¬ Answered log ab a := by
  intro hex
  rcases hex with ⟨id, -, -, subMG, hin, -⟩
  have hnone := List.filter_eq_nil_iff.1 h _ hin
  exact hnone rfl

/-- The address is read when `curstate` is set and `addr` is not; and a request for
which there is no sub-MG. -/
theorem not_handshake :
    (∃ s log,
      (threads Config.main).run init
          (connects ++ asks ++ sends firstData ++
            List.replicate 2 (.control .quiet) ++ List.replicate 6 (.requester .quiet)) =
        .ok (s, log) ∧ ¬ Handshake log) ∧
      ∃ s log,
        (threads Config.main).run init
            (.call false 5000 0 0 :: List.replicate 4 (.requester .quiet)) = .ok (s, log) ∧
          ¬ Handshake log := by
  constructor
  · obtain ⟨s, log, hrun, hlog⟩ := Machine.exists_of_map
      (show ((threads Config.main).run init
          (connects ++ asks ++ sends firstData ++ List.replicate 2 (.control .quiet) ++
            List.replicate 6 (.requester .quiet))).toOption.map
              (fun r => decide (Entry.setDestination false (some 1) [] 0 ∈ r.2 ∧
                r.2.filter (fun entry => entry matches .applied _ _ _) = [])) = some true by
        decide +kernel)
    obtain ⟨hset, hnone⟩ := of_decide_eq_true hlog
    exact ⟨s, log, hrun, fun h => not_answered hnone (h.destination _ _ _ _ hset)⟩
  · obtain ⟨s, log, hrun, hlog⟩ := Machine.exists_of_map
      (show ((threads Config.main).run init
          (.call false 5000 0 0 :: List.replicate 4 (.requester .quiet))).toOption.map
            (fun r => decide (Entry.setDestination false (some (-1)) [] 0 ∈ r.2 ∧
              r.2.filter (fun entry => entry matches .applied _ _ _) = [])) = some true by
        decide +kernel)
    obtain ⟨hset, hnone⟩ := of_decide_eq_true hlog
    exact ⟨s, log, hrun, fun h => not_answered hnone (h.destination _ _ _ _ hset)⟩

end SubMG

end MediaGateway
