import MediaGateway.Gateway.Calls

/-!
# The assertion of `handleSessionMessage`

`assert(used == true)` fails when an offer names a call that is in the map.  What
is in the map depends on everything the call was given: a shutdown takes it out
at once, the periodic check stops the session and leaves the entry, and then the
next message that is no offer takes it out.

`callStatus` computes this from the inputs of the call alone, and
`assertion_holds_iff` says that a run passes the assertion exactly when each of
its offers finds its call absent.
-/

namespace MediaGateway

open Lib MediaSession

/-- Where a call stands. -/
inductive CallStatus
  /-- not in the map -/
  | absent
  /-- in the map with a running session; the packet counters at the last check -/
  | live (web ims : UInt32)
  /-- in the map with a stopped session -/
  | stopped
  deriving DecidableEq, Repr

namespace CallStatus

/-- A message for the call. -/
def afterMessage (roapType : RoapType) : CallStatus → CallStatus
  | .absent => if roapType = RoapType.offer then .live 0 0 else .absent
  | .live web ims => if roapType = RoapType.shutdownR then .absent else .live web ims
  | .stopped => .absent

/-- A check of the call: it goes on only if both counters have moved. -/
def afterTimeout (flow : Flow) : CallStatus → CallStatus
  | .live web ims =>
    if flow.web ≠ web ∧ flow.ims ≠ ims then .live flow.web flow.ims else .stopped
  | status => status

/-- One input, for the call `id`. -/
def next (cfg : Config) (id : Bytes) (status : CallStatus) : Input → CallStatus
  | .message text env =>
    match MessageParser.parserSessionMessage cfg.json env.mem text with
    | .error _ => status
    | .ok sMsg =>
      if sMsg.roap.offerSessionID = id then status.afterMessage sMsg.roap.type else status
  | .timeout id' flow => if id' = id then status.afterTimeout flow else status

/-- The status that the object of a call shows. -/
def ofObject : Option SessionObj → CallStatus
  | none => .absent
  | some (.running s) => .live s.webAgent.precnt s.imsAgent.precnt
  | some (.stopped _ _) => .stopped

end CallStatus

/-- Where the call `id` stands after its inputs. -/
def callStatus (cfg : Config) (id : Bytes) (ins : List Input) : CallStatus :=
  ins.foldl (CallStatus.next cfg id) .absent

namespace Gateway

variable {cfg : Config} {env : Env} {text : Bytes} {sMsg : SessionMessage} {used : Bool}
  {g g' : Gateway} {log done : List Entry}

/-! ## The status is what the map shows -/

theorem precnt_handle (cfg : Config) (h : Handler) (env : Env) (self : Nat)
    (sMsg : SessionMessage) (s : MediaSession) (t : Timer) :
    (handle cfg h env self sMsg s t).1.webAgent.precnt = s.webAgent.precnt ∧
      (handle cfg h env self sMsg s t).1.imsAgent.precnt = s.imsAgent.precnt := by
  have hread : (readMessage cfg h env sMsg s).webAgent.precnt = s.webAgent.precnt ∧
      (readMessage cfg h env sMsg s).imsAgent.precnt = s.imsAgent.precnt := by
    cases h with
    | candidateFromWeb =>
      refine ⟨?_, rfl⟩
      simp only [readMessage, WebAgent.handleCandidateFromWeb]
      split_ifs <;> rfl
    | _ => exact ⟨rfl, rfl⟩
  cases hm : startsMedia h sMsg with
  | false => rwa [handle_of_not_startsMedia hm]
  | true => rwa [handle_of_startsMedia hm]

theorem ofObject_objectAfter {self : Nat} {t : Timer} {o : Option SessionObj}
    (hoffer : sMsg.roap.type = RoapType.offer → o = none) :
    CallStatus.ofObject (objectAfter cfg env text sMsg self t o) =
      (CallStatus.ofObject o).afterMessage sMsg.roap.type := by
  cases o with
  | none =>
    by_cases htype : sMsg.roap.type = RoapType.offer
    · simp only [objectAfter, if_pos htype, CallStatus.ofObject, CallStatus.afterMessage,
        precnt_handle]
      rfl
    · simp only [objectAfter, if_neg htype, CallStatus.ofObject, CallStatus.afterMessage]
  | some o =>
    cases o with
    | stopped id timerID => rfl
    | running s =>
      have hnot : sMsg.roap.type ≠ RoapType.offer := fun h => by cases hoffer h
      cases hh : handlerFor text sMsg.roap.type with
      | some handler =>
        have hshut : sMsg.roap.type ≠ RoapType.shutdownR := by
          intro hshut
          rw [hshut, handlerFor_shutdown] at hh
          cases hh
        simp only [objectAfter, hh, CallStatus.ofObject, CallStatus.afterMessage, if_neg hshut,
          precnt_handle]
      | none =>
        by_cases hshut : sMsg.roap.type = RoapType.shutdownR
        · simp only [objectAfter, hh, if_pos hshut, CallStatus.ofObject, CallStatus.afterMessage]
        · simp only [objectAfter, hh, if_neg hshut, CallStatus.ofObject, CallStatus.afterMessage]

theorem ofObject_checkMediaFlow (a : Nat) (flow : Flow) (s : MediaSession) (t : Timer) :
    CallStatus.ofObject (some ((s.withFlow flow).checkMediaFlow a t).1) =
      (CallStatus.ofObject (some (.running s))).afterTimeout flow := by
  have hflows : s.flows flow = true ↔
      flow.web ≠ s.webAgent.precnt ∧ flow.ims ≠ s.imsAgent.precnt := by
    simp [flows]
  rw [checkMediaFlow_eq]
  by_cases hflow : s.flows flow = true
  · simp only [if_pos hflow, CallStatus.ofObject, CallStatus.afterTimeout,
      if_pos (hflows.1 hflow), keepFlow]
  · simp only [if_neg hflow, CallStatus.ofObject, CallStatus.afterTimeout,
      if_neg fun h => hflow (hflows.2 h)]

/-- One step moves the status that the map shows as `next` says. -/
theorem Inv.status_step (hinv : Inv cfg g log) {e : Event} {id : Bytes} (hid : id ≠ [])
    (h : (gateway cfg).step g e = .ok (g', done)) :
    CallStatus.ofObject (g'.lookup id) =
      (inputOf g e).foldl (CallStatus.next cfg id) (CallStatus.ofObject (g.lookup id)) := by
  rcases gateway_step_ok h with
      ⟨text, env, sMsg, used, g₁, rfl, hparse, hreceived, rfl⟩ | ⟨n, flow, rfl, rfl, hfired⟩
  · simp only [inputOf, List.foldl_cons, List.foldl_nil, CallStatus.next, hparse]
    split
    · rename_i hown
      subst hown
      rw [hinv.lookup_self hid hreceived, ofObject_objectAfter]
      intro htype
      cases hreceived with
      | ignored hnone =>
        rcases hnone with hempty | ⟨hnot, -⟩
        · exact absurd hempty hid
        · exact absurd htype hnot
      | offered hid' htype' hnew hspare hh => exact lookup_of_unmapped hnew
      | erased hid' hnot hmap hheap => exact absurd htype hnot
      | passed hid' hnot hmap hheap hh => exact absurd htype hnot
      | deleted hid' hshut hmap hheap =>
        rw [htype] at hshut
        exact absurd hshut (by decide)
      | noted hid' hnot hh hmap hheap =>
        rw [htype, handlerFor_offer] at hh
        cases hh
    · rename_i hother
      rw [hinv.lookup_received hreceived fun heq => hother heq.symm]
  · rcases hinv.checked hfired with ⟨hnone, rfl⟩ | ⟨id', hinput, hchecked⟩
    · rw [hnone, List.foldl_nil]
    · rw [hinput, List.foldl_cons, List.foldl_nil]
      simp only [CallStatus.next]
      split
      · rename_i hown
        subst hown
        obtain ⟨a, s, hmap, hheap, hsid, hafter⟩ := hchecked.own
        have hmap' : g'.sessions id' = some a := by rw [hchecked.sessions, hmap]
        rw [lookup_of_map hmap', lookup_of_map hmap, hheap, hafter, ofObject_checkMediaFlow]
      · rename_i hother
        rw [hchecked.other id fun heq => hother heq.symm]

/-- After any run, the status computed from the inputs is the one that the map
shows. -/
theorem callStatus_eq {es : List Event} {id : Bytes} (hid : id ≠ [])
    (h : (gateway cfg).run (init cfg) es = .ok (g, log)) :
    callStatus cfg id (inputs cfg es) = CallStatus.ofObject (g.lookup id) := by
  induction es using List.reverseRecOn generalizing g log with
  | nil =>
    obtain ⟨rfl, rfl⟩ := Machine.run_nil_ok.1 h
    rfl
  | append_singleton es e ih =>
    obtain ⟨g₁, log₁, done, hrun, hstep, rfl⟩ := Machine.run_snoc_ok.1 h
    rw [inputs, Machine.observe_snoc hrun, callStatus, List.foldl_append]
    rw [(inv_run hrun).status_step hid hstep, ← ih hrun]
    rfl

theorem ofObject_eq_absent {o : Option SessionObj} :
    CallStatus.ofObject o = .absent ↔ o = none := by
  cases o with
  | none => exact iff_of_true rfl rfl
  | some o =>
    refine iff_of_false ?_ (Option.some_ne_none o)
    cases o <;> exact CallStatus.noConfusion

/-! ## When the assertion holds -/

/-- A round of the loop fails the assertion exactly when the message offers a
call that is in the map. -/
theorem Inv.receive_assertUsed_iff (hinv : Inv cfg g log) :
    g.receive cfg env text = .error .assertUsed ↔ Reoffers cfg env text g := by
  constructor
  · intro h
    rcases hinv.receive_error h with hparse | ⟨-, hre⟩
    · cases MessageParser.jsonOnly_parserSessionMessage env.mem text _ hparse
    · exact hre
  · intro h
    rw [receive, assertUsed_of_reoffers h]

theorem onTimeout_ne_assertUsed (n : Nat) (flow : Flow) (g : Gateway) :
    g.onTimeout n flow ≠ .error .assertUsed := by
  unfold onTimeout
  split
  · split
    · simp
    · split <;> simp
  · simp

/-- After a run, a step fails the assertion exactly when it is an offer whose
call is not absent. -/
theorem step_assertUsed_iff {es : List Event} {e : Event}
    (h : (gateway cfg).run (init cfg) es = .ok (g, log)) :
    (gateway cfg).step g e = .error .assertUsed ↔
      ∃ text env sMsg, e = .message text env ∧
        MessageParser.parserSessionMessage cfg.json env.mem text = .ok sMsg ∧
        sMsg.roap.offerSessionID ≠ [] ∧ sMsg.roap.type = RoapType.offer ∧
        callStatus cfg sMsg.roap.offerSessionID (inputs cfg es) ≠ .absent := by
  have hinv := inv_run h
  cases e with
  | expire n flow =>
    refine iff_of_false (fun hstep => ?_) (fun ⟨_, _, _, heq, _⟩ => by cases heq)
    simp only [gateway] at hstep
    split at hstep
    · rename_i f hf
      obtain rfl := Except.error.inj hstep
      exact onTimeout_ne_assertUsed n flow g hf
    · cases hstep
  | message text env =>
    have hstatus : ∀ id, id ≠ [] →
        (g.sessions id ≠ none ↔ callStatus cfg id (inputs cfg es) ≠ .absent) := by
      intro id hid
      rw [callStatus_eq hid h, Ne, Ne, ofObject_eq_absent, hinv.lookup_eq_none]
    rw [show (gateway cfg).step g (.message text env) = g.receive cfg env text from rfl,
      hinv.receive_assertUsed_iff]
    constructor
    · intro hex
      rcases hex with ⟨sMsg, hparse, hid, htype, hmap⟩
      exact ⟨text, env, sMsg, rfl, hparse, hid, htype, (hstatus _ hid).1 hmap⟩
    · intro hex
      rcases hex with ⟨text', env', sMsg, heq, hparse, hid, htype, hcall⟩
      obtain ⟨rfl, rfl⟩ := Event.message.inj heq
      exact ⟨sMsg, hparse, hid, htype, (hstatus _ hid).2 hcall⟩

/-- Every offer that the run handles finds its call absent, by what the call was
given before. -/
def OffersAbsent (cfg : Config) (es : List Event) : Prop :=
  ∀ pre text env post sMsg g log, es = pre ++ .message text env :: post →
    (gateway cfg).run (init cfg) pre = .ok (g, log) →
    MessageParser.parserSessionMessage cfg.json env.mem text = .ok sMsg →
    sMsg.roap.offerSessionID ≠ [] → sMsg.roap.type = RoapType.offer →
      callStatus cfg sMsg.roap.offerSessionID (inputs cfg pre) = .absent

/-- A run passes the assertion exactly when its offers find their calls
absent. -/
theorem assertion_holds_iff (cfg : Config) (es : List Event) :
    (gateway cfg).run (init cfg) es ≠ .error .assertUsed ↔ OffersAbsent cfg es := by
  constructor
  · intro hrun pre text env post sMsg g log heq hpre hparse hid htype
    by_contra hstatus
    refine hrun (Machine.run_error_iff.2 ⟨pre, .message text env, post, g, log, heq, hpre, ?_⟩)
    exact (step_assertUsed_iff hpre).2 ⟨text, env, sMsg, rfl, hparse, hid, htype, hstatus⟩
  · intro hoffers hrun
    obtain ⟨pre, e, post, g, log, heq, hpre, hstep⟩ := Machine.run_error_iff.1 hrun
    obtain ⟨text, env, sMsg, rfl, hparse, hid, htype, hstatus⟩ :=
      (step_assertUsed_iff hpre).1 hstep
    exact hstatus (hoffers pre text env post sMsg g log heq hpre hparse hid htype)

/-- An offer that arrives twice, and a new offer with the id of a call that the
periodic check has stopped. -/
theorem assertion_fails :
    (gateway (Config.reading [offerCall])).run (init (Config.reading [offerCall]))
        [Event.of offerCall, Event.of offerCall] = .error .assertUsed ∧
      (gateway (Config.reading [offerCall, answerCall])).run
          (init (Config.reading [offerCall, answerCall]))
          [ Event.of offerCall, Event.of answerCall, .expire 0 { web := 0, ims := 0 }
          , Event.of offerCall ] = .error .assertUsed :=
  ⟨Machine.fault_eq_some (by decide +kernel), Machine.fault_eq_some (by decide +kernel)⟩

end Gateway

end MediaGateway
