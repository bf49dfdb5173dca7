import MediaGateway.Gateway.Calls

/-!
# Timers and sessions

`doTailingJobs` sets the first timer of a session and `checkMediaFlow` sets the
next one before its own ends.  The session remembers one number, and only the
timer with that number is stopped when the session is deleted.

`Armed` links the timer tables to the sessions: every pending timer is the one
that a running session remembers.  Nothing in the code keeps a second answer
from running `doTailingJobs` again, and the timer numbers come round, so
`Armed` holds on the runs whose steps are `Orderly`, and `timers_safe` is what
follows for them.
-/

namespace MediaGateway

open Lib MediaSession

/-- An entry for `doTailingJobs` of the session `a`. -/
def Entry.isTailing (a : Nat) : Entry → Bool
  | .did session _ .doTailingJobs => session == a
  | _ => false

/-- How often `doTailingJobs` ran for the session `a`. -/
def tailed (a : Nat) (log : List Entry) : Nat := log.countP (Entry.isTailing a)

@[simp] theorem tailed_append (a : Nat) (xs ys : List Entry) :
    tailed a (xs ++ ys) = tailed a xs + tailed a ys :=
  List.countP_append ..

theorem tailed_eq_zero {a : Nat} {log : List Entry} (h : ∀ e ∈ log, e.session ≠ a) :
    tailed a log = 0 := by
  refine List.countP_eq_zero.2 fun e he htail => ?_
  cases e with
  | handled session id h => cases htail
  | did session id act =>
    cases act with
    | doTailingJobs => exact h _ he (beq_iff_eq.1 htail)
    | _ => cases htail

namespace SessionObj

/-- The timer that a session remembers. -/
def ownTimer : Option SessionObj → Option Nat
  | some (.running s) => if s.timerID = 0 then none else some s.timerID
  | _ => none

theorem exists_of_ownTimer {o : Option SessionObj} {id : Nat} (h : ownTimer o = some id) :
    ∃ s, o = some (.running s) := by
  cases o with
  | none => cases h
  | some o =>
    cases o with
    | running s => exact ⟨s, rfl⟩
    | stopped offerSessionID timerID => cases h

end SessionObj

namespace Gateway

open SessionObj

variable {cfg : Config} {env : Env} {text : Bytes} {sMsg : SessionMessage} {used : Bool}
  {g g' : Gateway} {log done : List Entry}

/-! ## The condition -/

/-- The running session for which the message is an accepted answer. -/
def starting (cfg : Config) (env : Env) (text : Bytes) (g : Gateway) : Option MediaSession :=
  match MessageParser.parserSessionMessage cfg.json env.mem text with
  | .error _ => none
  | .ok sMsg =>
    match g.lookup sMsg.roap.offerSessionID, handlerFor text sMsg.roap.type with
    | some (.running s), some h => if startsMedia h sMsg then some s else none
    | _, _ => none

/-- Whether the timer `n` fires and finds that media flows. -/
def goesOn (n : Nat) (flow : Flow) (g : Gateway) : Bool :=
  if g.timer.running n then
    match g.timer.objects n with
    | none => false
    | some ts =>
      match g.heap ts.para with
      | some (.running s) => s.flows flow
      | _ => false
  else
    false

/-- An accepted answer comes to a session that has no timer yet, and the number
of a timer that is set is not in use. -/
def Orderly (cfg : Config) (g : Gateway) : Event → Prop
  | .message text env => ∀ s ∈ g.starting cfg env text, s.timerID = 0 ∧ g.timer.Fresh
  | .expire n flow => g.goesOn n flow = true → g.timer.Fresh

instance (t : Timer) : Decidable t.Fresh := inferInstanceAs (Decidable (_ = _))

instance (cfg : Config) (g : Gateway) : (e : Event) → Decidable (Orderly cfg g e)
  | .message text env =>
    inferInstanceAs (Decidable (∀ s ∈ g.starting cfg env text, s.timerID = 0 ∧ g.timer.Fresh))
  | .expire n flow => inferInstanceAs (Decidable (g.goesOn n flow = true → g.timer.Fresh))

/-! ## The invariant -/

/-- Every pending timer is the one that a running session remembers, and a
session that remembers none never ran its tailing jobs. -/
structure Armed (heap : Nat → Option SessionObj) (timer : Timer) (log : List Entry) : Prop where
  owners : timer.Matches (ownTimer ∘ heap)
  idle : ∀ a s, heap a = some (.running s) → s.timerID = 0 → tailed a log = 0
  once : ∀ a, tailed a log ≤ 1

theorem armed_init (cfg : Config) : Armed (init cfg).heap (init cfg).timer [] where
  owners := by
    have hnone : ownTimer ∘ (init cfg).heap = fun _ => none := by
      funext a
      simp only [init, newSpare, Function.comp_apply, Function.update_apply]
      split <;> rfl
    rw [hnone]
    refine ⟨fun _ _ => rfl, fun n hn => ?_, fun a id ha => ?_⟩
    · cases hn
    · cases ha
  idle := fun _ _ _ _ => rfl
  once := fun _ => Nat.zero_le 1

/-- One session changes, and with it the timers. -/
theorem Armed.touch {heap : Nat → Option SessionObj} {timer timer' : Timer}
    (harmed : Armed heap timer log) {a : Nat} {o : Option SessionObj}
    (howners : timer'.Matches (Function.update (ownTimer ∘ heap) a (ownTimer o)))
    (hother : ∀ b, b ≠ a → tailed b done = 0)
    (hidle : ∀ s, o = some (.running s) → s.timerID = 0 → tailed a (log ++ done) = 0)
    (honce : tailed a (log ++ done) ≤ 1) :
    Armed (Function.update heap a o) timer' (log ++ done) where
  owners := by
    rw [Function.comp_update]
    exact howners
  idle := by
    intro b s hs htimer
    by_cases hba : b = a
    · subst hba
      rw [Function.update_self] at hs
      exact hidle s hs htimer
    · rw [Function.update_of_ne hba] at hs
      rw [tailed_append, harmed.idle b s hs htimer, hother b hba]
  once := by
    intro b
    by_cases hba : b = a
    · subst hba
      exact honce
    · rw [tailed_append, hother b hba]
      exact harmed.once b

/-- One session changes but for its timer, and does no tailing jobs. -/
theorem Armed.keep {heap : Nat → Option SessionObj} {timer : Timer}
    (harmed : Armed heap timer log) {a : Nat} {o : Option SessionObj}
    (hown : ownTimer o = ownTimer (heap a)) (hdone : ∀ b, tailed b done = 0)
    (hidle : ∀ s, o = some (.running s) → s.timerID = 0 → tailed a log = 0) :
    Armed (Function.update heap a o) timer (log ++ done) := by
  refine harmed.touch ?_ (fun b _ => hdone b) (fun s hs htimer => ?_) ?_
  · rw [hown, ← Function.comp_apply (f := ownTimer), Function.update_eq_self]
    exact harmed.owners
  · rw [tailed_append, hidle s hs htimer, hdone]
  · rw [tailed_append, hdone]
    exact harmed.once a

/-! ## Every step -/

theorem tailed_entries (h : Handler) (a b : Nat) (s : MediaSession) :
    tailed b (g.entries cfg h env a sMsg s) =
      if b = a then if startsMedia h sMsg then 1 else 0 else 0 := by
  split
  · rename_i hba
    subst hba
    rw [← count_doTailingJobs_handle cfg h env b sMsg s g.timer]
    simp only [tailed, entries]
    rw [List.countP_cons_of_neg (by simp [Entry.isTailing]), List.countP_map, List.count]
    refine List.countP_congr fun act _ => ?_
    cases act <;> simp [Entry.isTailing]
  · rename_i hba
    exact tailed_eq_zero fun e he => by
      rw [(mem_entries he).1]
      exact Ne.symm hba

/-- A handler keeps the invariant if it starts no media where there is a timer
already. -/
theorem Armed.afterHandler (harmed : Armed g.heap g.timer log) {h : Handler} {a : Nat}
    {s : MediaSession} (hheap : g.heap a = some (.running s))
    (hstart : startsMedia h sMsg = true → s.timerID = 0 ∧ g.timer.Fresh) :
    Armed (g.afterHandler cfg h env a sMsg s).heap (g.afterHandler cfg h env a sMsg s).timer
      (log ++ g.entries cfg h env a sMsg s) := by
  have htimerID := handle_timerID cfg h env a sMsg s g.timer
  have htailed : ∀ b, b ≠ a → tailed b (g.entries cfg h env a sMsg s) = 0 := fun b hba => by
    rw [tailed_entries, if_neg hba]
  cases hm : startsMedia h sMsg with
  | false =>
    simp only [hm, Bool.false_eq_true, if_false] at htimerID
    have htimer : (g.afterHandler cfg h env a sMsg s).timer = g.timer := by
      simp only [Gateway.afterHandler, handle_timer, hm, Bool.false_eq_true, if_false]
    rw [htimer]
    refine harmed.keep ?_ (fun b => ?_) fun s' hs' hzero => ?_
    · simp only [hheap, ownTimer, htimerID]
    · simp [tailed_entries, hm]
    · obtain rfl := SessionObj.running.inj (Option.some.inj hs')
      rw [htimerID] at hzero
      exact harmed.idle a s hheap hzero
  | true =>
    obtain ⟨hzero, hfresh⟩ := hstart hm
    simp only [hm, if_true] at htimerID
    have hne : (handle cfg h env a sMsg s g.timer).1.timerID ≠ 0 := by
      rw [htimerID]
      exact Timer.setTimer_fst_ne_zero a g.timer
    have htimer : (g.afterHandler cfg h env a sMsg s).timer = (g.timer.setTimer a).2 := by
      simp only [Gateway.afterHandler, handle_timer, hm, if_true]
    rw [htimer]
    refine harmed.touch ?_ htailed (fun s' hs' hzero' => ?_) ?_
    · have hnone : (ownTimer ∘ g.heap) a = none := by
        simp only [Function.comp_apply, hheap, ownTimer, if_pos hzero]
      simp only [ownTimer, if_neg hne]
      rw [htimerID]
      exact harmed.owners.setTimer hfresh hnone
    · obtain rfl := SessionObj.running.inj (Option.some.inj hs')
      exact absurd hzero' hne
    · rw [tailed_append, harmed.idle a s hheap hzero, tailed_entries, if_pos rfl, hm]
      exact Nat.le_refl 1

theorem starting_eq {a : Nat} {s : MediaSession} {h : Handler}
    (hparse : MessageParser.parserSessionMessage cfg.json env.mem text = .ok sMsg)
    (hmap : g.sessions sMsg.roap.offerSessionID = some a)
    (hheap : g.heap a = some (.running s)) (hh : handlerFor text sMsg.roap.type = some h)
    (hm : startsMedia h sMsg = true) : g.starting cfg env text = some s := by
  simp only [starting, hparse, lookup_of_map hmap, hheap, hh, if_pos hm]

/-- An offer starts no media. -/
theorem startsMedia_of_offer {h : Handler} (hh : handlerFor text RoapType.offer = some h) :
    startsMedia h sMsg = false := by
  rw [handlerFor_offer] at hh
  obtain rfl := Option.some.inj hh
  split <;> rfl

theorem Armed.received (harmed : Armed g.heap g.timer log) (hinv : Inv cfg g log)
    (hparse : MessageParser.parserSessionMessage cfg.json env.mem text = .ok sMsg)
    (horderly : Orderly cfg g (.message text env))
    (h : Received cfg env text sMsg g used g' done) :
    Armed (g'.wait cfg used).heap (g'.wait cfg used).timer (log ++ done) := by
  cases h with
  | ignored hnone => rwa [List.append_nil]
  | noted hid htype hh hmap hheap => rwa [List.append_nil]
  | erased hid htype hmap hheap => rwa [List.append_nil]
  | offered hid htype hnew hspare hh =>
    rename_i s handler
    have hne : g.spare ≠ g.next := Nat.ne_of_lt hinv.spareBorn
    have hfresh := hinv.spareFresh
    rw [hspare] at hfresh
    obtain rfl := SessionObj.running.inj (Option.some.inj hfresh)
    have hnever : tailed g.spare log = 0 :=
      tailed_eq_zero fun e he => (hinv.logged e he).2.1
    have hnever' : tailed g.next log = 0 :=
      tailed_eq_zero fun e he => Nat.ne_of_lt (hinv.logged e he).1
    -- the two new objects have no timer
    have htaken : Armed
        ((g.takeCall sMsg.roap.offerSessionID (MediaSession.fresh cfg)).newSpare cfg).heap g.timer
        log := by
      have hspared : Armed (g.takeCall sMsg.roap.offerSessionID (MediaSession.fresh cfg)).heap
          g.timer (log ++ []) :=
        harmed.keep (by rw [hspare]; rfl) (fun _ => rfl) fun _ _ _ => hnever
      rw [List.append_nil] at hspared
      rw [← List.append_nil log]
      refine hspared.keep ?_ (fun _ => rfl) fun _ _ _ => hnever'
      simp only [Gateway.takeCall]
      rw [Function.update_of_ne hne.symm, hinv.unborn g.next (Nat.le_refl _)]
      rfl
    have hheap : ((g.takeCall sMsg.roap.offerSessionID (MediaSession.fresh cfg)).newSpare cfg).heap
        g.spare = some (.running
          { MediaSession.fresh cfg with offerSessionID := sMsg.roap.offerSessionID }) := by
      simp only [newSpare, Gateway.takeCall]
      rw [Function.update_of_ne hne, Function.update_self]
    have hnext : g.spare ≠ (g.takeCall sMsg.roap.offerSessionID (MediaSession.fresh cfg)).next :=
      hne
    rw [wait, if_pos rfl, newSpare_afterHandler hnext]
    refine Armed.afterHandler htaken hheap fun hm => ?_
    rw [htype] at hh
    rw [startsMedia_of_offer hh] at hm
    cases hm
  | passed hid htype hmap hheap hh =>
    refine harmed.afterHandler hheap fun hm => ?_
    exact horderly _ (starting_eq hparse hmap hheap hh hm)
  | deleted hid htype hmap hheap =>
    rename_i a s
    refine harmed.touch ?_ (fun b _ => rfl) (fun s' hs' => by cases hs') ?_
    · have hown : (ownTimer ∘ g.heap) a = if s.timerID = 0 then none else some s.timerID := by
        simp only [Function.comp_apply, hheap, ownTimer]
      dsimp only [wait, forget, delete]
      by_cases hzero : s.timerID = 0
      · rw [if_pos hzero] at hown
        rw [if_neg (not_not.2 hzero), show ownTimer none = (ownTimer ∘ g.heap) a from hown.symm,
          Function.update_eq_self]
        exact harmed.owners
      · rw [if_neg hzero] at hown
        rw [if_pos hzero]
        exact harmed.owners.stopTimer hown
    · rw [List.append_nil]
      exact harmed.once a

theorem Armed.fired {n : Nat} {flow : Flow} (harmed : Armed g.heap g.timer log)
    (horderly : Orderly cfg g (.expire n flow)) (h : Fired n flow g g') :
    Armed g'.heap g'.timer log := by
  rw [← List.append_nil log]
  cases h with
  | absent hoff => rwa [List.append_nil]
  | kept hon hts hheap hflow =>
    rename_i ts s
    have hgoes : g.goesOn n flow = true := by
      simp only [goesOn, hon, if_true, hts, hheap, hflow]
    have hfresh := horderly hgoes
    obtain ⟨hcomm, hfresh'⟩ := harmed.owners.expire_setTimer hfresh ⟨hon, hts⟩ ts.para
    have hne := Timer.setTimer_fst_ne_zero ts.para g.timer
    refine harmed.touch ?_ (fun b _ => rfl) (fun s' hs' hzero => ?_) ?_
    · have hset := (harmed.owners.expire ⟨hon, hts⟩).setTimer hfresh' (Function.update_self ..)
      rw [Function.update_idem, ← hcomm] at hset
      simp only [ownTimer, if_neg hne]
      exact hset
    · obtain rfl := SessionObj.running.inj (Option.some.inj hs')
      exact absurd hzero hne
    · rw [List.append_nil]
      exact harmed.once ts.para
  | tornDown hon hts hheap hflow =>
    rename_i ts s
    refine harmed.touch (harmed.owners.expire ⟨hon, hts⟩) (fun b _ => rfl)
      (fun s' hs' => by cases hs') ?_
    rw [List.append_nil]
    exact harmed.once ts.para

/-- Every orderly step keeps the two invariants. -/
theorem Armed.step {e : Event} (harmed : Armed g.heap g.timer log) (hinv : Inv cfg g log)
    (horderly : Orderly cfg g e) (h : (gateway cfg).step g e = .ok (g', done)) :
    Armed g'.heap g'.timer (log ++ done) := by
  rcases gateway_step_ok h with
      ⟨text, env, sMsg, used, g₁, rfl, hparse, hreceived, rfl⟩ | ⟨n, flow, rfl, rfl, hfired⟩
  · exact harmed.received hinv hparse horderly hreceived
  · rw [List.append_nil]
    exact harmed.fired horderly hfired

theorem armed_run {es : List Event} (hmeets : (gateway cfg).Meets (Orderly cfg) (init cfg) es)
    (h : (gateway cfg).run (init cfg) es = .ok (g, log)) : Armed g.heap g.timer log := by
  have hstep : ∀ g log e g' done, Inv cfg g log ∧ Armed g.heap g.timer log → Orderly cfg g e →
      (gateway cfg).step g e = .ok (g', done) →
      Inv cfg g' (log ++ done) ∧ Armed g'.heap g'.timer (log ++ done) := by
    intro g log e g' done hboth horderly h
    rcases hboth with ⟨hinv, harmed⟩
    exact ⟨hinv.step h, harmed.step hinv horderly h⟩
  exact (Machine.run_inv_log hstep ⟨inv_init cfg, armed_init cfg⟩ hmeets h).2

/-! ## What the timers rely on -/

/-- No session has two timers, and none fires for a session that is freed or
stopped. -/
structure TimersSafe (g : Gateway) (log : List Entry) : Prop where
  /-- `doTailingJobs` runs at most once for a session -/
  once : ∀ a, tailed a log ≤ 1
  /-- a session has at most one pending timer -/
  single : ∀ n m ts ts', g.timer.pending n ts → g.timer.pending m ts' → ts.para = ts'.para →
    n = m
  /-- a pending timer was set for a session that is allocated and has its
  agents -/
  alive : ∀ n ts, g.timer.pending n ts → ∃ s, g.heap ts.para = some (.running s)
  /-- whatever thread wakes up, it runs to its end -/
  fires : ∀ n flow, ∃ g', g.onTimeout n flow = .ok g'

theorem Armed.alive (harmed : Armed g.heap g.timer log) {n : Nat} {ts : Ts}
    (h : g.timer.pending n ts) : ∃ s, g.heap ts.para = some (.running s) := by
  obtain ⟨ts', hts', hown, -, -⟩ := harmed.owners.threads n h.1
  rw [h.2] at hts'
  obtain rfl := Option.some.inj hts'
  exact exists_of_ownTimer hown

theorem Armed.fires (harmed : Armed g.heap g.timer log) (n : Nat) (flow : Flow) :
    ∃ g', g.onTimeout n flow = .ok g' := by
  cases hon : g.timer.running n with
  | false => exact ⟨g, onTimeout_ok_iff.2 (.absent hon)⟩
  | true =>
    obtain ⟨ts, hts, -⟩ := harmed.owners.threads n hon
    obtain ⟨s, hs⟩ := harmed.alive ⟨hon, hts⟩
    cases hflow : s.flows flow with
    | true => exact ⟨_, onTimeout_ok_iff.2 (.kept hon hts hs hflow)⟩
    | false => exact ⟨_, onTimeout_ok_iff.2 (.tornDown hon hts hs hflow)⟩

theorem Armed.timersSafe (harmed : Armed g.heap g.timer log) : TimersSafe g log where
  once := harmed.once
  single := fun _ _ _ _ hn hm hpara => harmed.owners.thread_unique hn hm hpara
  alive := fun _ _ h => harmed.alive h
  fires := harmed.fires

/-- An orderly step from an orderly run ends in no fault but those of the
assertion and of `jsoncpp`. -/
theorem Armed.step_error {e : Event} (harmed : Armed g.heap g.timer log) (hinv : Inv cfg g log)
    {f : Fault} (h : (gateway cfg).step g e = .error f) : f = .assertUsed ∨ f = .json := by
  cases e with
  | message text env =>
    rcases hinv.receive_error h with hparse | ⟨hassert, -⟩
    · exact .inr (MessageParser.jsonOnly_parserSessionMessage env.mem text f hparse)
    · exact .inl hassert
  | expire n flow =>
    obtain ⟨g', hg'⟩ := harmed.fires n flow
    simp only [gateway, hg'] at h
    cases h

/-- On a run whose steps are orderly the timers are safe in every state, and no
step uses a freed or a stopped session. -/
theorem timers_safe {es : List Event} (hmeets : (gateway cfg).Meets (Orderly cfg) (init cfg) es) :
    (∀ g log, (gateway cfg).run (init cfg) es = .ok (g, log) → TimersSafe g log) ∧
      ∀ f, (gateway cfg).run (init cfg) es = .error f → f = .assertUsed ∨ f = .json := by
  constructor
  · intro g log h
    exact (armed_run hmeets h).timersSafe
  · intro f h
    obtain ⟨pre, e, post, g, log, rfl, hpre, hstep⟩ := Machine.run_error_iff.1 h
    obtain ⟨hbefore, -⟩ := Machine.meets_left hmeets hpre
    exact (armed_run hbefore hpre).step_error (inv_run hpre) hstep

/-- A call that is set up, goes on for one period and is shut down. -/
theorem timers_safe_call :
    (gateway (Config.reading [offerCall, answerCall, shutdownCall])).Meets
        (Orderly (Config.reading [offerCall, answerCall, shutdownCall]))
        (init (Config.reading [offerCall, answerCall, shutdownCall]))
        [ Event.of offerCall, Event.of answerCall, .expire 0 { web := 5, ims := 5 }
        , Event.of shutdownCall ] ∧
      ∃ g log,
        (gateway (Config.reading [offerCall, answerCall, shutdownCall])).run
            (init (Config.reading [offerCall, answerCall, shutdownCall]))
            [ Event.of offerCall, Event.of answerCall, .expire 0 { web := 5, ims := 5 }
            , Event.of shutdownCall ] = .ok (g, log) ∧
          TimersSafe g log := by
  have hmeets : (gateway (Config.reading [offerCall, answerCall, shutdownCall])).Meets
      (Orderly (Config.reading [offerCall, answerCall, shutdownCall]))
      (init (Config.reading [offerCall, answerCall, shutdownCall]))
      [ Event.of offerCall, Event.of answerCall, .expire 0 { web := 5, ims := 5 }
      , Event.of shutdownCall ] := by
    decide +kernel
  obtain ⟨g, log, hrun⟩ := Machine.fault_eq_none
    (show (gateway (Config.reading [offerCall, answerCall, shutdownCall])).fault
        (init (Config.reading [offerCall, answerCall, shutdownCall]))
        [ Event.of offerCall, Event.of answerCall, .expire 0 { web := 5, ims := 5 }
        , Event.of shutdownCall ] = none by
      decide +kernel)
  exact ⟨hmeets, g, log, hrun, (timers_safe hmeets).1 g log hrun⟩

/-- The answer arrives twice and sets two timers: after the shutdown the first
one fires for a freed session, and without a shutdown the second one for a
session that the first one has stopped. -/
theorem not_timers_safe :
    (gateway (Config.reading [offerCall, answerCall, shutdownCall])).run
        (init (Config.reading [offerCall, answerCall, shutdownCall]))
        [ Event.of offerCall, Event.of answerCall, Event.of answerCall, Event.of shutdownCall
        , .expire 0 { web := 5, ims := 5 } ] = .error .useAfterFree ∧
      (gateway (Config.reading [offerCall, answerCall])).run
          (init (Config.reading [offerCall, answerCall]))
          [ Event.of offerCall, Event.of answerCall, Event.of answerCall
          , .expire 0 { web := 0, ims := 0 }, .expire 1 { web := 5, ims := 5 } ] =
        .error .nullDeref :=
  ⟨Machine.fault_eq_some (by decide +kernel), Machine.fault_eq_some (by decide +kernel)⟩

end Gateway

end MediaGateway
