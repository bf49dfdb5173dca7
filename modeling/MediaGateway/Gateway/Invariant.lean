import MediaGateway.Gateway.Step

/-!
# The invariant of the loop

`Inv` relates the heap, the map, the spare session and the timers to everything
the gateway has done so far.  One lemma says what each kind of step does to it:

* `Inv.takeCall`, a call is taken by the spare session;
* `Inv.touch`, a session that is not the spare one changes;
* `Inv.remove`, a call leaves the map.

`inv_run` is the result for every run, and `loop_invariant` spells out what it
means for the map and the spare session.
-/

namespace MediaGateway

open Lib MediaSession

namespace Gateway

/-- The joint invariant of the heap, the map, the spare session, the timers and
the log. -/
structure Inv (cfg : Config) (g : Gateway) (log : List Entry) : Prop where
  /-- objects are numbered by creation -/
  unborn : ∀ a, g.next ≤ a → g.heap a = none
  spareBorn : g.spare < g.next
  spareFresh : g.heap g.spare = some (.running (MediaSession.fresh cfg))
  /-- the map leads to allocated sessions with the right id -/
  mapped : ∀ id a, g.sessions id = some a →
    a ≠ g.spare ∧ ∃ o, g.heap a = some o ∧ o.offerSessionID = id
  /-- every running session but the spare one is in the map -/
  found : ∀ a s, g.heap a = some (.running s) → a ≠ g.spare →
    g.sessions s.offerSessionID = some a
  named : g.sessions [] = none
  /-- timers are set for sessions that were in the map -/
  timers : ∀ n ts, g.timer.objects n = some ts → ts.para < g.next ∧ ts.para ≠ g.spare
  /-- what was done was done for sessions other than the spare one, under the id
  they still have -/
  logged : ∀ e ∈ log, e.session < g.next ∧ e.session ≠ g.spare ∧
    ∀ o, g.heap e.session = some o → o.offerSessionID = e.offerSessionID
  oneCall : ∀ e ∈ log, ∀ e' ∈ log, e.session = e'.session →
    e.offerSessionID = e'.offerSessionID

variable {cfg : Config} {g : Gateway} {log : List Entry}

theorem inv_init (cfg : Config) : Inv cfg (init cfg) [] where
  unborn := by
    intro a ha
    have hne : a ≠ 0 := by
      have : 0 + 1 ≤ a := ha
      omega
    simp [init, newSpare, Function.update_of_ne hne]
  spareBorn := Nat.zero_lt_one
  spareFresh := by simp [init, newSpare]
  mapped := by
    intro id a h
    cases h
  found := by
    intro a s h hne
    have hne' : a ≠ 0 := hne
    simp [init, newSpare, Function.update_of_ne hne'] at h
  named := rfl
  timers := by
    intro n ts h
    cases h
  logged := by simp
  oneCall := by simp

/-- Two ids lead to different sessions. -/
theorem Inv.injective (hinv : Inv cfg g log) {id id' : Bytes} {a : Nat}
    (h : g.sessions id = some a) (h' : g.sessions id' = some a) : id = id' := by
  obtain ⟨-, o, ho, hid⟩ := hinv.mapped id a h
  obtain ⟨-, o', ho', hid'⟩ := hinv.mapped id' a h'
  rw [ho] at ho'
  rw [← hid, ← hid', Option.some.inj ho']

/-- An object of the heap was created. -/
theorem Inv.born (hinv : Inv cfg g log) {a : Nat} {o : SessionObj} (h : g.heap a = some o) :
    a < g.next := by
  by_contra hge
  rw [hinv.unborn a (Nat.le_of_not_lt hge)] at h
  cases h

/-! ## What a step does to the invariant -/

/-- The spare session takes a new call and the loop creates another one. -/
theorem Inv.takeCall (hinv : Inv cfg g log) {id : Bytes} (hid : id ≠ [])
    (hnew : g.sessions id = none) :
    Inv cfg ((g.takeCall id (MediaSession.fresh cfg)).newSpare cfg) log := by
  have hne : g.spare ≠ g.next := Nat.ne_of_lt hinv.spareBorn
  have hheap : ∀ a, ((g.takeCall id (MediaSession.fresh cfg)).newSpare cfg).heap a =
      if a = g.next then some (.running (MediaSession.fresh cfg))
      else if a = g.spare then
        some (.running { MediaSession.fresh cfg with offerSessionID := id })
      else g.heap a := by
    intro a
    simp only [newSpare, Gateway.takeCall, Function.update_apply]
  have hsessions : ∀ id', ((g.takeCall id (MediaSession.fresh cfg)).newSpare cfg).sessions id' =
      if id' = id then some g.spare else g.sessions id' := by
    intro id'
    simp only [newSpare, Gateway.takeCall, Function.update_apply]
  refine ⟨?_, Nat.lt_succ_self _, ?_, ?_, ?_, ?_, ?_, ?_, hinv.oneCall⟩
  · intro a ha
    have hlt : g.next < a := ha
    have hspare : a ≠ g.spare := Nat.ne_of_gt (Nat.lt_trans hinv.spareBorn hlt)
    rw [hheap, if_neg (Nat.ne_of_gt hlt), if_neg hspare]
    exact hinv.unborn a (Nat.le_of_lt hlt)
  · rw [hheap]
    exact if_pos rfl
  · intro id' a h
    rw [hsessions] at h
    split at h
    · rename_i heq
      obtain rfl := Option.some.inj h
      refine ⟨hne, _, (hheap g.spare).trans ((if_neg hne).trans (if_pos rfl)), heq.symm⟩
    · obtain ⟨hspare, o, ho, hoid⟩ := hinv.mapped id' a h
      have hnext : a ≠ g.next := Nat.ne_of_lt (hinv.born ho)
      exact ⟨hnext, o, by rw [hheap, if_neg hnext, if_neg hspare, ho], hoid⟩
  · intro a s h hnext
    have hne' : a ≠ g.next := hnext
    rw [hheap, if_neg hne'] at h
    rw [hsessions]
    split at h
    · rename_i heq
      obtain rfl := SessionObj.running.inj (Option.some.inj h)
      rw [if_pos rfl, heq]
    · rename_i hspare
      have hfound := hinv.found a s h hspare
      split
      · rename_i heq
        rw [heq, hnew] at hfound
        cases hfound
      · exact hfound
  · rw [hsessions, if_neg (Ne.symm hid)]
    exact hinv.named
  · intro n ts h
    have hlt := (hinv.timers n ts h).1
    exact ⟨Nat.lt_succ_of_lt hlt, Nat.ne_of_lt hlt⟩
  · intro e he
    obtain ⟨hlt, hspare, hoid⟩ := hinv.logged e he
    refine ⟨Nat.lt_succ_of_lt hlt, Nat.ne_of_lt hlt, ?_⟩
    intro o ho
    rw [hheap, if_neg (Nat.ne_of_lt hlt), if_neg hspare] at ho
    exact hoid o ho

/-- A session other than the spare one changes, keeping its id, and with it the
timers. -/
theorem Inv.touch (hinv : Inv cfg g log) {a : Nat} {s : MediaSession} {o : SessionObj}
    {timer : Timer} {done : List Entry} (hspare : a ≠ g.spare)
    (hheap : g.heap a = some (.running s)) (hid : o.offerSessionID = s.offerSessionID)
    (htimer : ∀ n ts, timer.objects n = some ts →
      ts.para = a ∨ ∃ n', g.timer.objects n' = some ts)
    (hdone : ∀ e ∈ done, e.session = a ∧ e.offerSessionID = s.offerSessionID) :
    Inv cfg { g with heap := Function.update g.heap a (some o), timer } (log ++ done) := by
  have hborn := hinv.born hheap
  have hlogged : ∀ e ∈ log ++ done, e.session = a → e.offerSessionID = s.offerSessionID := by
    intro e he ha
    rcases List.mem_append.1 he with he | he
    · exact ((hinv.logged e he).2.2 _ (by rw [ha]; exact hheap)).symm
    · exact (hdone e he).2
  refine ⟨?_, hinv.spareBorn, ?_, ?_, ?_, hinv.named, ?_, ?_, ?_⟩
  · intro b hb
    have hne : b ≠ a := Nat.ne_of_gt (Nat.lt_of_lt_of_le hborn hb)
    exact (Function.update_of_ne hne ..).trans (hinv.unborn b hb)
  · exact (Function.update_of_ne hspare.symm ..).trans hinv.spareFresh
  · intro id b h
    obtain ⟨hb, o', ho', hoid⟩ := hinv.mapped id b h
    refine ⟨hb, ?_⟩
    by_cases hba : b = a
    · subst hba
      rw [hheap] at ho'
      obtain rfl := Option.some.inj ho'
      exact ⟨o, Function.update_self .., hid.trans hoid⟩
    · exact ⟨o', (Function.update_of_ne hba ..).trans ho', hoid⟩
  · intro b s' h hb
    dsimp only at h
    by_cases hba : b = a
    · subst hba
      rw [Function.update_self] at h
      obtain rfl := Option.some.inj h
      have hsame : s'.offerSessionID = s.offerSessionID := hid
      rw [hsame]
      exact hinv.found b s hheap hb
    · rw [Function.update_of_ne hba] at h
      exact hinv.found b s' h hb
  · intro n ts h
    rcases htimer n ts h with rfl | ⟨n', hts⟩
    · exact ⟨hborn, hspare⟩
    · exact hinv.timers n' ts hts
  · intro e he
    have hold : e.session < g.next ∧ e.session ≠ g.spare := by
      rcases List.mem_append.1 he with he | he
      · exact ⟨(hinv.logged e he).1, (hinv.logged e he).2.1⟩
      · rw [(hdone e he).1]
        exact ⟨hborn, hspare⟩
    refine ⟨hold.1, hold.2, fun o' ho' => ?_⟩
    dsimp only at ho'
    by_cases hea : e.session = a
    · rw [hea, Function.update_self] at ho'
      obtain rfl := Option.some.inj ho'
      rw [hid, hlogged e he hea]
    · rw [Function.update_of_ne hea] at ho'
      rcases List.mem_append.1 he with he | he
      · exact (hinv.logged e he).2.2 o' ho'
      · exact absurd (hdone e he).1 hea
  · intro e he e' he' hsame
    by_cases hea : e.session = a
    · rw [hlogged e he hea, hlogged e' he' (hsame.symm.trans hea)]
    · have hin : ∀ d ∈ log ++ done, d.session ≠ a → d ∈ log := by
        intro d hd hda
        rcases List.mem_append.1 hd with hd | hd
        · exact hd
        · exact absurd (hdone d hd).1 hda
      have hea' : e'.session ≠ a := fun h => hea (hsame.trans h)
      exact hinv.oneCall e (hin e he hea) e' (hin e' he' hea') hsame

/-- A call leaves the map, its session being stopped or freed. -/
theorem Inv.remove (hinv : Inv cfg g log) {id : Bytes} {a : Nat} {heap : Nat → Option SessionObj}
    {timer : Timer} (hmap : g.sessions id = some a)
    (hheap : ∀ b, b ≠ a → heap b = g.heap b)
    (ha : heap a = none ∨ heap a = g.heap a ∧ ∃ id' timerID, g.heap a = some (.stopped id' timerID))
    (htimer : ∀ n ts, timer.objects n = some ts → g.timer.objects n = some ts) :
    Inv cfg { g with heap, timer, sessions := Function.update g.sessions id none } log := by
  obtain ⟨hspare, o, ho, hoid⟩ := hinv.mapped id a hmap
  have hborn := hinv.born ho
  have hnot : ∀ s, heap a ≠ some (.running s) := by
    intro s h
    rcases ha with hnone | ⟨hsame, id', timerID, hstop⟩
    · rw [hnone] at h
      cases h
    · rw [hsame, hstop] at h
      cases h
  refine ⟨?_, hinv.spareBorn, ?_, ?_, ?_, ?_, ?_, ?_, hinv.oneCall⟩
  · intro b hb
    have hne : b ≠ a := Nat.ne_of_gt (Nat.lt_of_lt_of_le hborn hb)
    exact (hheap b hne).trans (hinv.unborn b hb)
  · exact (hheap _ hspare.symm).trans hinv.spareFresh
  · intro id' b h
    dsimp only at h
    have hne : id' ≠ id := by
      intro heq'
      subst heq'
      rw [Function.update_self] at h
      cases h
    rw [Function.update_of_ne hne] at h
    obtain ⟨hb, o', ho', hoid'⟩ := hinv.mapped id' b h
    have hba : b ≠ a := by
      intro heq'
      subst heq'
      exact hne (hinv.injective h hmap)
    exact ⟨hb, o', (hheap b hba).trans ho', hoid'⟩
  · intro b s h hb
    have hba : b ≠ a := by
      intro heq'
      subst heq'
      exact hnot s h
    have hold := h
    dsimp only at hold
    rw [hheap b hba] at hold
    have hfound := hinv.found b s hold hb
    have hne : s.offerSessionID ≠ id := by
      intro heq
      rw [heq, hmap] at hfound
      exact hba (Option.some.inj hfound).symm
    exact (Function.update_of_ne hne ..).trans hfound
  · have hne : ([] : Bytes) ≠ id := by
      intro heq'
      subst heq'
      rw [hinv.named] at hmap
      cases hmap
    exact (Function.update_of_ne hne ..).trans hinv.named
  · intro n ts h
    exact hinv.timers n ts (htimer n ts h)
  · intro e he
    obtain ⟨hlt, hsp, hsame⟩ := hinv.logged e he
    refine ⟨hlt, hsp, fun o' ho' => ?_⟩
    by_cases hea : e.session = a
    · rcases ha with hnone | ⟨hkept, -⟩
      · have hgone : heap e.session = some o' := ho'
        rw [hea, hnone] at hgone
        cases hgone
      · have hstay : heap e.session = some o' := ho'
        rw [hea, hkept, ← hea] at hstay
        exact hsame o' hstay
    · exact hsame o' ((hheap _ hea).symm.trans ho')

/-! ## Every step -/

variable {env : Env} {text : Bytes} {sMsg : SessionMessage} {g' : Gateway} {done : List Entry}

theorem objects_handle {h : Handler} {a : Nat} {s : MediaSession} {t : Timer} {n : Nat} {ts : Ts}
    (hts : (handle cfg h env a sMsg s t).2.1.objects n = some ts) :
    ts.para = a ∨ ∃ n', t.objects n' = some ts := by
  rw [handle_timer] at hts
  split at hts
  · exact (Timer.objects_setTimer hts).imp_right fun hold => ⟨n, hold⟩
  · exact .inr ⟨n, hts⟩

theorem mem_entries {h : Handler} {a : Nat} {s : MediaSession} {e : Entry}
    (he : e ∈ g.entries cfg h env a sMsg s) :
    e.session = a ∧ e.offerSessionID = sMsg.roap.offerSessionID := by
  rcases List.mem_cons.1 he with rfl | he
  · exact ⟨rfl, rfl⟩
  · obtain ⟨act, -, rfl⟩ := List.mem_map.1 he
    exact ⟨rfl, rfl⟩

/-- Creating the next spare session does not interfere with a handler. -/
theorem newSpare_afterHandler {h : Handler} {a : Nat} {s : MediaSession} (ha : a ≠ g.next) :
    (g.afterHandler cfg h env a sMsg s).newSpare cfg =
      (g.newSpare cfg).afterHandler cfg h env a sMsg s := by
  unfold afterHandler newSpare
  dsimp only
  rw [Function.update_comm ha]

theorem Inv.received {used : Bool} (hinv : Inv cfg g log)
    (h : Received cfg env text sMsg g used g' done) :
    Inv cfg (g'.wait cfg used) (log ++ done) := by
  unfold wait
  cases h with
  | ignored hnone => rwa [List.append_nil]
  | noted hid htype hh hmap hheap => rwa [List.append_nil]
  | offered hid htype hnew hspare hh =>
    have hne : g.spare ≠ g.next := Nat.ne_of_lt hinv.spareBorn
    rw [hinv.spareFresh] at hspare
    obtain rfl := SessionObj.running.inj (Option.some.inj hspare)
    have hnext : g.spare ≠ (g.takeCall sMsg.roap.offerSessionID (MediaSession.fresh cfg)).next :=
      hne
    rw [if_pos rfl, newSpare_afterHandler hnext]
    have hheap : ((g.takeCall sMsg.roap.offerSessionID (MediaSession.fresh cfg)).newSpare cfg).heap
        g.spare = some (.running
          { MediaSession.fresh cfg with offerSessionID := sMsg.roap.offerSessionID }) := by
      simp only [newSpare, Gateway.takeCall]
      rw [Function.update_of_ne hne, Function.update_self]
    exact (hinv.takeCall hid hnew).touch hne hheap (handle_offerSessionID ..)
      (fun n ts hts => objects_handle hts) fun e he => mem_entries he
  | erased hid htype hmap hheap =>
    rw [List.append_nil]
    exact hinv.remove hmap (fun _ _ => rfl) (.inr ⟨rfl, _, _, hheap⟩) fun _ _ hts => hts
  | passed hid htype hmap hheap hh =>
    obtain ⟨hspare, o, ho, hoid⟩ := hinv.mapped _ _ hmap
    rw [hheap] at ho
    obtain rfl := Option.some.inj ho
    refine hinv.touch hspare hheap (by simp [SessionObj.offerSessionID])
      (fun n ts hts => objects_handle hts) fun e he => ?_
    have hsame := mem_entries he
    exact ⟨hsame.1, hsame.2.trans hoid.symm⟩
  | deleted hid htype hmap hheap =>
    rw [List.append_nil]
    refine hinv.remove hmap (fun b hb => Function.update_of_ne hb ..)
      (.inl (Function.update_self ..)) fun n ts hts => ?_
    dsimp only [delete] at hts
    split at hts
    · exact Timer.objects_stopTimer hts
    · exact hts

theorem Inv.fired {n : Nat} {flow : Flow} (hinv : Inv cfg g log) (h : Fired n flow g g') :
    Inv cfg g' log := by
  cases h with
  | absent hoff => exact hinv
  | kept hon hts hheap hflow =>
    rw [← List.append_nil log]
    refine hinv.touch (hinv.timers n _ hts).2 hheap rfl (fun m ts' hts' => ?_) (by simp)
    exact (Timer.objects_setTimer (Timer.objects_expire hts')).imp_right fun hold => ⟨m, hold⟩
  | tornDown hon hts hheap hflow =>
    rw [← List.append_nil log]
    refine hinv.touch (hinv.timers n _ hts).2 hheap rfl (fun m ts' hts' => ?_) (by simp)
    exact .inr ⟨m, Timer.objects_expire hts'⟩

/-- Every step keeps the invariant. -/
theorem Inv.step {e : Event} (hinv : Inv cfg g log)
    (h : (gateway cfg).step g e = .ok (g', done)) : Inv cfg g' (log ++ done) := by
  rcases gateway_step_ok h with
      ⟨text, env, sMsg, used, g₁, rfl, -, hreceived, rfl⟩ | ⟨n, flow, rfl, rfl, hfired⟩
  · exact hinv.received hreceived
  · rw [List.append_nil]
    exact hinv.fired hfired

/-- The invariant holds in every state that the loop reaches. -/
theorem inv_run {es : List Event} (h : (gateway cfg).run (init cfg) es = .ok (g, log)) :
    Inv cfg g log :=
  Machine.run_inv (fun _ _ _ _ _ => Inv.step) (inv_init cfg) h

/-! ## What can go wrong -/

/-- An offer whose id is in the map. -/
def Reoffers (cfg : Config) (env : Env) (text : Bytes) (g : Gateway) : Prop :=
  ∃ sMsg, MessageParser.parserSessionMessage cfg.json env.mem text = .ok sMsg ∧
    sMsg.roap.offerSessionID ≠ [] ∧ sMsg.roap.type = RoapType.offer ∧
    g.sessions sMsg.roap.offerSessionID ≠ none

theorem assertUsed_of_reoffers (h : Reoffers cfg env text g) :
    g.handleSessionMessage cfg env text g.spare = .error .assertUsed := by
  obtain ⟨sMsg, hparse, hid, htype, hmap⟩ := h
  obtain ⟨a, ha⟩ := Option.ne_none_iff_exists'.1 hmap
  simp [handleSessionMessage, hparse, hid, htype, handleOffer, ha]

/-- Under the invariant a message fails in the parser, or in the assertion
because it offers a call that is in the map. -/
theorem Inv.message_error (hinv : Inv cfg g log) {f : Fault}
    (h : g.handleSessionMessage cfg env text g.spare = .error f) :
    MessageParser.parserSessionMessage cfg.json env.mem text = .error f ∨
      f = .assertUsed ∧ Reoffers cfg env text g := by
  unfold handleSessionMessage at h
  cases hparse : MessageParser.parserSessionMessage cfg.json env.mem text with
  | error f' =>
    rw [hparse] at h
    obtain rfl := Except.error.inj h
    exact .inl rfl
  | ok sMsg =>
    simp only [hparse] at h
    by_cases hid : sMsg.roap.offerSessionID = []
    · rw [if_pos hid] at h
      cases h
    rw [if_neg hid] at h
    by_cases htype : sMsg.roap.type = RoapType.offer
    · rw [if_pos htype] at h
      cases hmap : g.sessions sMsg.roap.offerSessionID with
      | none =>
        rw [handleOffer_eq hmap hinv.spareFresh] at h
        cases h
      | some a =>
        simp only [handleOffer, hmap] at h
        obtain rfl := Except.error.inj h
        exact .inr ⟨rfl, sMsg, hparse, hid, htype, by rw [hmap]; exact Option.some_ne_none a⟩
    · rw [if_neg htype] at h
      cases hmap : g.sessions sMsg.roap.offerSessionID with
      | none =>
        simp only [handleOther, hmap] at h
        cases h
      | some a =>
        obtain ⟨-, o, ho, -⟩ := hinv.mapped _ a hmap
        cases o with
        | stopped id timerID =>
          simp only [handleOther, hmap, ho] at h
          cases h
        | running s =>
          rw [handleOther_eq htype hmap ho] at h
          split at h
          · cases h
          · split at h <;> cases h

/-- So does a round of the loop. -/
theorem Inv.receive_error (hinv : Inv cfg g log) {f : Fault}
    (h : g.receive cfg env text = .error f) :
    MessageParser.parserSessionMessage cfg.json env.mem text = .error f ∨
      f = .assertUsed ∧ Reoffers cfg env text g := by
  unfold receive at h
  cases hhandle : g.handleSessionMessage cfg env text g.spare with
  | ok r =>
    rw [hhandle] at h
    cases h
  | error f' =>
    rw [hhandle] at h
    obtain rfl := Except.error.inj h
    exact hinv.message_error hhandle

/-! ## The map and the spare session -/

/-- What the loop relies on while it waits. -/
structure LoopState (cfg : Config) (g : Gateway) (log : List Entry) : Prop where
  /-- the map leads to allocated sessions with the right id -/
  allocated : ∀ id a, g.sessions id = some a → ∃ o, g.heap a = some o ∧ o.offerSessionID = id
  /-- and never from two ids to one session -/
  separate : ∀ id id' a, g.sessions id = some a → g.sessions id' = some a → id = id'
  /-- the spare session is as the constructor left it -/
  spareFresh : g.heap g.spare = some (.running (MediaSession.fresh cfg))
  spareUnused : ∀ e ∈ log, e.session ≠ g.spare
  spareUnmapped : ∀ id, g.sessions id ≠ some g.spare
  /-- `handleSessionMessage` returns true exactly when it inserts the spare
  session -/
  returns : ∀ env text used g' done,
    g.handleSessionMessage cfg env text g.spare = .ok (used, g', done) →
      (used = true ↔ ∃ id, g'.sessions id = some g.spare)
  /-- no session serves two calls -/
  oneCall : ∀ e ∈ log, ∀ e' ∈ log, e.session = e'.session →
    e.offerSessionID = e'.offerSessionID
  /-- the next message uses no freed session and no stopped one -/
  noFreed : ∀ env text f, g.handleSessionMessage cfg env text g.spare = .error f →
    f = .assertUsed ∨ f = .json

theorem Inv.returns {used : Bool} (hinv : Inv cfg g log)
    (h : g.handleSessionMessage cfg env text g.spare = .ok (used, g', done)) :
    used = true ↔ ∃ id, g'.sessions id = some g.spare := by
  have hold : ∀ id, g.sessions id ≠ some g.spare := fun id hmap =>
    (hinv.mapped id g.spare hmap).1 rfl
  have hforget : ∀ id id', (g.forget id).sessions id' ≠ some g.spare := by
    intro id id' hmap
    simp only [forget, Function.update_apply] at hmap
    split at hmap
    · cases hmap
    · exact hold id' hmap
  obtain ⟨sMsg, -, hreceived⟩ := received_of_ok h
  cases hreceived with
  | offered hid htype hnew hspare hh =>
    exact iff_of_true rfl ⟨sMsg.roap.offerSessionID, Function.update_self ..⟩
  | ignored hnone => exact iff_of_false Bool.false_ne_true (not_exists.2 hold)
  | erased hid htype hmap hheap =>
    exact iff_of_false Bool.false_ne_true (not_exists.2 (hforget _))
  | passed hid htype hmap hheap hh =>
    exact iff_of_false Bool.false_ne_true (not_exists.2 hold)
  | deleted hid htype hmap hheap =>
    exact iff_of_false Bool.false_ne_true (not_exists.2 (hforget _))
  | noted hid htype hh hmap hheap =>
    exact iff_of_false Bool.false_ne_true (not_exists.2 hold)

/-- In every state in which the loop waits, the map and the spare session are in
order, whatever messages and timers there were. -/
theorem loop_invariant {es : List Event}
    (h : (gateway cfg).run (init cfg) es = .ok (g, log)) : LoopState cfg g log where
  allocated := fun id a hmap => ((inv_run h).mapped id a hmap).2
  separate := fun _ _ _ hmap hmap' => (inv_run h).injective hmap hmap'
  spareFresh := (inv_run h).spareFresh
  spareUnused := fun e he => ((inv_run h).logged e he).2.1
  spareUnmapped := fun id hmap => ((inv_run h).mapped id _ hmap).1 rfl
  returns := fun _ _ _ _ _ hhandle => (inv_run h).returns hhandle
  oneCall := (inv_run h).oneCall
  noFreed := fun env text f hhandle =>
    ((inv_run h).message_error hhandle).elim
      (fun hparse => .inr (MessageParser.jsonOnly_parserSessionMessage env.mem text f hparse))
      fun hassert => .inl hassert.1

/-- An offer from IMS. -/
def offerCall : SessionMessage :=
  SessionMessage.of RoapType.offer (bytes "call") (bytes "m=audio 1 RTP/AVP 8\r\n")

/-- The answer from the web. -/
def answerCall : SessionMessage :=
  SessionMessage.of RoapType.answer (bytes "call")
    (bytes "m=audio 1 RTP/SAVPF 8\r\n" ++ CRYPTO_80 ++
      bytes "pCC0edHOwQOuwX0m4+135nil9xt5Lr9exVF7Gs4m\r\n")

/-- The end of the call. -/
def shutdownCall : SessionMessage :=
  SessionMessage.of RoapType.shutdownR (bytes "call") []

/-- The messages of a call. -/
def singleCall : Config := Config.reading [offerCall, answerCall, shutdownCall]

/-- A call is set up, answered and shut down, and its id is used again. -/
def reused : List Event :=
  [ Event.of offerCall, Event.of answerCall, Event.of shutdownCall, Event.of offerCall ]

/-- The second offer gets a session of its own, which the map then leads to. -/
theorem loop_invariant_reused :
    ∃ g log, (gateway singleCall).run (init singleCall) reused = .ok (g, log) ∧
      g.sessions (bytes "call") = some 1 ∧ LoopState singleCall g log := by
  obtain ⟨g, log, hrun, hmap⟩ := Machine.exists_of_map
    (show ((gateway singleCall).run (init singleCall) reused).toOption.map
        (fun r => r.1.sessions (bytes "call")) = some (some 1) by
      decide +kernel)
  exact ⟨g, log, hrun, hmap, loop_invariant hrun⟩

end Gateway

end MediaGateway
