import MediaGateway.Gateway.Invariant

/-!
# Calls

A call is what the gateway knows under one `offerSessionID`: `lookup` is the
session object the map leads to.  A message changes the call it names and no
other, and a timer the call whose session it was set for (`lookup_received`,
`lookup_fired`).

`inputs` lists what the calls are given in a run: the messages, and for each
timer that fires the call it concerns with the packet counters.
-/

namespace MediaGateway

open Lib MediaSession

/-- What a call is given from outside. -/
inductive Input
  | message (text : Bytes) (env : Env)
  | timeout (offerSessionID : Bytes) (flow : Flow)

namespace Gateway

variable {cfg : Config} {env : Env} {text : Bytes} {sMsg : SessionMessage} {used : Bool}
  {g g' : Gateway} {log done : List Entry}

/-- The session object of a call. -/
def lookup (g : Gateway) (id : Bytes) : Option SessionObj :=
  match g.sessions id with
  | none => none
  | some a => g.heap a

theorem lookup_of_map {id : Bytes} {a : Nat} (h : g.sessions id = some a) :
    g.lookup id = g.heap a := by
  simp only [lookup, h]

theorem lookup_of_unmapped {id : Bytes} (h : g.sessions id = none) : g.lookup id = none := by
  simp only [lookup, h]

theorem lookup_update {id : Bytes} {a : Nat} {o : SessionObj} {timer : Timer}
    (h : g.sessions id = some a) :
    lookup { g with heap := Function.update g.heap a (some o), timer } id = some o := by
  simp only [lookup, h, Function.update_self]

/-- A call whose entry and whose object stay is the same. -/
theorem lookup_congr {id : Bytes} (hsessions : g'.sessions id = g.sessions id)
    (hheap : ∀ a, g.sessions id = some a → g'.heap a = g.heap a) :
    g'.lookup id = g.lookup id := by
  unfold lookup
  rw [hsessions]
  cases hmap : g.sessions id with
  | none => rfl
  | some a => exact hheap a hmap

/-- A call is in the map exactly when it has an object. -/
theorem Inv.lookup_eq_none (hinv : Inv cfg g log) {id : Bytes} :
    g.lookup id = none ↔ g.sessions id = none := by
  cases hmap : g.sessions id with
  | none => simp [lookup_of_unmapped hmap]
  | some a =>
    obtain ⟨-, o, ho, -⟩ := hinv.mapped id a hmap
    simp [lookup_of_map hmap, ho]

/-- The address of a call that has an object. -/
theorem exists_of_lookup {id : Bytes} {o : SessionObj} (h : g.lookup id = some o) :
    ∃ a, g.sessions id = some a ∧ g.heap a = some o := by
  unfold lookup at h
  cases hmap : g.sessions id with
  | none =>
    rw [hmap] at h
    cases h
  | some a =>
    rw [hmap] at h
    exact ⟨a, rfl, h⟩

/-! ## Other calls -/

theorem lookup_wait (hinv : Inv cfg g log) {id : Bytes}
    (hsessions : g'.sessions id = g.sessions id) (hnext : g'.next = g.next)
    (hheap : ∀ a, g.sessions id = some a → g'.heap a = g.heap a) :
    (g'.wait cfg used).lookup id = g.lookup id := by
  cases used with
  | false => exact lookup_congr hsessions hheap
  | true =>
    refine lookup_congr hsessions fun a ha => ?_
    obtain ⟨-, o, ho, -⟩ := hinv.mapped id a ha
    have hne : a ≠ g'.next := by
      rw [hnext]
      exact Nat.ne_of_lt (hinv.born ho)
    exact (Function.update_of_ne hne ..).trans (hheap a ha)

/-- A message changes no call but the one it names. -/
theorem Inv.lookup_received (hinv : Inv cfg g log)
    (h : Received cfg env text sMsg g used g' done) {id : Bytes}
    (hid : id ≠ sMsg.roap.offerSessionID) : (g'.wait cfg used).lookup id = g.lookup id := by
  have hother : ∀ {a b : Nat}, g.sessions sMsg.roap.offerSessionID = some a →
      g.sessions id = some b → b ≠ a := by
    intro a b ha hb heq
    subst heq
    exact hid (hinv.injective hb ha)
  cases h with
  | ignored hnone => rfl
  | noted hid' htype hh hmap hheap => rfl
  | offered hid' htype hnew hspare hh =>
    refine lookup_wait hinv (Function.update_of_ne hid ..) rfl fun a ha => ?_
    have hne : a ≠ g.spare := (hinv.mapped id a ha).1
    exact (Function.update_of_ne hne ..).trans (Function.update_of_ne hne ..)
  | erased hid' htype hmap hheap =>
    exact lookup_wait hinv (Function.update_of_ne hid ..) rfl fun a ha => rfl
  | passed hid' htype hmap hheap hh =>
    exact lookup_wait hinv rfl rfl fun a ha => Function.update_of_ne (hother hmap ha) ..
  | deleted hid' htype hmap hheap =>
    exact lookup_wait hinv (Function.update_of_ne hid ..) rfl fun a ha =>
      Function.update_of_ne (hother hmap ha) ..

/-! ## The call itself -/

/-- The object of a call after a message that names it, `self` being the object's
number. -/
def objectAfter (cfg : Config) (env : Env) (text : Bytes) (sMsg : SessionMessage) (self : Nat)
    (t : Timer) : Option SessionObj → Option SessionObj
  | none =>
    if sMsg.roap.type = RoapType.offer then
      some (.running
        (handle cfg (if isFromBrowser text then .offerFromWeb else .offerFromIMS) env self sMsg
          { MediaSession.fresh cfg with offerSessionID := sMsg.roap.offerSessionID } t).1)
    else
      none
  | some (.stopped _ _) => none
  | some (.running s) =>
    match handlerFor text sMsg.roap.type with
    | some h => some (.running (handle cfg h env self sMsg s t).1)
    | none => if sMsg.roap.type = RoapType.shutdownR then none else some (.running s)

/-- The number of the object that a message of the call reaches. -/
def self (g : Gateway) (id : Bytes) : Nat := (g.sessions id).getD g.spare

theorem Inv.lookup_self (hinv : Inv cfg g log)
    (hid : sMsg.roap.offerSessionID ≠ [])
    (h : Received cfg env text sMsg g used g' done) :
    (g'.wait cfg used).lookup sMsg.roap.offerSessionID =
      objectAfter cfg env text sMsg (g.self sMsg.roap.offerSessionID) g.timer
        (g.lookup sMsg.roap.offerSessionID) := by
  cases h with
  | ignored hnone =>
    rcases hnone with hempty | ⟨htype, hnew⟩
    · exact absurd hempty hid
    · rw [lookup_of_unmapped hnew, objectAfter, if_neg htype]
      exact lookup_of_unmapped hnew
  | offered hid' htype hnew hspare hh =>
    rw [hinv.spareFresh] at hspare
    obtain rfl := SessionObj.running.inj (Option.some.inj hspare)
    rw [htype, handlerFor_offer] at hh
    obtain rfl := Option.some.inj hh
    have hne : g.spare ≠ g.next := Nat.ne_of_lt hinv.spareBorn
    rw [lookup_of_unmapped hnew, objectAfter, if_pos htype, self, hnew, Option.getD_none,
      lookup_of_map (Function.update_self ..)]
    exact (Function.update_of_ne hne ..).trans (Function.update_self ..)
  | erased hid' htype hmap hheap =>
    rw [lookup_of_map hmap, hheap, objectAfter]
    exact lookup_of_unmapped (Function.update_self ..)
  | passed hid' htype hmap hheap hh =>
    rw [lookup_of_map hmap, hheap, objectAfter, hh, self, hmap, Option.getD_some]
    exact lookup_update hmap
  | deleted hid' htype hmap hheap =>
    have hh : handlerFor text sMsg.roap.type = none := by rw [htype, handlerFor_shutdown]
    rw [lookup_of_map hmap, hheap, objectAfter, hh]
    dsimp only
    rw [if_pos htype]
    exact lookup_of_unmapped (Function.update_self ..)
  | noted hid' htype hh hmap hheap =>
    rw [lookup_of_map hmap, hheap, objectAfter, hh]
    dsimp only
    rw [if_neg htype]
    exact (lookup_of_map hmap).trans hheap

/-! ## Timers -/

/-- A timer that fires checks one running call in the map and changes no
other. -/
structure Checked (g : Gateway) (id : Bytes) (flow : Flow) (g' : Gateway) : Prop where
  own : ∃ a s, g.sessions id = some a ∧ g.heap a = some (.running s) ∧
    s.offerSessionID = id ∧
    g'.heap a = some ((s.withFlow flow).checkMediaFlow a g.timer).1
  other : ∀ id', id' ≠ id → g'.lookup id' = g.lookup id'
  sessions : g'.sessions = g.sessions

/-! ## What a call is given -/

/-- The input that an event is, in the state it happens in. -/
def inputOf (g : Gateway) : Event → List Input
  | .message text env => [.message text env]
  | .expire n flow =>
    if g.timer.running n then
      match g.timer.objects n with
      | none => []
      | some ts =>
        match g.heap ts.para with
        | none => []
        | some o => [.timeout o.offerSessionID flow]
    else
      []

/-- The inputs of a run. -/
def inputs (cfg : Config) (es : List Event) : List Input :=
  (gateway cfg).observe inputOf (init cfg) es

/-- A timer event is no input, or the check of the call it concerns. -/
theorem Inv.checked (hinv : Inv cfg g log) {n : Nat} {flow : Flow} (h : Fired n flow g g') :
    inputOf g (.expire n flow) = [] ∧ g' = g ∨
      ∃ id, inputOf g (.expire n flow) = [.timeout id flow] ∧ Checked g id flow g' := by
  have hchecked : ∀ (ts : Ts) (s : MediaSession) (o : SessionObj) (t : Timer),
      g.timer.objects n = some ts → g.heap ts.para = some (.running s) →
      o = ((s.withFlow flow).checkMediaFlow ts.para g.timer).1 →
      Checked g s.offerSessionID flow
        { g with heap := Function.update g.heap ts.para (some o), timer := t } := by
    intro ts s o t hts hheap ho
    have hmap := hinv.found ts.para s hheap (hinv.timers n ts hts).2
    refine ⟨⟨ts.para, s, hmap, hheap, rfl, ?_⟩, fun id' hne => ?_, rfl⟩
    · rw [← ho]
      exact Function.update_self ..
    · refine lookup_congr rfl fun a ha => Function.update_of_ne ?_ ..
      intro heq
      subst heq
      exact hne (hinv.injective ha hmap)
  cases h with
  | absent hoff => exact .inl ⟨by simp [inputOf, hoff], rfl⟩
  | kept hon hts hheap hflow =>
    refine .inr ⟨_, ?_, hchecked _ _ _ _ hts hheap ?_⟩
    · simp [inputOf, hon, hts, hheap, SessionObj.offerSessionID]
    · rw [checkMediaFlow_eq, if_pos hflow]
  | tornDown hon hts hheap hflow =>
    refine .inr ⟨_, ?_, hchecked _ _ _ _ hts hheap ?_⟩
    · simp [inputOf, hon, hts, hheap, SessionObj.offerSessionID]
    · rw [checkMediaFlow_eq, hflow, if_neg Bool.false_ne_true]

end Gateway

end MediaGateway
