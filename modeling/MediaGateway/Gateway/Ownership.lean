import Mathlib.Data.List.Nodup
import MediaGateway.Gateway.Calls

/-!
# Who owns the sessions

The loop creates a session and owns it until an offer takes it, the map owns it
from then on, and a shutdown deletes it.  `deletes` is what an event deletes, and
`Owned` that each session is with exactly one of the three.

The periodic check frees the agents and leaves the session in the map.  When a
message finds it there, `handleSessionMessage` takes out the entry and deletes
nothing: the session is `Lost`, and stays so.  `owned_iff` says that this is the
only way.
-/

namespace MediaGateway

open Lib MediaSession

namespace Gateway

variable {cfg : Config} {env : Env} {text : Bytes} {sMsg : SessionMessage} {used : Bool}
  {g g' : Gateway} {log done : List Entry} {deleted : List Nat}

/-! ## What is deleted -/

/-- The session that a message makes `handleSessionMessage` delete. -/
def deletedBy (sMsg : SessionMessage) (g : Gateway) : List Nat :=
  if sMsg.roap.offerSessionID ≠ [] ∧ sMsg.roap.type = RoapType.shutdownR then
    match g.sessions sMsg.roap.offerSessionID with
    | none => []
    | some a =>
      match g.heap a with
      | some (.running _) => [a]
      | _ => []
  else
    []

/-- The sessions that an event deletes.  The check of a timer deletes the agents
only. -/
def deletes (cfg : Config) (g : Gateway) : Event → List Nat
  | .message text env =>
    match MessageParser.parserSessionMessage cfg.json env.mem text with
    | .error _ => []
    | .ok sMsg => deletedBy sMsg g
  | .expire _ _ => []

/-- The sessions that a run deletes, in order. -/
def deletions (cfg : Config) (es : List Event) : List Nat :=
  (gateway cfg).observe (deletes cfg) (init cfg) es

/-- A session is with exactly one of the loop, the map and those that were
deleted, which it was once. -/
inductive OwnedOnce (g : Gateway) (deleted : List Nat) (a : Nat) : Prop
  | loop (hspare : a = g.spare) (hmap : ∀ id, g.sessions id ≠ some a) (hdel : a ∉ deleted)
  | map (hspare : a ≠ g.spare) (hmap : ∃! id, g.sessions id = some a) (hdel : a ∉ deleted)
  | gone (hspare : a ≠ g.spare) (hmap : ∀ id, g.sessions id ≠ some a)
      (hdel : deleted.count a = 1)

/-- Every session that was created has one owner. -/
def Owned (g : Gateway) (deleted : List Nat) : Prop := ∀ a < g.next, OwnedOnce g deleted a

/-- A session that is in nobody's hands and was not deleted. -/
structure Lost (g : Gateway) (deleted : List Nat) (a : Nat) : Prop where
  created : a < g.next
  notSpare : a ≠ g.spare
  unmapped : ∀ id, g.sessions id ≠ some a
  kept : a ∉ deleted

/-- The periodic check has stopped the session of the call. -/
def stoppedCall (g : Gateway) (id : Bytes) : Bool :=
  match g.lookup id with
  | some (.stopped _ _) => true
  | _ => false

/-- A message other than an offer for a call whose session the periodic check has
stopped. -/
def LateMessage (cfg : Config) (g : Gateway) : Event → Prop
  | .message text env =>
    match MessageParser.parserSessionMessage cfg.json env.mem text with
    | .error _ => False
    | .ok sMsg =>
      sMsg.roap.type ≠ RoapType.offer ∧ g.stoppedCall sMsg.roap.offerSessionID = true
  | .expire _ _ => False

instance decidableLateMessage (cfg : Config) (g : Gateway) :
    (e : Event) → Decidable (LateMessage cfg g e)
  | .message text env =>
    match hparse : MessageParser.parserSessionMessage cfg.json env.mem text with
    | .error _ => .isFalse fun h => by simp only [LateMessage, hparse] at h
    | .ok sMsg =>
      decidable_of_iff
        (sMsg.roap.type ≠ RoapType.offer ∧ g.stoppedCall sMsg.roap.offerSessionID = true)
        (by simp only [LateMessage, hparse])
  | .expire _ _ => .isFalse id

/-! ## What was deleted is free -/

/-- The deleted sessions are those that are no longer allocated. -/
structure Freed (g : Gateway) (deleted : List Nat) : Prop where
  once : deleted.Nodup
  free : ∀ a, a ∈ deleted ↔ a < g.next ∧ g.heap a = none

theorem freed_init (cfg : Config) : Freed (init cfg) [] where
  once := List.nodup_nil
  free := by
    intro a
    apply iff_of_false List.not_mem_nil
    intro hboth
    rcases hboth with ⟨hlt, hheap⟩
    obtain rfl : a = 0 := Nat.lt_one_iff.1 hlt
    cases hheap

theorem deletedBy_of_type (htype : sMsg.roap.type ≠ RoapType.shutdownR) : deletedBy sMsg g = [] :=
  if_neg fun h => htype h.2

theorem deletedBy_of_handler {h : Handler} (hh : handlerFor text sMsg.roap.type = some h) :
    deletedBy sMsg g = [] := by
  apply deletedBy_of_type
  intro hshut
  rw [hshut, handlerFor_shutdown] at hh
  cases hh

theorem deletedBy_of_unmapped (hmap : g.sessions sMsg.roap.offerSessionID = none) :
    deletedBy sMsg g = [] := by
  simp only [deletedBy, hmap, ite_self]

theorem deletedBy_of_stopped {a : Nat} {id : Bytes} {timerID : Nat}
    (hmap : g.sessions sMsg.roap.offerSessionID = some a)
    (hheap : g.heap a = some (.stopped id timerID)) : deletedBy sMsg g = [] := by
  simp only [deletedBy, hmap, hheap, ite_self]

theorem deletedBy_of_running {a : Nat} {s : MediaSession} (hid : sMsg.roap.offerSessionID ≠ [])
    (htype : sMsg.roap.type = RoapType.shutdownR)
    (hmap : g.sessions sMsg.roap.offerSessionID = some a)
    (hheap : g.heap a = some (.running s)) : deletedBy sMsg g = [a] := by
  rw [deletedBy, if_pos ⟨hid, htype⟩, hmap]
  simp only [hheap]

/-- A step in which the same objects stay allocated, besides a new one. -/
theorem Freed.keep (hfreed : Freed g deleted)
    (hheap : ∀ a < g.next, g'.heap a = none ↔ g.heap a = none)
    (hnext : g'.next = g.next ∨ g'.next = g.next + 1 ∧ g'.heap g.next ≠ none) :
    Freed g' (deleted ++ []) := by
  rw [List.append_nil]
  refine ⟨hfreed.once, fun a => ?_⟩
  rw [hfreed.free a]
  constructor
  · intro hboth
    rcases hboth with ⟨hlt, hnone⟩
    exact ⟨by omega, (hheap a hlt).2 hnone⟩
  · intro hboth
    rcases hboth with ⟨hlt, hnone⟩
    have hold : a < g.next := by
      rcases hnext with hsame | ⟨hmore, hborn⟩
      · rwa [hsame] at hlt
      · have hne : a ≠ g.next := by
          intro heq
          subst heq
          exact hborn hnone
        omega
    exact ⟨hold, (hheap a hold).1 hnone⟩

theorem update_eq_none {a b : Nat} {o o' : SessionObj} (hheap : g.heap a = some o) :
    Function.update g.heap a (some o') b = none ↔ g.heap b = none := by
  rw [Function.update_apply]
  split
  · rename_i heq
    rw [heq, hheap]
    exact iff_of_false (Option.some_ne_none o') (Option.some_ne_none o)
  · exact Iff.rfl

/-- A message without an id names no call of the map. -/
theorem Inv.unmapped_of_ignored (hinv : Inv cfg g log)
    (hnone : sMsg.roap.offerSessionID = [] ∨
      sMsg.roap.type ≠ RoapType.offer ∧ g.sessions sMsg.roap.offerSessionID = none) :
    g.sessions sMsg.roap.offerSessionID = none := by
  rcases hnone with hid | ⟨-, hmap⟩
  · rw [hid]
    exact hinv.named
  · exact hmap

theorem Freed.received (hfreed : Freed g deleted) (hinv : Inv cfg g log)
    (h : Received cfg env text sMsg g used g' done) :
    Freed (g'.wait cfg used) (deleted ++ deletedBy sMsg g) := by
  cases h with
  | ignored hnone =>
    rw [deletedBy_of_unmapped (hinv.unmapped_of_ignored hnone)]
    exact hfreed.keep (fun _ _ => Iff.rfl) (.inl rfl)
  | noted hid htype hh hmap hheap =>
    rw [deletedBy_of_type htype]
    exact hfreed.keep (fun _ _ => Iff.rfl) (.inl rfl)
  | erased hid htype hmap hheap =>
    rw [deletedBy_of_stopped hmap hheap]
    exact hfreed.keep (fun _ _ => Iff.rfl) (.inl rfl)
  | passed hid htype hmap hheap hh =>
    rw [deletedBy_of_handler hh]
    exact hfreed.keep (fun _ _ => update_eq_none hheap) (.inl rfl)
  | offered hid htype hnew hspare hh =>
    rw [deletedBy_of_handler hh]
    refine hfreed.keep (fun a ha => ?_) (.inr ⟨rfl, ?_⟩)
    · have hne : a ≠ g.next := Nat.ne_of_lt ha
      simp only [wait, if_true, newSpare, afterHandler, takeCall]
      rw [Function.update_of_ne hne, Function.update_idem]
      exact update_eq_none hspare
    · simp [wait, newSpare, afterHandler, takeCall]
  | @deleted a s hid htype hmap hheap =>
    have hborn := hinv.born hheap
    rw [deletedBy_of_running hid htype hmap hheap]
    refine ⟨List.nodup_append.2 ⟨hfreed.once, List.nodup_singleton a, ?_⟩, fun b => ?_⟩
    · intro b hb c hc hbc
      rw [hbc, List.mem_singleton.1 hc, hfreed.free a, hheap] at hb
      cases hb.2
    · simp only [wait, Bool.false_eq_true, if_false, forget, delete, List.mem_append,
        List.mem_singleton, hfreed.free b, Function.update_apply]
      by_cases hba : b = a
      · subst hba
        simp [hborn]
      · simp [hba]

/-- A timer changes one object and neither the map nor who was created. -/
theorem Fired.frame {n : Nat} {flow : Flow} (h : Fired n flow g g') :
    g'.sessions = g.sessions ∧ g'.next = g.next ∧ g'.spare = g.spare ∧
      ∀ a, g'.heap a = none ↔ g.heap a = none := by
  cases h with
  | absent hoff => exact ⟨rfl, rfl, rfl, fun _ => Iff.rfl⟩
  | kept hon hts hheap hflow => exact ⟨rfl, rfl, rfl, fun _ => update_eq_none hheap⟩
  | tornDown hon hts hheap hflow => exact ⟨rfl, rfl, rfl, fun _ => update_eq_none hheap⟩

theorem Freed.step {e : Event} (hfreed : Freed g deleted) (hinv : Inv cfg g log)
    (h : (gateway cfg).step g e = .ok (g', done)) : Freed g' (deleted ++ deletes cfg g e) := by
  rcases gateway_step_ok h with
      ⟨text, env, sMsg, used, g₁, rfl, hparse, hreceived, rfl⟩ | ⟨n, flow, rfl, rfl, hfired⟩
  · simp only [deletes, hparse]
    exact hfreed.received hinv hreceived
  · obtain ⟨-, hnext, -, hheap⟩ := hfired.frame
    exact hfreed.keep (fun a _ => hheap a) (.inl hnext)

/-- After a run the deleted sessions are the free ones, each deleted once. -/
theorem freed_run {es : List Event} (h : (gateway cfg).run (init cfg) es = .ok (g, log)) :
    Freed g (deletions cfg es) := by
  induction es using List.reverseRecOn generalizing g log with
  | nil =>
    obtain ⟨rfl, rfl⟩ := Machine.run_nil_ok.1 h
    exact freed_init cfg
  | append_singleton es e ih =>
    obtain ⟨g₁, log₁, done, hrun, hstep, rfl⟩ := Machine.run_snoc_ok.1 h
    rw [deletions, Machine.observe_snoc hrun]
    exact (ih hrun).step (inv_run hrun) hstep

/-! ## Owned or lost -/

/-- Whatever the map leads to was not deleted. -/
theorem Inv.not_deleted (hinv : Inv cfg g log) (hfreed : Freed g deleted) {id : Bytes} {a : Nat}
    (hmap : g.sessions id = some a) : a ∉ deleted := by
  intro hdel
  obtain ⟨-, o, ho, -⟩ := hinv.mapped id a hmap
  rw [((hfreed.free a).1 hdel).2] at ho
  cases ho

theorem Inv.owned_iff_not_lost (hinv : Inv cfg g log) (hfreed : Freed g deleted) :
    Owned g deleted ↔ ∀ a, ¬ Lost g deleted a := by
  constructor
  · intro howned a hlost
    cases howned a hlost.created with
    | loop hspare hmap hdel => exact hlost.notSpare hspare
    | map hspare hmap hdel =>
      obtain ⟨id, hid, -⟩ := hmap
      exact hlost.unmapped id hid
    | gone hspare hmap hdel =>
      have hin : a ∈ deleted := List.count_pos_iff.1 (by omega)
      exact hlost.kept hin
  · intro hlost a ha
    by_cases hspare : a = g.spare
    · refine .loop hspare (fun id hmap => (hinv.mapped id a hmap).1 hspare) fun hdel => ?_
      have hfree := ((hfreed.free a).1 hdel).2
      rw [hspare, hinv.spareFresh] at hfree
      cases hfree
    · by_cases hmap : ∃ id, g.sessions id = some a
      · obtain ⟨id, hid⟩ := hmap
        exact .map hspare ⟨id, hid, fun id' hid' => hinv.injective hid' hid⟩
          (hinv.not_deleted hfreed hid)
      · have hnone := not_exists.1 hmap
        refine .gone hspare hnone (List.count_eq_one_of_mem hfreed.once ?_)
        by_contra hdel
        exact hlost a ⟨ha, hspare, hnone, hdel⟩

/-- The spare session goes into the map, and the next object is the spare one. -/
theorem Inv.lost_of_put {id : Bytes} {g₁ : Gateway} (hinv : Inv cfg g log)
    (hnew : g.sessions id = none) (hnext : g₁.next = g.next + 1) (hspare : g₁.spare = g.next)
    (hsessions : g₁.sessions = Function.update g.sessions id (some g.spare)) (a : Nat) :
    Lost g₁ deleted a ↔ Lost g deleted a := by
  have hborn := hinv.spareBorn
  constructor
  · intro hlost
    rcases hlost with ⟨hcreated, hnotSpare, hunmapped, hkept⟩
    rw [hnext] at hcreated
    rw [hspare] at hnotSpare
    rw [hsessions] at hunmapped
    refine ⟨by omega, ?_, fun id' hmap => ?_, hkept⟩
    · intro heq
      subst heq
      exact hunmapped _ (Function.update_self ..)
    · have hother : id' ≠ id := by
        intro heq
        subst heq
        rw [hnew] at hmap
        cases hmap
      exact hunmapped id' ((Function.update_of_ne hother ..).trans hmap)
  · intro hlost
    rcases hlost with ⟨hcreated, hnotSpare, hunmapped, hkept⟩
    refine ⟨by omega, by omega, fun id' hmap => ?_, hkept⟩
    rw [hsessions, Function.update_apply] at hmap
    split at hmap
    · exact hnotSpare (Option.some.inj hmap).symm
    · exact hunmapped id' hmap

/-- A session that leaves the map is deleted. -/
theorem lost_of_delete {id : Bytes} {b : Nat} {g₁ : Gateway} (hmap : g.sessions id = some b)
    (hnext : g₁.next = g.next) (hspare : g₁.spare = g.spare)
    (hsessions : g₁.sessions = Function.update g.sessions id none) (a : Nat) :
    Lost g₁ (deleted ++ [b]) a ↔ Lost g deleted a := by
  constructor
  · intro hlost
    rcases hlost with ⟨hcreated, hnotSpare, hunmapped, hkept⟩
    have hkept' : a ∉ deleted ∧ a ∉ [b] := not_or.1 fun h => hkept (List.mem_append.2 h)
    rw [hsessions] at hunmapped
    refine ⟨hnext ▸ hcreated, hspare ▸ hnotSpare, fun id' hid' => ?_, hkept'.1⟩
    have hother : id' ≠ id := by
      intro heq
      subst heq
      rw [hmap] at hid'
      exact hkept'.2 (List.mem_singleton.2 (Option.some.inj hid').symm)
    exact hunmapped id' ((Function.update_of_ne hother ..).trans hid')
  · intro hlost
    rcases hlost with ⟨hcreated, hnotSpare, hunmapped, hkept⟩
    refine ⟨hnext.symm ▸ hcreated, hspare.symm ▸ hnotSpare, fun id' hid' => ?_, ?_⟩
    · rw [hsessions, Function.update_apply] at hid'
      split at hid'
      · cases hid'
      · exact hunmapped id' hid'
    · intro hin
      rcases List.mem_append.1 hin with hin | hin
      · exact hkept hin
      · rw [List.mem_singleton.1 hin] at hunmapped
        exact hunmapped _ hmap

/-- What a message loses: the stopped session of the call that it takes out of the
map. -/
theorem Inv.lost_received (hinv : Inv cfg g log) (hfreed : Freed g deleted)
    (h : Received cfg env text sMsg g used g' done) :
    (∃ a, Lost (g'.wait cfg used) (deleted ++ deletedBy sMsg g) a) ↔
      (∃ a, Lost g deleted a) ∨
        sMsg.roap.type ≠ RoapType.offer ∧ g.stoppedCall sMsg.roap.offerSessionID = true := by
  have hsame : g.stoppedCall sMsg.roap.offerSessionID = false →
      (∀ a, Lost (g'.wait cfg used) (deleted ++ deletedBy sMsg g) a ↔ Lost g deleted a) →
      ((∃ a, Lost (g'.wait cfg used) (deleted ++ deletedBy sMsg g) a) ↔
        (∃ a, Lost g deleted a) ∨
          sMsg.roap.type ≠ RoapType.offer ∧ g.stoppedCall sMsg.roap.offerSessionID = true) := by
    intro hstop hlost
    rw [exists_congr hlost, hstop]
    simp
  have hrunning : ∀ a s, g.sessions sMsg.roap.offerSessionID = some a →
      g.heap a = some (.running s) → g.stoppedCall sMsg.roap.offerSessionID = false := by
    intro a s hmap hheap
    rw [stoppedCall, lookup_of_map hmap, hheap]
  have habsent : g.sessions sMsg.roap.offerSessionID = none →
      g.stoppedCall sMsg.roap.offerSessionID = false := by
    intro hmap
    rw [stoppedCall, lookup_of_unmapped hmap]
  cases h with
  | ignored hnone =>
    have hmap := hinv.unmapped_of_ignored hnone
    refine hsame (habsent hmap) fun a => ?_
    rw [deletedBy_of_unmapped hmap, List.append_nil]
    exact Iff.rfl
  | noted hid htype hh hmap hheap =>
    refine hsame (hrunning _ _ hmap hheap) fun a => ?_
    rw [deletedBy_of_type htype, List.append_nil]
    exact Iff.rfl
  | passed hid htype hmap hheap hh =>
    refine hsame (hrunning _ _ hmap hheap) fun a => ?_
    rw [deletedBy_of_handler hh, List.append_nil]
    exact ⟨fun h => ⟨h.created, h.notSpare, h.unmapped, h.kept⟩,
      fun h => ⟨h.created, h.notSpare, h.unmapped, h.kept⟩⟩
  | offered hid htype hnew hspare hh =>
    refine hsame (habsent hnew) fun a => ?_
    rw [deletedBy_of_handler hh, List.append_nil]
    exact hinv.lost_of_put hnew rfl rfl rfl a
  | @deleted b s hid htype hmap hheap =>
    refine hsame (hrunning _ _ hmap hheap) fun a => ?_
    rw [deletedBy_of_running hid htype hmap hheap]
    apply lost_of_delete hmap <;> rfl
  | @erased a id timerID hid htype hmap hheap =>
    refine iff_of_true ⟨a, ?_⟩ (.inr ⟨htype, ?_⟩)
    · rw [deletedBy_of_stopped hmap hheap, List.append_nil]
      refine ⟨hinv.born hheap, (hinv.mapped _ a hmap).1, fun id' hid' => ?_,
        hinv.not_deleted hfreed hmap⟩
      have hid'' : Function.update g.sessions sMsg.roap.offerSessionID none id' = some a := hid'
      rw [Function.update_apply] at hid''
      split at hid''
      · cases hid''
      · rename_i hother
        exact hother (hinv.injective hid'' hmap)
    · rw [stoppedCall, lookup_of_map hmap, hheap]

/-- What a step loses. -/
theorem Inv.lost_step {e : Event} (hinv : Inv cfg g log) (hfreed : Freed g deleted)
    (h : (gateway cfg).step g e = .ok (g', done)) :
    (∃ a, Lost g' (deleted ++ deletes cfg g e) a) ↔
      (∃ a, Lost g deleted a) ∨ LateMessage cfg g e := by
  rcases gateway_step_ok h with
      ⟨text, env, sMsg, used, g₁, rfl, hparse, hreceived, rfl⟩ | ⟨n, flow, rfl, rfl, hfired⟩
  · simp only [deletes, LateMessage, hparse]
    exact hinv.lost_received hfreed hreceived
  · obtain ⟨hsessions, hnext, hspare, -⟩ := hfired.frame
    have hsame : ∀ a, Lost g' (deleted ++ []) a ↔ Lost g deleted a := by
      intro a
      rw [List.append_nil]
      constructor
      · intro hall
        rcases hall with ⟨hcreated, hnotSpare, hunmapped, hkept⟩
        exact ⟨hnext ▸ hcreated, hspare ▸ hnotSpare, hsessions ▸ hunmapped, hkept⟩
      · intro hall
        rcases hall with ⟨hcreated, hnotSpare, hunmapped, hkept⟩
        exact ⟨hnext ▸ hcreated, hspare ▸ hnotSpare, hsessions ▸ hunmapped, hkept⟩
    rw [deletes, exists_congr hsame, LateMessage, or_false]

/-- A run loses a session exactly when one of its messages comes too late. -/
theorem not_lost_iff {es : List Event} (h : (gateway cfg).run (init cfg) es = .ok (g, log)) :
    (¬ ∃ a, Lost g (deletions cfg es) a) ↔
      (gateway cfg).Meets (fun g e => ¬ LateMessage cfg g e) (init cfg) es := by
  induction es using List.reverseRecOn generalizing g log with
  | nil =>
    obtain ⟨rfl, rfl⟩ := Machine.run_nil_ok.1 h
    refine iff_of_true ?_ trivial
    intro hex
    rcases hex with ⟨a, hcreated, hnotSpare, -, -⟩
    exact hnotSpare (Nat.lt_one_iff.1 hcreated)
  | append_singleton es e ih =>
    obtain ⟨g₁, log₁, done, hrun, hstep, rfl⟩ := Machine.run_snoc_ok.1 h
    rw [deletions, Machine.observe_snoc hrun, Machine.meets_snoc hrun, ← ih hrun, ← not_or]
    exact not_congr ((inv_run hrun).lost_step (freed_run hrun) hstep)

/-- In the state that a run reaches every session has one owner exactly when no
message came too late. -/
theorem owned_iff {es : List Event} (h : (gateway cfg).run (init cfg) es = .ok (g, log)) :
    Owned g (deletions cfg es) ↔
      (gateway cfg).Meets (fun g e => ¬ LateMessage cfg g e) (init cfg) es := by
  rw [(inv_run h).owned_iff_not_lost (freed_run h), ← not_exists, not_lost_iff h]

/-- A call that is set up, goes on for one period and is shut down. -/
theorem owned_call :
    ∃ g log,
      (gateway (Config.reading [offerCall, answerCall, shutdownCall])).run
          (init (Config.reading [offerCall, answerCall, shutdownCall]))
          [ Event.of offerCall, Event.of answerCall, .expire 0 { web := 5, ims := 5 }
          , Event.of shutdownCall ] = .ok (g, log) ∧
        Owned g (deletions (Config.reading [offerCall, answerCall, shutdownCall])
          [ Event.of offerCall, Event.of answerCall, .expire 0 { web := 5, ims := 5 }
          , Event.of shutdownCall ]) := by
  obtain ⟨g, log, hrun⟩ := Machine.fault_eq_none
    (show (gateway (Config.reading [offerCall, answerCall, shutdownCall])).fault
        (init (Config.reading [offerCall, answerCall, shutdownCall]))
        [ Event.of offerCall, Event.of answerCall, .expire 0 { web := 5, ims := 5 }
        , Event.of shutdownCall ] = none by
      decide +kernel)
  exact ⟨g, log, hrun, (owned_iff hrun).2 (by decide +kernel)⟩

/-- The periodic check stops the session, and the shutdown comes too late. -/
theorem not_owned :
    ∃ g log,
      (gateway (Config.reading [offerCall, answerCall, shutdownCall])).run
          (init (Config.reading [offerCall, answerCall, shutdownCall]))
          [ Event.of offerCall, Event.of answerCall, .expire 0 { web := 0, ims := 0 }
          , Event.of shutdownCall ] = .ok (g, log) ∧
        ¬ Owned g (deletions (Config.reading [offerCall, answerCall, shutdownCall])
            [ Event.of offerCall, Event.of answerCall, .expire 0 { web := 0, ims := 0 }
            , Event.of shutdownCall ]) := by
  obtain ⟨g, log, hrun⟩ := Machine.fault_eq_none
    (show (gateway (Config.reading [offerCall, answerCall, shutdownCall])).fault
        (init (Config.reading [offerCall, answerCall, shutdownCall]))
        [ Event.of offerCall, Event.of answerCall, .expire 0 { web := 0, ims := 0 }
        , Event.of shutdownCall ] = none by
      decide +kernel)
  refine ⟨g, log, hrun, ?_⟩
  rw [(inv_run hrun).owned_iff_not_lost (freed_run hrun), ← not_exists, not_lost_iff hrun]
  decide +kernel

end Gateway

end MediaGateway
