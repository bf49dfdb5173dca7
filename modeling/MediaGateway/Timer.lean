import Mathlib.Logic.Function.Basic

/-!
# Timers

`timer.cpp`.  `setTimer` allocates a `Ts` object, starts a thread that will
call back with it, and enters both in two maps under a number that a counter
supplies.  The counter starts again at `1` before it reaches `0x7fffffff`.

Objects and threads are numbered by creation and their numbers are never used
again: thread `n` is the one created with `Ts` object `n` as its argument.  The
numbers that `setTimer` returns are the keys of the maps, and they may repeat.

`setTimer` and `stopTimer` are each one atomic step.  `expire` is the part of
`onTimeout` after the callback has returned.
-/

namespace MediaGateway

/-- A `Ts` object: its timer number and the argument of the callback, which is
the number of a `MediaSession`. -/
structure Ts where
  id : Nat
  para : Nat
  deriving DecidableEq, Repr

/-- The static members of `Timer`, the `Ts` objects that are allocated and the
threads that have not ended. -/
structure Timer where
  cnt : Nat
  tpool : Nat → Option Nat
  tpool2 : Nat → Option Nat
  objects : Nat → Option Ts
  running : Nat → Bool
  made : Nat

namespace Timer

/-- No timer was ever set. -/
def init : Timer where
  cnt := 0
  tpool := fun _ => none
  tpool2 := fun _ => none
  objects := fun _ => none
  running := fun _ => false
  made := 0

/-- `if(++cnt == 0x7fffffff)cnt = 1;` -/
def nextId (cnt : Nat) : Nat := if cnt + 1 = 0x7fffffff then 1 else cnt + 1

/-- `setTimer(TIMEOUT, &checkMediaFlow, para)`: the number and the tables. -/
def setTimer (para : Nat) (t : Timer) : Nat × Timer :=
  let id := nextId t.cnt
  ( id
  , { cnt := id
      tpool := Function.update t.tpool id (some t.made)
      tpool2 := Function.update t.tpool2 id (some t.made)
      objects := Function.update t.objects t.made (some { id, para })
      running := Function.update t.running t.made true
      made := t.made + 1 } )

/-- `pthread_cancel` and `pthread_join`. -/
def cancel (thread : Option Nat) (t : Timer) : Timer :=
  match thread with
  | none => t
  | some n => { t with running := Function.update t.running n false }

/-- `stopTimer(id)`: what it returns and the tables. -/
def stopTimer (id : Nat) (t : Timer) : Int × Timer :=
  match t.tpool id with
  | none => (-1, t)
  | some n =>
    ( 0
    , cancel (t.tpool2 id)
        { t with
          objects := Function.update t.objects n none
          tpool := Function.update t.tpool id none } )

/-- `if(tpool[id]) delete tpool[id];  tpool[id] = 0;`, after which thread `n`
ends. -/
def expire (n id : Nat) (t : Timer) : Timer :=
  let objects :=
    match t.tpool id with
    | none => t.objects
    | some m => Function.update t.objects m none
  { t with
    objects
    tpool := Function.update t.tpool id none
    running := Function.update t.running n false }

/-- A timer number is never `0`, the value that means no timer. -/
theorem nextId_pos (cnt : Nat) : 0 < nextId cnt := by
  unfold nextId
  split <;> omega

theorem setTimer_fst_ne_zero (para : Nat) (t : Timer) : (t.setTimer para).1 ≠ 0 :=
  Nat.ne_of_gt (nextId_pos t.cnt)

/-! ## The `Ts` objects -/

@[simp] theorem objects_cancel (thread : Option Nat) (t : Timer) :
    (t.cancel thread).objects = t.objects := by
  cases thread <;> rfl

/-- The `Ts` objects after `setTimer`: a new one. -/
theorem objects_setTimer {para : Nat} {t : Timer} {n : Nat} {ts : Ts}
    (h : (t.setTimer para).2.objects n = some ts) : ts.para = para ∨ t.objects n = some ts := by
  simp only [setTimer, Function.update_apply] at h
  split at h
  · obtain rfl := Option.some.inj h
    exact .inl rfl
  · exact .inr h

/-- `stopTimer` only deletes. -/
theorem objects_stopTimer {id : Nat} {t : Timer} {n : Nat} {ts : Ts}
    (h : (t.stopTimer id).2.objects n = some ts) : t.objects n = some ts := by
  unfold stopTimer at h
  split at h
  · exact h
  · simp only [objects_cancel, Function.update_apply] at h
    split at h
    · cases h
    · exact h

/-- `expire` only deletes. -/
theorem objects_expire {m id : Nat} {t : Timer} {n : Nat} {ts : Ts}
    (h : (t.expire m id).objects n = some ts) : t.objects n = some ts := by
  simp only [expire] at h
  split at h
  · exact h
  · rw [Function.update_apply] at h
    split at h
    · cases h
    · exact h

/-! ## A timer and its entries -/

/-- Thread `n` waits, and the tables have it under its number. -/
structure Armed (t : Timer) (n : Nat) (ts : Ts) : Prop where
  running : t.running n = true
  object : t.objects n = some ts
  tpool : t.tpool ts.id = some n
  tpool2 : t.tpool2 ts.id = some n

/-- Without the thread, its `Ts` object and its entry in `tpool`. -/
def clear (n id : Nat) (t : Timer) : Timer :=
  { t with
    objects := Function.update t.objects n none
    tpool := Function.update t.tpool id none
    running := Function.update t.running n false }

theorem stopTimer_armed {t : Timer} {n : Nat} {ts : Ts} (h : t.Armed n ts) :
    t.stopTimer ts.id = (0, t.clear n ts.id) := by
  simp only [stopTimer, h.tpool, h.tpool2, cancel, clear]

theorem expire_armed {t : Timer} {n : Nat} {ts : Ts} (h : t.Armed n ts) :
    t.expire n ts.id = t.clear n ts.id := by
  simp only [expire, h.tpool, clear]

/-! ## Owners

When no two timers are set for one session and no number comes round while it is
in use, threads and owners correspond. -/

/-- A thread that has not ended has the `Ts` object it was created with. -/
def pending (t : Timer) (n : Nat) (ts : Ts) : Prop :=
  t.running n = true ∧ t.objects n = some ts

/-- The number that `setTimer` draws next is not in use. -/
def Fresh (t : Timer) : Prop := t.tpool (nextId t.cnt) = none

/-- Every thread that has not ended is the timer of one owner, and every owner
of a timer has its thread. -/
structure Matches (t : Timer) (owner : Nat → Option Nat) : Prop where
  unborn : ∀ n, t.made ≤ n → t.running n = false
  threads : ∀ n, t.running n = true →
    ∃ ts, t.objects n = some ts ∧ owner ts.para = some ts.id ∧
      t.tpool ts.id = some n ∧ t.tpool2 ts.id = some n
  armed : ∀ a id, owner a = some id →
    ∃ n, t.running n = true ∧ t.objects n = some { id, para := a }

namespace Matches

variable {t : Timer} {owner : Nat → Option Nat}

/-- A thread that waits is its owner's, and the tables have it. -/
theorem armed_of_pending (h : Matches t owner) {n : Nat} {ts : Ts} (hn : t.pending n ts) :
    owner ts.para = some ts.id ∧ t.Armed n ts := by
  obtain ⟨ts', hts', hown, hpool, hpool2⟩ := h.threads n hn.1
  rw [hn.2] at hts'
  obtain rfl := Option.some.inj hts'
  exact ⟨hown, hn.1, hn.2, hpool, hpool2⟩

/-- The thread of an owner is the one in both tables. -/
theorem exists_thread (h : Matches t owner) {a id : Nat} (ha : owner a = some id) :
    ∃ n, t.Armed n { id, para := a } := by
  obtain ⟨n, hrun, hobj⟩ := h.armed a id ha
  exact ⟨n, (h.armed_of_pending ⟨hrun, hobj⟩).2⟩

/-- An owner has one thread. -/
theorem thread_unique (h : Matches t owner) {n m : Nat} {ts ts' : Ts} (hn : t.pending n ts)
    (hm : t.pending m ts') (hpara : ts.para = ts'.para) : n = m := by
  obtain ⟨hown₁, harmed₁⟩ := h.armed_of_pending hn
  obtain ⟨hown₂, harmed₂⟩ := h.armed_of_pending hm
  have hpool := harmed₁.tpool
  rw [hpara, hown₂] at hown₁
  rw [← Option.some.inj hown₁, harmed₂.tpool] at hpool
  exact (Option.some.inj hpool).symm

/-- A new timer for something that has none. -/
theorem setTimer (h : Matches t owner) (hfresh : t.Fresh) {a : Nat} (ha : owner a = none) :
    Matches (t.setTimer a).2 (Function.update owner a (some (t.setTimer a).1)) where
  unborn := by
    intro n hn
    have hlt : t.made < n := hn
    exact (Function.update_of_ne (Nat.ne_of_gt hlt) ..).trans (h.unborn n (Nat.le_of_lt hlt))
  threads := by
    intro n hn
    by_cases hmade : n = t.made
    · subst hmade
      exact ⟨{ id := nextId t.cnt, para := a }, Function.update_self .., Function.update_self ..,
        Function.update_self .., Function.update_self ..⟩
    · have hold : t.running n = true := (Function.update_of_ne hmade ..).symm.trans hn
      obtain ⟨ts, hts, hown, hpool, hpool2⟩ := h.threads n hold
      have hid : ts.id ≠ nextId t.cnt := by
        intro heq
        rw [heq, hfresh] at hpool
        cases hpool
      have hpara : ts.para ≠ a := by
        intro heq'
        subst heq'
        rw [ha] at hown
        cases hown
      exact ⟨ts, (Function.update_of_ne hmade ..).trans hts,
        (Function.update_of_ne hpara ..).trans hown, (Function.update_of_ne hid ..).trans hpool,
        (Function.update_of_ne hid ..).trans hpool2⟩
  armed := by
    intro b id hb
    by_cases hba : b = a
    · subst hba
      rw [Function.update_self] at hb
      obtain rfl := Option.some.inj hb
      exact ⟨t.made, Function.update_self .., Function.update_self ..⟩
    · rw [Function.update_of_ne hba] at hb
      obtain ⟨n, hrun, hobj⟩ := h.armed b id hb
      have hmade : n ≠ t.made := by
        intro heq'
        subst heq'
        rw [h.unborn t.made (Nat.le_refl _)] at hrun
        cases hrun
      exact ⟨n, (Function.update_of_ne hmade ..).trans hrun,
        (Function.update_of_ne hmade ..).trans hobj⟩

/-- The timer of `a` ends. -/
theorem release (h : Matches t owner) {a id n : Nat} (ha : owner a = some id)
    (hn : t.tpool id = some n) : Matches (t.clear n id) (Function.update owner a none) where
  unborn := by
    intro m hm
    show Function.update t.running n false m = false
    rw [Function.update_apply]
    split
    · rfl
    · exact h.unborn m hm
  threads := by
    intro m hm
    have hne : m ≠ n := by
      intro heq'
      subst heq'
      cases (Function.update_self ..).symm.trans hm
    have hold : t.running m = true := (Function.update_of_ne hne ..).symm.trans hm
    obtain ⟨ts, hts, hown, hts1, hts2⟩ := h.threads m hold
    have hid : ts.id ≠ id := by
      intro heq
      rw [heq, hn] at hts1
      exact hne (Option.some.inj hts1).symm
    have hpara : ts.para ≠ a := by
      intro heq
      rw [heq, ha] at hown
      exact hid (Option.some.inj hown).symm
    exact ⟨ts, (Function.update_of_ne hne ..).trans hts,
      (Function.update_of_ne hpara ..).trans hown, (Function.update_of_ne hid ..).trans hts1, hts2⟩
  armed := by
    intro b id' hb
    have hba : b ≠ a := by
      intro heq'
      subst heq'
      rw [Function.update_self] at hb
      cases hb
    rw [Function.update_of_ne hba] at hb
    obtain ⟨m, hrun, hobj⟩ := h.armed b id' hb
    obtain ⟨n', harmed⟩ := h.exists_thread ha
    have hne : m ≠ n := by
      intro heq'
      subst heq'
      have hn' : t.tpool id = some n' := harmed.tpool
      rw [hn] at hn'
      have hobj' := harmed.object
      rw [← Option.some.inj hn', hobj] at hobj'
      exact hba (congrArg Ts.para (Option.some.inj hobj'))
    exact ⟨m, (Function.update_of_ne hne ..).trans hrun, (Function.update_of_ne hne ..).trans hobj⟩

theorem stopTimer (h : Matches t owner) {a id : Nat} (ha : owner a = some id) :
    Matches (t.stopTimer id).2 (Function.update owner a none) := by
  obtain ⟨n, harmed⟩ := h.exists_thread ha
  rw [stopTimer_armed harmed]
  exact h.release ha harmed.tpool

theorem expire (h : Matches t owner) {n : Nat} {ts : Ts} (hn : t.pending n ts) :
    Matches (t.expire n ts.id) (Function.update owner ts.para none) := by
  obtain ⟨hown, harmed⟩ := h.armed_of_pending hn
  rw [expire_armed harmed]
  exact h.release hown harmed.tpool

/-- A callback may set its next timer before its own ends. -/
theorem expire_setTimer (h : Matches t owner) (hfresh : t.Fresh) {n : Nat} {ts : Ts}
    (hn : t.pending n ts) (a : Nat) :
    (t.setTimer a).2.expire n ts.id = ((t.expire n ts.id).setTimer a).2 ∧
      (t.expire n ts.id).Fresh := by
  have hpool := (h.armed_of_pending hn).2.tpool
  have hid : ts.id ≠ nextId t.cnt := by
    intro heq
    rw [heq, hfresh] at hpool
    cases hpool
  have hmade : n ≠ t.made := by
    intro heq'
    subst heq'
    have hoff := h.unborn t.made (Nat.le_refl _)
    rw [hn.1] at hoff
    cases hoff
  constructor
  · simp only [Timer.expire, Timer.setTimer, Function.update_of_ne hid, hpool]
    rw [Function.update_comm hid, Function.update_comm hmade, Function.update_comm hmade]
  · simp only [Timer.Fresh, Timer.expire, Function.update_of_ne hid.symm]
    exact hfresh

end Matches

end Timer

end MediaGateway
