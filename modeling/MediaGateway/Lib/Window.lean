import MediaGateway.Lib.Machine
import Mathlib.Data.List.Nodup

/-!
# Replay windows

A receiver of numbered packets takes each number once.  It does not keep all of them: it
keeps those in a window behind the highest one and refuses every number behind the window.

`verdict` is that rule over the list of all numbers accepted so far, and `window` is the
receiver that goes by it.  It never accepts a number twice, whatever the size of its window
(`kept_step`).
-/

namespace MediaGateway.Lib.Window

/-- What a window says to a number. -/
inductive Verdict
  | fresh
  /-- behind the window -/
  | old
  /-- accepted before -/
  | replayed
  deriving DecidableEq, Repr

/-- The highest number, and 0 as long as there is none. -/
def highest (seen : List Nat) : Nat := seen.foldr max 0

/-- The verdict on `i` when `seen` are the numbers accepted so far. -/
def verdict (size : Nat) (seen : List Nat) (i : Nat) : Verdict :=
  if i + size ≤ highest seen then .old else if i ∈ seen then .replayed else .fresh

/-- The numbers of a log that were accepted. -/
def accepted (log : List (Nat × Verdict)) : List Nat :=
  log.filterMap fun e => if e.2 = .fresh then some e.1 else none

/-- The receiver that keeps every number it accepts. -/
def window (size : Nat) : Transducer (List Nat) Nat (Nat × Verdict) where
  step := fun seen i =>
    (if verdict size seen i = .fresh then seen ++ [i] else seen, [(i, verdict size seen i)])

variable {size i : Nat} {seen : List Nat}

theorem window_step (size : Nat) (seen : List Nat) (i : Nat) :
    (window size).step seen i =
      (if verdict size seen i = .fresh then seen ++ [i] else seen, [(i, verdict size seen i)]) :=
  rfl

@[simp] theorem highest_nil : highest [] = 0 := rfl

theorem highest_snoc (seen : List Nat) (i : Nat) :
    highest (seen ++ [i]) = max (highest seen) i := by
  induction seen with
  | nil => exact Nat.max_comm i 0
  | cons j seen ih =>
    show max j (highest (seen ++ [i])) = max (max j (highest seen)) i
    rw [ih, Nat.max_assoc]

theorem le_highest (h : i ∈ seen) : i ≤ highest seen := by
  induction seen with
  | nil => cases h
  | cons j seen ih =>
    show i ≤ max j (highest seen)
    rcases List.mem_cons.1 h with rfl | h
    · exact Nat.le_max_left ..
    · exact Nat.le_trans (ih h) (Nat.le_max_right ..)

theorem verdict_fresh_iff :
    verdict size seen i = .fresh ↔ highest seen < i + size ∧ i ∉ seen := by
  unfold verdict
  split_ifs with hold hmem
  · simp [Nat.not_lt.2 hold]
  · simp [hmem]
  · simp [hmem, Nat.lt_of_not_le hold]

theorem verdict_of_highest_lt (h : highest seen < i) : verdict size seen i = .fresh :=
  verdict_fresh_iff.2 ⟨Nat.lt_of_lt_of_le h (Nat.le_add_right ..),
    fun hmem => absurd (le_highest hmem) (Nat.not_le.2 h)⟩

@[simp] theorem accepted_nil : accepted [] = [] := rfl

theorem accepted_snoc (log : List (Nat × Verdict)) (e : Nat × Verdict) :
    accepted (log ++ [e]) = accepted log ++ if e.2 = .fresh then [e.1] else [] := by
  unfold accepted
  rw [List.filterMap_append]
  split_ifs with hfresh
  · simp [hfresh]
  · simp [hfresh]

/-- What the receiver keeps is what it accepted, and no number twice. -/
def Kept (seen : List Nat) (log : List (Nat × Verdict)) : Prop :=
  seen = accepted log ∧ seen.Nodup

theorem kept_step {log : List (Nat × Verdict)} (h : Kept seen log) :
    Kept ((window size).step seen i).1 (log ++ ((window size).step seen i).2) := by
  rcases h with ⟨rfl, hnodup⟩
  rw [window_step]
  unfold Kept
  rw [accepted_snoc]
  by_cases hfresh : verdict size (accepted log) i = .fresh
  · obtain ⟨-, hnew⟩ := verdict_fresh_iff.1 hfresh
    rw [if_pos hfresh, if_pos hfresh]
    exact ⟨rfl, List.nodup_append'.2
      ⟨hnodup, List.nodup_singleton _, List.disjoint_singleton.2 hnew⟩⟩
  · rw [if_neg hfresh, if_neg hfresh, List.append_nil]
    exact ⟨rfl, hnodup⟩

end MediaGateway.Lib.Window
