import Mathlib.Data.Nat.Find
import Mathlib.Logic.Function.Iterate

/-!
# Searching a cycle

A search goes from value to value by a function until it comes to one with a property.
`FirstAfter` says which value that is.  Where the function runs through a cycle, the search
comes to every value of it.
-/

namespace MediaGateway.Lib

variable {α : Type} {f : α → α} {p : α → Prop} {a b : α}

/-- The first value behind `a` that has the property. -/
def FirstAfter (f : α → α) (p : α → Prop) (a b : α) : Prop :=
  ∃ k, f^[k + 1] a = b ∧ p b ∧ ∀ j, j < k → ¬ p (f^[j + 1] a)

theorem exists_firstAfter (h : ∃ k, p (f^[k + 1] a)) : ∃ b, FirstAfter f p a b := by
  classical
  exact ⟨_, Nat.find h, rfl, Nat.find_spec h, fun j hj => Nat.find_min h hj⟩

/-- The search finds its value at once or goes on behind the next one. -/
theorem firstAfter_induction {P : α → Prop} (h : FirstAfter f p a b)
    (hhere : ∀ a, f a = b → p b → P a)
    (hthere : ∀ a, ¬ p (f a) → FirstAfter f p (f a) b → P (f a) → P a) : P a := by
  obtain ⟨k, hk, hp, hmin⟩ := h
  induction k generalizing a with
  | zero => exact hhere a hk hp
  | succ k ih =>
    have hrest : ∀ j, j < k → ¬ p (f^[j + 1] (f a)) := fun j hj => hmin (j + 1) (by omega)
    exact hthere a (hmin 0 (Nat.succ_pos k)) ⟨k, hk, hp, hrest⟩ (ih hk hrest)

namespace Cyclic

variable {m n v : Nat}

/-- The next number of the cycle of `1` to `m - 1`. -/
def next (m n : Nat) : Nat := if n + 1 = m then 1 else n + 1

theorem next_pos (m n : Nat) : 0 < next m n := by
  unfold next
  split <;> omega

theorem next_lt (hm : 1 < m) (hn : n < m) : next m n < m := by
  unfold next
  split <;> omega

theorem iterate_next_lt (hm : 1 < m) (hn : n < m) (k : Nat) : (next m)^[k] n < m := by
  induction k with
  | zero => exact hn
  | succ k ih =>
    rw [Function.iterate_succ_apply']
    exact next_lt hm ih

theorem iterate_next {k : Nat} (h : n + k < m) : (next m)^[k] n = n + k := by
  induction k with
  | zero => rfl
  | succ k ih =>
    have hne : n + k + 1 ≠ m := by omega
    rw [Function.iterate_succ_apply', ih (by omega), next, if_neg hne]
    rfl

/-- Every number of the cycle is behind every other one. -/
theorem exists_iterate_next (hn : n < m) (hv : 0 < v) (hvm : v < m) :
    ∃ k, (next m)^[k + 1] n = v := by
  by_cases hlt : n < v
  · obtain ⟨k, rfl⟩ : ∃ k, v = n + (k + 1) := ⟨v - n - 1, by omega⟩
    exact ⟨k, iterate_next hvm⟩
  · -- to the end of the cycle and from its beginning
    have hend : (next m)^[m - 1 - n] n = m - 1 := by
      rw [iterate_next (by omega)]
      omega
    have hone : next m (m - 1) = 1 := if_pos (by omega)
    have hbegin : (next m)^[v - 1] 1 = v := by
      rw [iterate_next (by omega)]
      omega
    refine ⟨v - 1 + (m - 1 - n), ?_⟩
    rw [show v - 1 + (m - 1 - n) + 1 = (v - 1 + 1) + (m - 1 - n) by omega,
      Function.iterate_add_apply, hend, Function.iterate_succ_apply, hone, hbegin]

end Cyclic

end MediaGateway.Lib
