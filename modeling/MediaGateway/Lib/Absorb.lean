import Mathlib.Data.List.TakeDrop

/-!
# Absorbing a message block by block

A function that takes blocks of `w` items is applied to the whole blocks of a message, one after
the other, and the items behind the last whole block are left over.

An implementation is fed the message in pieces.  It keeps what is left over and fills it up with
the next piece.  `Holds` says that it has absorbed a message, and `Holds.more` and `Holds.full`
are the two things it can do with the next items.
-/

namespace MediaGateway.Lib.Absorb

variable {σ α : Type}

/-- The state after the first `n` blocks. -/
def blocks (f : σ → List α → σ) (w : Nat) : Nat → σ → List α → σ
  | 0, s, _ => s
  | n + 1, s, xs => blocks f w n (f s (xs.take w)) (xs.drop w)

/-- The state after the whole blocks of a message. -/
def absorb (f : σ → List α → σ) (w : Nat) (s : σ) (xs : List α) : σ :=
  blocks f w (xs.length / w) s xs

/-- What is left over behind them. -/
def rest (w : Nat) (xs : List α) : List α := xs.drop (w * (xs.length / w))

variable {f : σ → List α → σ} {w : Nat} {s : σ} {xs ys block : List α}

theorem length_rest (w : Nat) (xs : List α) : (rest w xs).length = xs.length % w := by
  rw [rest, List.length_drop, Nat.mod_eq_sub_mul_div]

theorem absorb_short (h : xs.length < w) : absorb f w s xs = s := by
  rw [absorb, Nat.div_eq_of_lt h, blocks]

theorem rest_short (h : xs.length < w) : rest w xs = xs := by
  rw [rest, Nat.div_eq_of_lt h, Nat.mul_zero, List.drop_zero]

theorem absorb_block (hw : 0 < w) (h : block.length = w) :
    absorb f w s (block ++ xs) = absorb f w (f s block) xs := by
  have hlen : (block ++ xs).length / w = xs.length / w + 1 := by
    rw [List.length_append, h, Nat.add_comm, Nat.add_div_right _ hw]
  rw [absorb, hlen, blocks, List.take_left' h, List.drop_left' h, absorb]

theorem rest_block (hw : 0 < w) (h : block.length = w) : rest w (block ++ xs) = rest w xs := by
  rw [rest, List.length_append, h, Nat.add_comm, Nat.add_div_right _ hw, Nat.mul_succ,
    Nat.add_comm, ← List.drop_drop, List.drop_left' h, rest]

/-- One block alone. -/
theorem absorb_one (hw : 0 < w) (h : block.length = w) (s : σ) :
    absorb f w s block = f s block := by
  have hnil : ([] : List α).length < w := hw
  rw [← List.append_nil block, absorb_block hw h, absorb_short hnil, List.append_nil]

theorem rest_one (hw : 0 < w) (h : block.length = w) : rest w block = [] := by
  have hnil : ([] : List α).length < w := hw
  rw [← List.append_nil block, rest_block hw h, rest_short hnil]

/-- A message in two pieces: the second one is put behind what the first one leaves over. -/
theorem absorb_append (hw : 0 < w) (s : σ) (xs ys : List α) :
    absorb f w s (xs ++ ys) = absorb f w (absorb f w s xs) (rest w xs ++ ys) ∧
      rest w (xs ++ ys) = rest w (rest w xs ++ ys) := by
  induction hn : xs.length using Nat.strongRecOn generalizing s xs with
  | ind n ih =>
    by_cases hshort : xs.length < w
    · rw [absorb_short hshort, rest_short hshort]
      exact ⟨rfl, rfl⟩
    · have hblock : (xs.take w).length = w := by
        rw [List.length_take]
        omega
      obtain ⟨habsorb, hrest⟩ := ih (xs.drop w).length (by rw [List.length_drop]; omega)
        (f s (xs.take w)) (xs.drop w) rfl
      rw [← List.take_append_drop w xs, List.append_assoc, absorb_block hw hblock,
        absorb_block hw hblock, rest_block hw hblock, rest_block hw hblock]
      exact ⟨habsorb, hrest⟩

/-- A state and a buffer that have absorbed `xs` from `start` on. -/
def Holds (f : σ → List α → σ) (w : Nat) (start : σ) (xs : List α) (s : σ) (buf : List α) : Prop :=
  s = absorb f w start xs ∧ buf = rest w xs

variable {start : σ} {buf : List α}

theorem holds_nil (f : σ → List α → σ) (w : Nat) (start : σ) : Holds f w start [] start [] := by
  unfold Holds absorb rest
  rw [List.length_nil, Nat.zero_div]
  exact ⟨rfl, rfl⟩

/-- The buffer has room for the next items. -/
theorem Holds.more (hw : 0 < w) (h : Holds f w start xs s buf)
    (hroom : (buf ++ ys).length < w) : Holds f w start (xs ++ ys) s (buf ++ ys) := by
  rcases h with ⟨rfl, rfl⟩
  obtain ⟨habsorb, hrest⟩ := absorb_append (f := f) hw start xs ys
  refine ⟨?_, ?_⟩
  · rw [habsorb, absorb_short hroom]
  · rw [hrest, rest_short hroom]

/-- The next items fill the buffer. -/
theorem Holds.full (hw : 0 < w) (h : Holds f w start xs s buf)
    (hfull : (buf ++ ys).length = w) : Holds f w start (xs ++ ys) (f s (buf ++ ys)) [] := by
  rcases h with ⟨rfl, rfl⟩
  obtain ⟨habsorb, hrest⟩ := absorb_append (f := f) hw start xs ys
  refine ⟨?_, ?_⟩
  · rw [habsorb, absorb_one hw hfull]
  · rw [hrest, rest_one hw hfull]

/-- The end of a message that fills whole blocks. -/
theorem Holds.absorb_end (hw : 0 < w) (h : Holds f w start xs s buf) (ys : List α) :
    absorb f w start (xs ++ ys) = absorb f w s (buf ++ ys) := by
  rcases h with ⟨rfl, rfl⟩
  exact (absorb_append hw start xs ys).1

end MediaGateway.Lib.Absorb
