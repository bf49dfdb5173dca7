import Mathlib.Data.List.GetD
import Mathlib.Tactic.SplitIfs

/-!
# Bits packed into words

A row of words of `w` bits read as one row of bits: bit `i` is bit `i % w` of word `i / w`.
The operations work on whole words, and the lemmas say what they do to single bits.
`shift` moves every bit down by a distance that need not be a multiple of the word size, so
each new word is put together from two old ones.
-/

namespace MediaGateway.Lib.Words

variable {w : Nat}

/-- Bit `i` of a row of words.  Behind the end there are no set bits. -/
def getBit (ws : List (BitVec w)) (i : Nat) : Bool := (ws.getD (i / w) 0).getLsbD (i % w)

/-- Sets bit `i`. -/
def setBit (ws : List (BitVec w)) (i : Nat) : List (BitVec w) :=
  ws.set (i / w) (ws.getD (i / w) 0 ||| BitVec.twoPow w (i % w))

/-- Moves every bit down by `n`. -/
def shift (ws : List (BitVec w)) (n : Nat) : List (BitVec w) :=
  if w * ws.length ≤ n then
    List.replicate ws.length 0
  else if n % w = 0 then
    (List.range (ws.length - n / w)).map (fun i => ws.getD (i + n / w) 0) ++
      List.replicate (n / w) 0
  else
    (List.range (ws.length - n / w - 1)).map (fun i =>
        (ws.getD (i + n / w) 0 >>> (n % w)) ^^^ (ws.getD (i + n / w + 1) 0 <<< (w - n % w))) ++
      [ws.getD (ws.length - 1) 0 >>> (n % w)] ++ List.replicate (n / w) 0

variable {ws : List (BitVec w)}

/-! ## Words by position -/

theorem getD_zeros (n j : Nat) : (List.replicate n (0 : BitVec w)).getD j 0 = 0 := by
  rw [List.getD_eq_getElem?_getD, List.getElem?_replicate]
  split <;> rfl

theorem getD_map_range (f : Nat → BitVec w) (n j : Nat) :
    ((List.range n).map f).getD j 0 = if j < n then f j else 0 := by
  split_ifs with hj
  · rw [List.getD_eq_getElem?_getD, List.getElem?_map, List.getElem?_range hj]
    rfl
  · exact List.getD_eq_default _ _ (by simpa using hj)

@[simp] theorem length_setBit (ws : List (BitVec w)) (i : Nat) :
    (setBit ws i).length = ws.length :=
  List.length_set ..

@[simp] theorem length_shift (ws : List (BitVec w)) (n : Nat) :
    (shift ws n).length = ws.length := by
  unfold shift
  split_ifs with hall hmul
  · exact List.length_replicate ..
  · have hn : n / w < ws.length := Nat.div_lt_of_lt_mul (Nat.lt_of_not_le hall)
    simp only [List.length_append, List.length_map, List.length_range, List.length_replicate]
    omega
  · have hn : n / w < ws.length := Nat.div_lt_of_lt_mul (Nat.lt_of_not_le hall)
    simp only [List.length_append, List.length_map, List.length_range, List.length_replicate,
      List.length_singleton]
    omega

theorem getBit_of_le {i : Nat} (hw : 0 < w) (h : w * ws.length ≤ i) : getBit ws i = false := by
  have hi : ws.length ≤ i / w := (Nat.le_div_iff_mul_le hw).2 (by rwa [Nat.mul_comm])
  rw [getBit, List.getD_eq_default _ _ hi]
  exact BitVec.getLsbD_zero

theorem getBit_zeros (n i : Nat) : getBit (List.replicate n (0 : BitVec w)) i = false := by
  rw [getBit, getD_zeros]
  exact BitVec.getLsbD_zero

/-- The bit that is set, and every other one. -/
theorem getBit_setBit {i : Nat} (hi : i < w * ws.length) (j : Nat) :
    getBit (setBit ws i) j = (decide (j = i) || getBit ws j) := by
  have hw : 0 < w := Nat.pos_of_mul_pos_right (Nat.zero_lt_of_lt hi)
  have hlt : i / w < ws.length := Nat.div_lt_of_lt_mul hi
  by_cases hword : j / w = i / w
  · have hiff : i % w = j % w ↔ j = i := by
      constructor
      · intro hmod
        rw [← Nat.div_add_mod j w, ← Nat.div_add_mod i w, hword, hmod]
      · intro heq
        rw [heq]
    rw [getBit, setBit, hword, List.getD_eq_getElem?_getD, List.getElem?_set_self hlt,
      Option.getD_some, BitVec.getLsbD_or, BitVec.getLsbD_twoPow, getBit, hword, Bool.or_comm,
      decide_eq_decide.2 hiff, decide_eq_true (Nat.mod_lt i hw), Bool.true_and]
  · have hne : j ≠ i := fun heq => hword (by rw [heq])
    rw [getBit, setBit, List.getD_eq_getElem?_getD, List.getElem?_set_ne (Ne.symm hword),
      ← List.getD_eq_getElem?_getD, decide_eq_false hne, Bool.false_or, getBit]

/-- Each word of the shifted row is put together from two words. -/
theorem getD_shift (hw : 0 < w) (ws : List (BitVec w)) (n j : Nat) :
    (shift ws n).getD j 0 =
      (ws.getD (j + n / w) 0 >>> (n % w)) ^^^ (ws.getD (j + n / w + 1) 0 <<< (w - n % w)) := by
  have hbehind : ∀ k, ws.length ≤ k → ws.getD k 0 = 0 := fun k hk => List.getD_eq_default _ _ hk
  unfold shift
  split_ifs with hall hmul
  · have hn : ws.length ≤ n / w := (Nat.le_div_iff_mul_le hw).2 (by rwa [Nat.mul_comm])
    rw [getD_zeros, hbehind _ (by omega), hbehind _ (by omega)]
    simp
  · have hhigh : ws.getD (j + n / w + 1) 0 <<< (w - n % w) = 0 := by
      rw [hmul]
      exact BitVec.shiftLeft_eq_zero (Nat.le_refl w)
    rw [hhigh, hmul, BitVec.ushiftRight_zero]
    by_cases hj : j < ws.length - n / w
    · rw [List.getD_append _ _ _ _ (by simpa using hj), getD_map_range, if_pos hj]
      simp
    · rw [List.getD_append_right _ _ _ _ (by simpa using hj), getD_zeros, hbehind _ (by omega)]
      simp
  · have hn : n / w < ws.length := Nat.div_lt_of_lt_mul (Nat.lt_of_not_le hall)
    generalize n / w = b at hn ⊢
    by_cases hj : j < ws.length - b - 1
    · rw [List.append_assoc, List.getD_append _ _ _ _ (by simpa using hj), getD_map_range,
        if_pos hj]
    · -- the last word that is left has no word above it
      rw [hbehind (j + b + 1) (by omega)]
      by_cases hlast : j = ws.length - b - 1
      · have hword : j + b = ws.length - 1 := by omega
        rw [List.getD_append _ _ _ _ (by simp; omega),
          List.getD_append_right _ _ _ _ (by simpa using hj), hword]
        simp [hlast]
      · rw [hbehind (j + b) (by omega), List.getD_append_right _ _ _ _ (by simp; omega),
          getD_zeros]
        simp

/-- Bit `i` after the shift is bit `i + n` before it. -/
theorem getBit_shift (hw : 0 < w) (ws : List (BitVec w)) (n i : Nat) :
    getBit (shift ws n) i = getBit ws (i + n) := by
  have hi := Nat.mod_lt i hw
  have hn := Nat.mod_lt n hw
  have hsum : i + n = i % w + n % w + w * (i / w + n / w) := by
    rw [Nat.mul_add, Nat.add_add_add_comm, Nat.mod_add_div, Nat.mod_add_div]
  rw [getBit, getD_shift hw, getBit, hsum, Nat.add_mul_div_left _ _ hw, Nat.add_mul_mod_self_left,
    BitVec.getLsbD_xor, BitVec.getLsbD_ushiftRight, BitVec.getLsbD_shiftLeft]
  by_cases hcarry : i % w + n % w < w
  · rw [Nat.div_eq_of_lt hcarry, Nat.mod_eq_of_lt hcarry, Nat.zero_add,
      decide_eq_true (show i % w < w - n % w by omega), Nat.add_comm (n % w)]
    simp
  · have hdiv : (i % w + n % w) / w = 1 := Nat.div_eq_of_lt_le (by omega) (by omega)
    have hmod : (i % w + n % w) % w = i % w - (w - n % w) := by
      rw [Nat.mod_eq_sub_mod (by omega), Nat.mod_eq_of_lt (by omega)]
      omega
    rw [hdiv, hmod, BitVec.getLsbD_of_ge _ _ (by omega), decide_eq_true hi,
      decide_eq_false (show ¬ i % w < w - n % w by omega), Nat.add_comm 1]
    simp

end MediaGateway.Lib.Words
