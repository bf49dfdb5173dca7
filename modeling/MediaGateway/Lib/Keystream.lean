import MediaGateway.Lib.Text
import Mathlib.Data.List.GetD
import Mathlib.Tactic.SplitIfs

/-!
# Keystreams

A stream cipher that works in blocks turns block numbers into blocks of keystream bytes, and a
text into the exclusive or of its bytes with the keystream.  `octet` is byte `i` of the
keystream and `xorAt` the text xored with it from a position on.

The lemmas cut a text at any place (`xorAt_append`) and read the part of it that lies in one
block off that block (`xorAt_block`), which is what an implementation does that keeps the rest
of a block for the next call.  A text at the beginning of the keystream is xored with the first
blocks in a row (`xorAt_blocks`).
-/

namespace MediaGateway.Lib.Keystream

/-- Byte `i` of the keystream that has the blocks `block` of `w` bytes. -/
def octet (w : Nat) (block : Nat → Bytes) (i : Nat) : UInt8 := (block (i / w)).getD (i % w) 0

/-- The bytes of two strings xored, as many as the shorter one has. -/
def xor (xs ys : Bytes) : Bytes := List.zipWith (· ^^^ ·) xs ys

/-- A text xored with the keystream from position `pos` on. -/
def xorAt (ks : Nat → UInt8) : Nat → Bytes → Bytes
  | _, [] => []
  | pos, b :: bs => (b ^^^ ks pos) :: xorAt ks (pos + 1) bs

variable {ks ks' : Nat → UInt8} {pos w : Nat} {xs ys : Bytes}

@[simp] theorem xorAt_nil (ks : Nat → UInt8) (pos : Nat) : xorAt ks pos [] = [] := rfl

@[simp] theorem length_xorAt (ks : Nat → UInt8) (pos : Nat) (xs : Bytes) :
    (xorAt ks pos xs).length = xs.length := by
  induction xs generalizing pos with
  | nil => rfl
  | cons b bs ih => rw [xorAt, List.length_cons, ih, List.length_cons]

theorem xorAt_append (ks : Nat → UInt8) (pos : Nat) (xs ys : Bytes) :
    xorAt ks pos (xs ++ ys) = xorAt ks pos xs ++ xorAt ks (pos + xs.length) ys := by
  induction xs generalizing pos with
  | nil => rfl
  | cons b bs ih =>
    rw [List.cons_append, xorAt, ih, xorAt, List.cons_append, List.length_cons,
      Nat.add_right_comm, Nat.add_assoc]

/-- The same keystream takes a text back. -/
@[simp] theorem xorAt_xorAt (ks : Nat → UInt8) (pos : Nat) (xs : Bytes) :
    xorAt ks pos (xorAt ks pos xs) = xs := by
  induction xs generalizing pos with
  | nil => rfl
  | cons b bs ih =>
    rw [xorAt, xorAt, ih, UInt8.xor_assoc, UInt8.xor_self, UInt8.xor_zero]

theorem xorAt_eq_xor (hlen : xs.length ≤ ys.length)
    (h : ∀ i < xs.length, ks (pos + i) = ys.getD i 0) : xorAt ks pos xs = xor xs ys := by
  induction xs generalizing pos ys with
  | nil => rfl
  | cons b bs ih =>
    cases ys with
    | nil => cases hlen
    | cons c cs =>
      have hhead : ks pos = c := h 0 (Nat.zero_lt_succ _)
      have hrest : xorAt ks (pos + 1) bs = xor bs cs :=
        ih (Nat.le_of_succ_le_succ hlen) fun i hi => by
          have hi' := h (i + 1) (Nat.succ_lt_succ hi)
          rwa [List.getD_cons_succ, Nat.add_comm i, ← Nat.add_assoc] at hi'
      rw [xorAt, hhead, hrest]
      rfl

/-- A text that lies in one block. -/
theorem xorAt_block {block : Nat → Bytes} (hw : (block (pos / w)).length = w)
    (hfit : pos % w + xs.length ≤ w) :
    xorAt (octet w block) pos xs = xor xs ((block (pos / w)).drop (pos % w)) := by
  refine xorAt_eq_xor (by rw [List.length_drop, hw]; omega) fun i hi => ?_
  have hsum : pos + i = pos % w + i + w * (pos / w) := by
    rw [Nat.add_right_comm, Nat.mod_add_div]
  have hlt : pos % w + i < w := by omega
  have hpos : 0 < w := Nat.zero_lt_of_lt hlt
  rw [octet, hsum, Nat.add_mul_div_left _ _ hpos, Nat.add_mul_mod_self_left,
    Nat.div_eq_of_lt hlt, Nat.mod_eq_of_lt hlt, Nat.zero_add, List.getD_eq_getElem?_getD,
    List.getD_eq_getElem?_getD, List.getElem?_drop]

/-- The first blocks in a row. -/
theorem length_blocks {block : Nat → Bytes} (hw : ∀ i, (block i).length = w) (n : Nat) :
    ((List.range n).flatMap block).length = n * w := by
  induction n with
  | zero => rw [List.range_zero, List.flatMap_nil, List.length_nil, Nat.zero_mul]
  | succ n ih =>
    rw [List.range_succ, List.flatMap_append, List.flatMap_singleton, List.length_append, ih, hw,
      Nat.succ_mul]

theorem getD_blocks {block : Nat → Bytes} (hw : ∀ i, (block i).length = w) {n i : Nat}
    (hi : i < n * w) : ((List.range n).flatMap block).getD i 0 = octet w block i := by
  induction n with
  | zero => exact absurd hi (by rw [Nat.zero_mul]; exact Nat.not_lt_zero i)
  | succ n ih =>
    have hlen := length_blocks hw n
    rw [List.range_succ, List.flatMap_append, List.flatMap_singleton]
    by_cases hlt : i < n * w
    · rw [List.getD_append _ _ _ _ (by rwa [hlen]), ih hlt]
    · -- the byte is in the last block
      obtain ⟨j, rfl⟩ := Nat.exists_eq_add_of_le (Nat.le_of_not_lt hlt)
      have hj : j < w := by
        rw [Nat.succ_mul] at hi
        omega
      have hpos : 0 < w := Nat.zero_lt_of_lt hj
      rw [List.getD_append_right _ _ _ _ (by omega), hlen, Nat.add_sub_cancel_left, octet,
        Nat.add_comm (n * w), Nat.add_mul_div_right _ _ hpos, Nat.add_mul_mod_self_right,
        Nat.div_eq_of_lt hj, Nat.mod_eq_of_lt hj, Nat.zero_add]

/-- A text at the beginning of the keystream. -/
theorem xorAt_blocks {block : Nat → Bytes} (hw : ∀ i, (block i).length = w) {n : Nat}
    (h : xs.length ≤ n * w) :
    xorAt (octet w block) 0 xs = xor xs ((List.range n).flatMap block) := by
  refine xorAt_eq_xor (by rwa [length_blocks hw]) fun i hi => ?_
  rw [Nat.zero_add, getD_blocks hw (Nat.lt_of_lt_of_le hi h)]

end MediaGateway.Lib.Keystream
