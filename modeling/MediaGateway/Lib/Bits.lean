import Mathlib.Algebra.Group.Nat.Defs
import Mathlib.Data.List.Induction

/-!
# Bit strings

A number of `w` bits as a list, the highest bit first (`ofNat`), and back (`toNat`).  A
bit string is determined by its length and its number (`toNat_inj`), so two ways to
cut up the same bits are compared by arithmetic.

`leading w k` are the numbers of the first `k` groups of `w` bits.  What is left of the
string does not matter (`leading_append`), and groups that were written with `w` bits
each are read back (`leading_flatMap`).
-/

namespace MediaGateway.Lib.Bits

/-- The `w` low bits of a number. -/
def ofNat : Nat → Nat → List Bool
  | 0, _ => []
  | w + 1, n => ofNat w (n / 2) ++ [decide (n % 2 = 1)]

/-- The number that a bit string stands for. -/
def toNat (bs : List Bool) : Nat := bs.foldl (fun n b => 2 * n + b.toNat) 0

@[simp] theorem length_ofNat (w n : Nat) : (ofNat w n).length = w := by
  induction w generalizing n with
  | zero => rfl
  | succ w ih => rw [ofNat, List.length_append, ih, List.length_singleton]

@[simp] theorem toNat_nil : toNat [] = 0 := rfl

theorem toNat_snoc (bs : List Bool) (b : Bool) : toNat (bs ++ [b]) = 2 * toNat bs + b.toNat := by
  rw [toNat, List.foldl_append]
  rfl

theorem toNat_append (xs ys : List Bool) :
    toNat (xs ++ ys) = toNat xs * 2 ^ ys.length + toNat ys := by
  induction ys using List.reverseRecOn with
  | nil => simp
  | append_singleton ys y ih =>
    rw [← List.append_assoc, toNat_snoc, toNat_snoc, ih, List.length_append, List.length_singleton,
      Nat.pow_succ, Nat.mul_add, Nat.mul_comm 2, Nat.mul_assoc, Nat.add_assoc]

theorem toNat_ofNat {w n : Nat} (h : n < 2 ^ w) : toNat (ofNat w n) = n := by
  induction w generalizing n with
  | zero =>
    rw [Nat.lt_one_iff.1 h]
    rfl
  | succ w ih =>
    have hbit : (decide (n % 2 = 1)).toNat = n % 2 := by
      rcases Nat.mod_two_eq_zero_or_one n with h0 | h1
      · rw [h0]
        rfl
      · rw [h1]
        rfl
    rw [Nat.pow_succ] at h
    rw [ofNat, toNat_snoc, ih (by omega), hbit, Nat.div_add_mod]

theorem toNat_lt (bs : List Bool) : toNat bs < 2 ^ bs.length := by
  induction bs using List.reverseRecOn with
  | nil => exact Nat.one_pos
  | append_singleton bs b ih =>
    have hb : b.toNat < 2 := b.toNat_lt
    rw [toNat_snoc, List.length_append, List.length_singleton, Nat.pow_succ]
    omega

/-- Bit strings of one length with the same number are equal. -/
theorem toNat_inj {xs ys : List Bool} (hlen : xs.length = ys.length) (h : toNat xs = toNat ys) :
    xs = ys := by
  induction xs using List.reverseRecOn generalizing ys with
  | nil => exact (List.length_eq_zero_iff.1 hlen.symm).symm
  | append_singleton xs x ih =>
    cases ys using List.reverseRecOn with
    | nil =>
      rw [List.length_append] at hlen
      cases hlen
    | append_singleton ys y =>
      have hx := x.toNat_lt
      have hy := y.toNat_lt
      rw [List.length_append, List.length_append] at hlen
      rw [toNat_snoc, toNat_snoc] at h
      have hbit : x.toNat = y.toNat := by omega
      have heq : x = y := by
        cases x <;> cases y
        · rfl
        · cases hbit
        · cases hbit
        · rfl
      rw [ih (Nat.add_right_cancel hlen) (by omega), heq]

/-- The numbers of the first `k` groups of `w` bits. -/
def leading (w : Nat) : Nat → List Bool → List Nat
  | 0, _ => []
  | k + 1, bs => toNat (bs.take w) :: leading w k (bs.drop w)

@[simp] theorem length_leading (w k : Nat) (bs : List Bool) : (leading w k bs).length = k := by
  induction k generalizing bs with
  | zero => rfl
  | succ k ih => rw [leading, List.length_cons, ih]

/-- Numbers that were written with `w` bits each are read back, whatever follows. -/
theorem leading_flatMap {w : Nat} {ns : List Nat} (h : ∀ n ∈ ns, n < 2 ^ w) (rest : List Bool) :
    leading w ns.length (ns.flatMap (ofNat w) ++ rest) = ns := by
  induction ns with
  | nil => rfl
  | cons n ns ih =>
    obtain ⟨hn, hns⟩ := List.forall_mem_cons.1 h
    have htake : (ofNat w n ++ (ns.flatMap (ofNat w) ++ rest)).take w = ofNat w n :=
      List.take_left' (length_ofNat w n)
    have hdrop : (ofNat w n ++ (ns.flatMap (ofNat w) ++ rest)).drop w =
        ns.flatMap (ofNat w) ++ rest := List.drop_left' (length_ofNat w n)
    rw [List.flatMap_cons, List.append_assoc, List.length_cons, leading, htake, hdrop, ih hns,
      toNat_ofNat hn]

/-- The groups of two strings one after the other. -/
theorem leading_append {w j : Nat} {xs : List Bool} (hxs : xs.length = w * j) (k : Nat)
    (ys : List Bool) : leading w (j + k) (xs ++ ys) = leading w j xs ++ leading w k ys := by
  induction j generalizing xs with
  | zero =>
    rw [List.length_eq_zero_iff.1 hxs, Nat.zero_add]
    rfl
  | succ j ih =>
    have hle : w ≤ xs.length := by
      rw [hxs, Nat.mul_succ]
      exact Nat.le_add_left ..
    have hdrop : (xs.drop w).length = w * j := by
      rw [List.length_drop, hxs, Nat.mul_succ, Nat.add_sub_cancel]
    rw [Nat.succ_add, leading, leading, List.take_append_of_le_length hle,
      List.drop_append_of_le_length hle, ih hdrop, List.cons_append]

/-- What holds of all numbers below 256 holds of all bytes. -/
theorem forall_byte {P : UInt8 → Prop} (h : ∀ n < 256, P (UInt8.ofNat n)) (c : UInt8) : P c := by
  have hc := h c.toNat c.toNat_lt
  rwa [UInt8.ofNat_toNat] at hc

end MediaGateway.Lib.Bits
