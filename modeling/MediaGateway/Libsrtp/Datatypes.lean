import MediaGateway.Lib.Keystream
import MediaGateway.Lib.Words

/-!
# The data types of libsrtp

What `datatypes.h` and `datatypes.c` provide for the replay databases: the bits
of a `bitvector_t` of any length and of a `v128_t`, and the shifts that move a
window forward.  The shifts of the two types are one algorithm over 32-bit
words.

The comment in `datatypes.h` calls the order of the bits odd: bit 0 is the
low-order bit of the first word, and a left shift moves bits down.
-/

namespace MediaGateway.Libsrtp

open Lib

/-! ## `bitvector_t` -/

/-- `bitvector_t`.  `bitvector_alloc` rounds the length up to whole words, so it
is 32 times the number of words. -/
structure Bitvector where
  word : List (BitVec 32)
  deriving DecidableEq, Repr

namespace Bitvector

/-- `bitvector_get_length`. -/
def length (v : Bitvector) : Nat := 32 * v.word.length

/-- `bitvector_alloc` of memory that is available. -/
def alloc (length : Nat) : Bitvector := ⟨List.replicate ((length + 31) / 32) 0⟩

/-- `bitvector_get_bit`. -/
def getBit (v : Bitvector) (i : Nat) : Bool := Words.getBit v.word i

/-- `bitvector_set_bit`. -/
def setBit (v : Bitvector) (i : Nat) : Bitvector := ⟨Words.setBit v.word i⟩

/-- `bitvector_left_shift`. -/
def leftShift (v : Bitvector) (shift : Nat) : Bitvector := ⟨Words.shift v.word shift⟩

variable {v : Bitvector}

theorem length_alloc (n : Nat) : (alloc n).length = 32 * ((n + 31) / 32) := by
  rw [alloc, length, List.length_replicate]

@[simp] theorem length_setBit (v : Bitvector) (i : Nat) : (v.setBit i).length = v.length := by
  simp [length, setBit]

@[simp] theorem length_leftShift (v : Bitvector) (n : Nat) :
    (v.leftShift n).length = v.length := by
  simp [length, leftShift]

@[simp] theorem getBit_alloc (n i : Nat) : (alloc n).getBit i = false :=
  Words.getBit_zeros _ i

theorem getBit_of_le {i : Nat} (h : v.length ≤ i) : v.getBit i = false :=
  Words.getBit_of_le (by decide) h

theorem getBit_setBit {i : Nat} (hi : i < v.length) (j : Nat) :
    (v.setBit i).getBit j = (decide (j = i) || v.getBit j) :=
  Words.getBit_setBit hi j

theorem getBit_leftShift (v : Bitvector) (n i : Nat) :
    (v.leftShift n).getBit i = v.getBit (i + n) :=
  Words.getBit_shift (by decide) v.word n i

end Bitvector

/-! ## `v128_t` -/

/-- `v128_t`, as the words that its bit operations work on. -/
structure V128 where
  v32 : List (BitVec 32)
  four : v32.length = 4
  deriving DecidableEq, Repr

namespace V128

/-- `v128_set_to_zero`. -/
def zero : V128 := ⟨List.replicate 4 0, rfl⟩

/-- `v128_get_bit`. -/
def getBit (x : V128) (i : Nat) : Bool := Words.getBit x.v32 i

/-- `v128_set_bit`. -/
def setBit (x : V128) (i : Nat) : V128 :=
  ⟨Words.setBit x.v32 i, (Words.length_setBit ..).trans x.four⟩

/-- `v128_left_shift`, whose test `shift > 127` asks whether all words are shifted out. -/
def leftShift (x : V128) (shift : Nat) : V128 :=
  ⟨Words.shift x.v32 shift, (Words.length_shift ..).trans x.four⟩

@[simp] theorem getBit_zero (i : Nat) : zero.getBit i = false := Words.getBit_zeros 4 i

theorem getBit_of_le {x : V128} {i : Nat} (h : 128 ≤ i) : x.getBit i = false :=
  Words.getBit_of_le (by decide) (by rwa [x.four])

theorem getBit_setBit {x : V128} {i : Nat} (hi : i < 128) (j : Nat) :
    (x.setBit i).getBit j = (decide (j = i) || x.getBit j) :=
  Words.getBit_setBit (by rwa [x.four]) j

theorem getBit_leftShift (x : V128) (n i : Nat) :
    (x.leftShift n).getBit i = x.getBit (i + n) :=
  Words.getBit_shift (by decide) x.v32 n i

end V128

/-! ## `v128_t` in octets -/

/-- `v128_t`, as the octets that the ciphers work on. -/
structure Block where
  v8 : Bytes
  sixteen : v8.length = 16
  deriving DecidableEq, Repr

namespace Block

/-- `v128_copy_octet_string`.  Behind the end of the string it copies zeros here. -/
def ofOctets (s : Bytes) : Block := ⟨(s ++ List.replicate 16 0).take 16, by simp⟩

/-- `v128_xor`. -/
def xor (x y : Block) : Block :=
  ⟨Keystream.xor x.v8 y.v8, by simp [Keystream.xor, x.sixteen, y.sixteen]⟩

/-- `v8[i]`. -/
def octet (x : Block) (i : Nat) : UInt8 := x.v8.getD i 0

/-- The assignment to `v8[i]`. -/
def set (x : Block) (i : Nat) (b : UInt8) : Block :=
  ⟨x.v8.set i b, by rw [List.length_set, x.sixteen]⟩

/-- The number in the last two octets, `htons(v16[7])`. -/
def ctr (x : Block) : Nat := 256 * (x.octet 14).toNat + (x.octet 15).toNat

/-- The block with another number in the last two octets. -/
def withCtr (x : Block) (n : Nat) : Block :=
  ⟨x.v8.take 14 ++ [UInt8.ofNat (n / 256), UInt8.ofNat n], by simp [x.sixteen]⟩

variable {x y : Block} {m n : Nat}

@[ext] theorem ext (h : x.v8 = y.v8) : x = y := by
  cases x
  cases y
  cases h
  rfl

theorem octet_xor (x y : Block) (i : Nat) : (x.xor y).octet i = x.octet i ^^^ y.octet i := by
  have hx := x.sixteen
  have hy := y.sixteen
  unfold octet xor Keystream.xor
  by_cases hi : i < 16
  · simp [List.getD_eq_getElem?_getD, hx, hy, hi]
  · rw [List.getD_eq_default _ _ (by simp [hx, hy]; omega), List.getD_eq_default _ _ (by omega),
      List.getD_eq_default _ _ (by omega), UInt8.xor_self]

theorem octet_set {i : Nat} (hi : i < 16) (x : Block) (b : UInt8) (j : Nat) :
    (x.set i b).octet j = if i = j then b else x.octet j := by
  have hlen : i < x.v8.length := by rw [x.sixteen]; exact hi
  show (x.v8.set i b).getD j 0 = _
  rw [List.getD_eq_getElem?_getD, List.getElem?_set, if_pos hlen]
  split_ifs with h
  · rfl
  · exact (List.getD_eq_getElem?_getD ..).symm

theorem ctr_eq_zero (x : Block) : x.ctr = 0 ↔ x.octet 14 = 0 ∧ x.octet 15 = 0 := by
  rw [← UInt8.toNat_inj, ← UInt8.toNat_inj, ctr]
  show _ ↔ (x.octet 14).toNat = 0 ∧ (x.octet 15).toNat = 0
  omega

theorem v8_withCtr (x : Block) (n : Nat) :
    (x.withCtr n).v8 = x.v8.take 14 ++ [UInt8.ofNat (n / 256), UInt8.ofNat n] :=
  rfl

theorem octet_withCtr_14 (x : Block) (n : Nat) :
    (x.withCtr n).octet 14 = UInt8.ofNat (n / 256) := by
  rw [octet, withCtr, List.getD_append_right _ _ _ _ (by simp [x.sixteen])]
  simp [x.sixteen]

theorem octet_withCtr_15 (x : Block) (n : Nat) : (x.withCtr n).octet 15 = UInt8.ofNat n := by
  rw [octet, withCtr, List.getD_append_right _ _ _ _ (by simp [x.sixteen])]
  simp [x.sixteen]

theorem ctr_lt (x : Block) : x.ctr < 2 ^ 16 := by
  have hhigh := (x.octet 14).toNat_lt
  have hlow := (x.octet 15).toNat_lt
  unfold ctr
  omega

theorem ctr_withCtr (h : n < 2 ^ 16) : (x.withCtr n).ctr = n := by
  rw [ctr, octet_withCtr_14, octet_withCtr_15, UInt8.toNat_ofNat', UInt8.toNat_ofNat']
  omega

@[simp] theorem take_withCtr (x : Block) (n : Nat) : (x.withCtr n).v8.take 14 = x.v8.take 14 := by
  rw [withCtr, List.take_append_of_le_length (by simp [x.sixteen]), List.take_take, Nat.min_self]

@[simp] theorem withCtr_withCtr (x : Block) (m n : Nat) :
    (x.withCtr m).withCtr n = x.withCtr n := by
  ext1
  rw [v8_withCtr, take_withCtr, v8_withCtr]

theorem drop_eq (x : Block) : x.v8.drop 14 = [x.octet 14, x.octet 15] := by
  have h14 : 14 < x.v8.length := by rw [x.sixteen]; decide
  have h15 : 15 < x.v8.length := by rw [x.sixteen]; decide
  have h16 : x.v8.length ≤ 16 := Nat.le_of_eq x.sixteen
  rw [List.drop_eq_getElem_cons h14, List.drop_eq_getElem_cons h15, List.drop_eq_nil_of_le h16,
    octet, octet, List.getD_eq_getElem _ _ h14, List.getD_eq_getElem _ _ h15]

/-- The number and the other octets make up the block. -/
theorem withCtr_ctr (x : Block) : x.withCtr x.ctr = x := by
  have hhigh : UInt8.ofNat (x.ctr / 256) = x.octet 14 := by
    have hlow := (x.octet 15).toNat_lt
    rw [ctr, show (256 * (x.octet 14).toNat + (x.octet 15).toNat) / 256 = (x.octet 14).toNat by
      omega, UInt8.ofNat_toNat]
  have hlow : UInt8.ofNat x.ctr = x.octet 15 := by
    rw [← UInt8.toNat_inj, UInt8.toNat_ofNat', ctr, Nat.mul_add_mod, Nat.mod_eq_of_lt]
    exact (x.octet 15).toNat_lt
  ext1
  rw [v8_withCtr, hhigh, hlow, ← drop_eq, List.take_append_drop]

end Block

end MediaGateway.Libsrtp
