import MediaGateway.Lib.Absorb
import MediaGateway.Lib.Framing
import Mathlib.Tactic.IntervalCases
import Mathlib.Tactic.SplitIfs

/-!
# SHA-1

The hash function as a function of the whole message: the message is padded to whole blocks of
64 bytes, and the compression function is applied to one block after the other.

`schedule` and `rounds` follow the recurrences of the standard, with one function and one constant
for each of the 80 rounds.
-/

namespace MediaGateway.Lib.Sha1

abbrev Word := BitVec 32

/-- A word from four bytes, the first one highest. -/
def word (a b c d : UInt8) : Word := a.toBitVec ++ b.toBitVec ++ c.toBitVec ++ d.toBitVec

/-- Word `i` of a byte string. -/
def wordAt (bs : Bytes) (i : Nat) : Word :=
  word (bs.getD (4 * i) 0) (bs.getD (4 * i + 1) 0) (bs.getD (4 * i + 2) 0) (bs.getD (4 * i + 3) 0)

/-- The five words of the state. -/
structure State where
  a : Word
  b : Word
  c : Word
  d : Word
  e : Word
  deriving DecidableEq, Repr

namespace State

def initial : State := ⟨0x67452301, 0xefcdab89, 0x98badcfe, 0x10325476, 0xc3d2e1f0⟩

def add (s t : State) : State := ⟨s.a + t.a, s.b + t.b, s.c + t.c, s.d + t.d, s.e + t.e⟩

/-- The words of the state as bytes. -/
def digest (s : State) : Bytes :=
  [s.a, s.b, s.c, s.d, s.e].flatMap fun w => Framing.header w.toNat

end State

/-- The function of round `t`. -/
def f (t : Nat) (b c d : Word) : Word :=
  if t < 20 then (b &&& c) ||| (~~~b &&& d)
  else if t < 40 then b ^^^ c ^^^ d
  else if t < 60 then (b &&& c) ||| (b &&& d) ||| (c &&& d)
  else b ^^^ c ^^^ d

/-- The constant of round `t`. -/
def k (t : Nat) : Word :=
  if t < 20 then 0x5a827999 else if t < 40 then 0x6ed9eba1
  else if t < 60 then 0x8f1bbcdc else 0xca62c1d6

/-- Round `t` with the word `w` of the schedule. -/
def round (t : Nat) (w : Word) (s : State) : State :=
  ⟨s.a.rotateLeft 5 + f t s.b s.c s.d + s.e + w + k t, s.a, s.b.rotateLeft 30, s.c, s.d⟩

/-- The rounds before number `n`. -/
def rounds (w : Nat → Word) (s : State) : Nat → State
  | 0 => s
  | n + 1 => round n (w n) (rounds w s n)

/-- The words of the schedule for the words `m` of a block. -/
def schedule (m : Nat → Word) (t : Nat) : Word :=
  if t < 16 then m t
  else (schedule m (t - 3) ^^^ schedule m (t - 8) ^^^ schedule m (t - 14) ^^^
    schedule m (t - 16)).rotateLeft 1
termination_by t

/-- The compression function. -/
def compress (h : State) (block : Bytes) : State :=
  h.add (rounds (schedule (wordAt block)) h 80)

/-- What is put behind a message of `n` bytes. -/
def padding (n : Nat) : Bytes :=
  0x80 :: List.replicate ((119 - n % 64) % 64) 0 ++
    (Framing.header (8 * n / 2 ^ 32) ++ Framing.header (8 * n))

def hash (msg : Bytes) : Bytes :=
  (Absorb.absorb compress 64 State.initial (msg ++ padding msg.length)).digest

/-! ## Keyed hashes -/

/-- A key of at most 64 bytes, filled up with zeros and xored with `c`. -/
def keyPad (c : UInt8) (key : Bytes) : Bytes :=
  (key ++ List.replicate (64 - key.length) 0).map (· ^^^ c)

/-- HMAC with SHA-1. -/
def hmac (key msg : Bytes) : Bytes :=
  hash (keyPad 0x5c key ++ hash (keyPad 0x36 key ++ msg))

/-! ## Lemmas -/

@[simp] theorem length_digest (s : State) : s.digest.length = 20 := rfl

@[simp] theorem length_hash (msg : Bytes) : (hash msg).length = 20 := rfl

@[simp] theorem length_hmac (key msg : Bytes) : (hmac key msg).length = 20 := rfl

theorem length_keyPad {key : Bytes} (h : key.length ≤ 64) (c : UInt8) :
    (keyPad c key).length = 64 := by
  simp [keyPad, h]

/-- The padding fills the last block, or it needs one more. -/
theorem length_padding (n : Nat) :
    n % 64 + (padding n).length = if n % 64 < 56 then 64 else 128 := by
  rw [padding, List.cons_append, List.length_cons, List.length_append, List.length_replicate,
    List.length_append, Framing.length_header, Framing.length_header]
  split <;> omega

variable {m : Nat → Word} {t : Nat}

theorem schedule_of_lt (h : t < 16) : schedule m t = m t := by
  rw [schedule, if_pos h]

theorem schedule_of_le (h : 16 ≤ t) :
    schedule m t = (schedule m (t - 3) ^^^ schedule m (t - 8) ^^^ schedule m (t - 14) ^^^
      schedule m (t - 16)).rotateLeft 1 := by
  rw [schedule, if_neg (Nat.not_lt.2 h)]

/-! ## Words -/

theorem getLsbD_word (a b c d : UInt8) (i : Nat) :
    (word a b c d).getLsbD i =
      if i < 8 then d.toBitVec.getLsbD i
      else if i < 16 then c.toBitVec.getLsbD (i - 8)
      else if i < 24 then b.toBitVec.getLsbD (i - 16)
      else a.toBitVec.getLsbD (i - 24) := by
  show BitVec.getLsbD (a.toBitVec ++ b.toBitVec ++ c.toBitVec ++ d.toBitVec) i = _
  rw [BitVec.getLsbD_append, BitVec.getLsbD_append, BitVec.getLsbD_append, Nat.sub_sub, Nat.sub_sub]
  split_ifs <;> first | rfl | omega

/-- The word of the four bytes of a number. -/
theorem word_header (n : Nat) :
    word (UInt8.ofNat (n / 2 ^ 24)) (UInt8.ofNat (n / 2 ^ 16)) (UInt8.ofNat (n / 2 ^ 8))
      (UInt8.ofNat n) = BitVec.ofNat 32 n := by
  have hbyte : ∀ k j, j < 8 → (UInt8.ofNat (n / 2 ^ k)).toBitVec.getLsbD j = n.testBit (j + k) := by
    intro k j hj
    rw [UInt8.toBitVec_ofNat', BitVec.getLsbD_ofNat, Nat.testBit_div_two_pow, decide_eq_true hj,
      Bool.true_and]
  have hlow := hbyte 0
  rw [Nat.pow_zero, Nat.div_one] at hlow
  apply BitVec.eq_of_getLsbD_eq
  intro i hi
  rw [getLsbD_word, BitVec.getLsbD_ofNat, decide_eq_true hi, Bool.true_and]
  split_ifs with h8 h16 h24
  · exact hlow i h8
  · rw [hbyte 8 (i - 8) (by omega), Nat.sub_add_cancel (by omega)]
  · rw [hbyte 16 (i - 16) (by omega), Nat.sub_add_cancel (by omega)]
  · rw [hbyte 24 (i - 24) (by omega), Nat.sub_add_cancel (by omega)]

theorem wordAt_drop (bs : Bytes) (q i : Nat) : wordAt (bs.drop (4 * q)) i = wordAt bs (q + i) := by
  unfold wordAt
  simp only [List.getD_eq_getElem?_getD, List.getElem?_drop, Nat.mul_add, Nat.add_assoc]

theorem wordAt_take {bs : Bytes} {q i : Nat} (h : i < q) :
    wordAt (bs.take (4 * q)) i = wordAt bs i := by
  unfold wordAt
  simp only [List.getD_eq_getElem?_getD]
  rw [List.getElem?_take_of_lt (by omega), List.getElem?_take_of_lt (by omega),
    List.getElem?_take_of_lt (by omega), List.getElem?_take_of_lt (by omega)]

/-! The word in which a message of one, two or three more bytes ends: the old bytes behind the
message are masked out, and the first of them becomes the mark. -/

theorem word_mark_1 (a b c d : UInt8) :
    (word a b c d &&& 0xff000000) ||| 0x800000 = word a 0x80 0 0 := by
  apply BitVec.eq_of_getLsbD_eq
  intro i hi
  rw [BitVec.getLsbD_or, BitVec.getLsbD_and, getLsbD_word, getLsbD_word]
  interval_cases i <;> simp

theorem word_mark_2 (a b c d : UInt8) :
    (word a b c d &&& 0xffff0000) ||| 0x8000 = word a b 0x80 0 := by
  apply BitVec.eq_of_getLsbD_eq
  intro i hi
  rw [BitVec.getLsbD_or, BitVec.getLsbD_and, getLsbD_word, getLsbD_word]
  interval_cases i <;> simp

theorem word_mark_3 (a b c d : UInt8) :
    (word a b c d &&& 0xffffff00) ||| 0x80 = word a b c 0x80 := by
  apply BitVec.eq_of_getLsbD_eq
  intro i hi
  rw [BitVec.getLsbD_or, BitVec.getLsbD_and, getLsbD_word, getLsbD_word]
  interval_cases i <;> simp

end MediaGateway.Lib.Sha1
