import Mathlib.Algebra.Group.Int.Defs
import Mathlib.Algebra.Group.Nat.Defs
import Mathlib.Data.List.Infix

/-!
# Byte strings

`std::string` as a list of bytes, with the operations the C++ code calls on it
and the conversions of the C library.

`std::string::npos` is `none`.  The idioms of the callers that depend on how
`npos` behaves in unsigned arithmetic each have their own definition:
`next` is `pos + 1`, which wraps to `0`; `before` is `pos < limit`, which every
position satisfies when `limit` is `npos`, and `after` is `pos > limit`, which
none does; `substrTo` is
`substr(pos, limit - pos)`, which runs to the end of the string when `limit` is
`npos` or lies before `pos`.

`contains_iff` is what a successful search means: the pattern stands in the
string somewhere.
-/

namespace MediaGateway.Lib

/-- A C++ string: its bytes in order. -/
abbrev Bytes := List UInt8

/-- The bytes of an ASCII literal. -/
def bytes (s : String) : Bytes := s.toList.map fun c => UInt8.ofNat c.toNat

/-! ## Quantifiers over a text

They are decided along the text: `UInt8` is finite, and a search for an instance would
otherwise run over all bytes. -/

namespace Bytes

instance decidableForall (p : UInt8 → Prop) [DecidablePred p] (bs : Bytes) :
    Decidable (∀ c ∈ bs, p c) :=
  List.decidableBAll p bs

instance decidableExists (p : UInt8 → Prop) [DecidablePred p] (bs : Bytes) :
    Decidable (∃ c ∈ bs, p c) :=
  List.decidableBEx p bs

instance decidableForallOption (p : UInt8 → Prop) [DecidablePred p] (c : Option UInt8) :
    Decidable (∀ d ∈ c, p d) :=
  Option.decidableForallMem c

/-! ## Searching -/

/-- The first position of `pat` in a suffix that starts at position `i`. -/
def findFrom (pat : Bytes) : Bytes → Nat → Option Nat
  | [], i => if pat.isEmpty then some i else none
  | c :: rest, i =>
    if pat.isPrefixOf (c :: rest) then some i else findFrom pat rest (i + 1)

/-- `std::string::find(pat, pos)`. -/
def find (s pat : Bytes) (pos : Nat) : Option Nat :=
  if pos ≤ s.length then findFrom pat (s.drop pos) pos else none

/-- `s.find(pat) != npos`. -/
def contains (s pat : Bytes) : Bool := (find s pat 0).isSome

/-- `pos + 1` in `size_type`: `npos + 1` is `0`. -/
def next : Option Nat → Nat
  | none => 0
  | some pos => pos + 1

/-- `pos < limit` in `size_type`. -/
def before (pos : Nat) : Option Nat → Bool
  | none => true
  | some limit => decide (pos < limit)

/-- `pos > limit` in `size_type`. -/
def after (pos : Nat) : Option Nat → Bool
  | none => false
  | some limit => decide (limit < pos)

/-! ## Parts of a string -/

/-- `substr(pos, n)`, for `pos` at most the size. -/
def substr (s : Bytes) (pos n : Nat) : Bytes := (s.drop pos).take n

/-- `substr(pos, limit - pos)`, with the difference in `size_type`. -/
def substrTo (s : Bytes) (pos : Nat) : Option Nat → Bytes
  | none => s.drop pos
  | some limit => if limit < pos then s.drop pos else s.substr pos (limit - pos)

/-- `replace(pos, n, t)`, for `pos` at most the size. -/
def replace (s : Bytes) (pos n : Nat) (t : Bytes) : Bytes :=
  s.take pos ++ t ++ s.drop (pos + n)

/-- The C string a `c_str()` pointer denotes: the bytes before the first
NUL. -/
def cStr (s : Bytes) : Bytes := s.takeWhile (· != 0)

theorem cStr_append {s : Bytes} (h : 0 ∉ s) (rest : Bytes) : cStr (s ++ rest) = s ++ cStr rest := by
  refine List.takeWhile_append_of_pos fun c hc => ?_
  rw [bne_iff_ne]
  intro heq
  subst heq
  exact h hc

theorem cStr_eq_self {s : Bytes} (h : 0 ∉ s) : cStr s = s := by
  have hs := cStr_append h []
  rw [List.append_nil] at hs
  rw [hs]
  exact List.append_nil s

/-! ## Numbers -/

def isSpace (c : UInt8) : Bool := c == 32 || (9 ≤ c && c ≤ 13)

def isDigit (c : UInt8) : Bool := 48 ≤ c && c ≤ 57

/-- The value of a run of decimal digits. -/
def digitsValue (ds : Bytes) : Nat :=
  ds.foldl (fun n c => 10 * n + (c.toNat - 48)) 0

/-- The sign and the digits of a decimal integer: leading white space, at most
one sign, then digits.  `none` when there is no digit. -/
def scanDecimal (s : Bytes) : Option (Bool × Bytes) :=
  let s := s.dropWhile isSpace
  let (negative, rest) :=
    match s with
    | 45 :: rest => (true, rest)
    | 43 :: rest => (false, rest)
    | _ => (false, s)
  let ds := rest.takeWhile isDigit
  if ds.isEmpty then none else some (negative, ds)

/-- `(int) strtol(s, NULL, 10)` with a 64-bit `long`: the value saturates at
the ends of `long` and keeps its low 32 bits. -/
def toInt32 (negative : Bool) (n : Nat) : Int :=
  let long : Int := if negative then -(min n (2 ^ 63) : Nat) else (min n (2 ^ 63 - 1) : Nat)
  Int.bmod long (2 ^ 32)

/-- `atoi`. -/
def atoi (s : Bytes) : Int :=
  match scanDecimal s with
  | none => 0
  | some (negative, ds) => toInt32 negative (digitsValue ds)

/-- `stringstream >> unsigned int`: the variable keeps its old value when there
is only white space; `0` when no number can be read, the largest value when it
is too large. -/
def streamUInt (old : UInt32) (s : Bytes) : UInt32 :=
  if (s.dropWhile isSpace).isEmpty then old
  else
    match scanDecimal s with
    | none => 0
    | some (negative, ds) =>
      if digitsValue ds < 2 ^ 32 then
        if negative then 0 - UInt32.ofNat (digitsValue ds) else UInt32.ofNat (digitsValue ds)
      else UInt32.ofNat (2 ^ 32 - 1)

/-- `sprintf(buf, "%d", n)`. -/
def ofInt (n : Int) : Bytes := bytes (toString n)

/-! ## What a search finds -/

theorem findFrom_eq_some {pat : Bytes} :
    ∀ {s : Bytes} {i j : Nat}, findFrom pat s i = some j →
      ∃ a b, s = a ++ pat ++ b ∧ i + a.length = j := by
  intro s
  induction s with
  | nil =>
    intro i j h
    simp only [findFrom] at h
    split at h
    · rename_i hpat
      rw [List.isEmpty_iff.1 hpat]
      exact ⟨[], [], rfl, Option.some.inj h⟩
    · cases h
  | cons c rest ih =>
    intro i j h
    simp only [findFrom] at h
    split at h
    · rename_i hpre
      obtain ⟨b, hb⟩ := List.isPrefixOf_iff_prefix.1 hpre
      exact ⟨[], b, by rw [← hb, List.nil_append], Option.some.inj h⟩
    · obtain ⟨a, b, rfl, hj⟩ := ih h
      exact ⟨c :: a, b, rfl, by rw [List.length_cons]; omega⟩

/-- What a search from a position finds in the rest of the string. -/
theorem find_eq_some {s pat : Bytes} {pos p : Nat} (h : find s pat pos = some p) :
    pos ≤ s.length ∧ ∃ a b, s.drop pos = a ++ pat ++ b ∧ pos + a.length = p := by
  unfold find at h
  split at h
  · rename_i hle
    exact ⟨hle, findFrom_eq_some h⟩
  · cases h

theorem find_le {s pat : Bytes} {pos p : Nat} (h : find s pat pos = some p) :
    pos ≤ p ∧ p + pat.length ≤ s.length := by
  obtain ⟨hle, a, b, hs, hp⟩ := find_eq_some h
  have hlen := congrArg List.length hs
  simp only [List.length_drop, List.length_append] at hlen
  omega

theorem findFrom_isSome {pat b : Bytes} :
    ∀ {a : Bytes} {i : Nat}, ∃ j, findFrom pat (a ++ pat ++ b) i = some j ∧
      j ≤ i + a.length := by
  intro a
  induction a with
  | nil =>
    intro i
    refine ⟨i, ?_, by omega⟩
    cases hs : [] ++ pat ++ b with
    | nil =>
      obtain rfl : pat = [] := by
        simp only [List.nil_append, List.append_eq_nil_iff] at hs
        exact hs.1
      rfl
    | cons c rest =>
      have hpre : pat.isPrefixOf (c :: rest) = true :=
        List.isPrefixOf_iff_prefix.2 ⟨b, by rw [← hs, List.nil_append]⟩
      rw [findFrom, if_pos hpre]
  | cons c a ih =>
    intro i
    obtain ⟨j, hj, hle⟩ := ih (i := i + 1)
    rw [List.cons_append, List.cons_append, findFrom]
    split
    · exact ⟨i, rfl, by omega⟩
    · exact ⟨j, hj, by rw [List.length_cons]; omega⟩

/-- A string contains a pattern exactly when the pattern stands in it
somewhere. -/
theorem contains_iff {s pat : Bytes} :
    contains s pat = true ↔ ∃ a b, s = a ++ pat ++ b := by
  rw [contains, find, if_pos (Nat.zero_le _), List.drop_zero, Option.isSome_iff_exists]
  constructor
  · intro hex
    rcases hex with ⟨j, hj⟩
    obtain ⟨a, b, hs, -⟩ := findFrom_eq_some hj
    exact ⟨a, b, hs⟩
  · intro hex
    rcases hex with ⟨a, b, rfl⟩
    have hfound : ∃ j, findFrom pat (a ++ pat ++ b) 0 = some j ∧ j ≤ 0 + a.length :=
      findFrom_isSome
    obtain ⟨j, hj, -⟩ := hfound
    exact ⟨j, hj⟩

/-- A pattern without the byte `c` lies on one side of it. -/
theorem infix_of_append_cons {pat xs ys : Bytes} {c : UInt8} (hc : c ∉ pat)
    (h : pat <:+: xs ++ c :: ys) : pat <:+: xs ∨ pat <:+: ys := by
  obtain ⟨s, t, heq⟩ := h
  rw [List.append_assoc, List.append_eq_append_iff] at heq
  rcases heq with ⟨a, rfl, heq⟩ | ⟨a, rfl, heq⟩
  · rw [List.append_eq_append_iff] at heq
    rcases heq with ⟨b, rfl, heq⟩ | ⟨b, rfl, heq⟩
    · exact .inl ⟨s, b, List.append_assoc ..⟩
    · cases b with
      | nil => exact .inl ⟨s, [], by simp⟩
      | cons d b =>
        obtain ⟨rfl, -⟩ := List.cons.inj heq
        simp at hc
  · cases a with
    | nil =>
      cases pat with
      | nil => exact .inl List.nil_infix
      | cons d pat =>
        obtain ⟨rfl, -⟩ := List.cons.inj heq
        simp at hc
    | cons d a =>
      obtain ⟨-, rfl⟩ := List.cons.inj heq
      exact .inr ⟨a, t, List.append_assoc ..⟩

/-- And so with a block of such bytes. -/
theorem infix_of_append_replicate {pat xs ys : Bytes} {c : UInt8} (hc : c ∉ pat) (n : Nat)
    (h : pat <:+: xs ++ (List.replicate (n + 1) c ++ ys)) : pat <:+: xs ∨ pat <:+: ys := by
  induction n generalizing xs with
  | zero => exact infix_of_append_cons hc h
  | succ n ih =>
    rw [List.replicate_succ, List.cons_append] at h
    rcases infix_of_append_cons hc h with h | h
    · exact .inl h
    · rcases @ih [] h with h | h
      · exact .inl (h.trans List.nil_infix)
      · exact .inr h

end Bytes

end MediaGateway.Lib
