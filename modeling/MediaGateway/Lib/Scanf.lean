import MediaGateway.Lib.Decimal
import MediaGateway.Lib.Search

/-!
# Reading words and numbers with `sscanf`

`scanf` is what `sscanf` assigns for a format of literals, white space, `%s` and
`%d`: the values in order, up to the first directive that fails.

A `Token` is a word of the text together with the conversion that is to read it.
`scanf_tokens` reads a whole row of them, each with a blank in front.
-/

namespace MediaGateway.Lib

open Bytes

inductive Directive
  /-- characters other than white space, which stand in the text as they are -/
  | literal (bs : Bytes)
  /-- white space, any amount of it -/
  | space
  /-- `%s` -/
  | str
  /-- `%d` -/
  | int
  deriving DecidableEq, Repr

inductive Scanned
  | str (bs : Bytes)
  | int (n : Int)
  deriving DecidableEq, Repr

namespace Bytes

/-- The text behind a decimal integer: what `scanDecimal` leaves. -/
def afterDecimal (s : Bytes) : Bytes :=
  let s := s.dropWhile isSpace
  let rest :=
    match s with
    | 45 :: rest => rest
    | 43 :: rest => rest
    | _ => s
  rest.dropWhile isDigit

end Bytes

/-- The values that `sscanf(s, fmt, ...)` assigns. -/
def scanf : List Directive → Bytes → List Scanned
  | [], _ => []
  | .literal bs :: fmt, s => if bs.isPrefixOf s then scanf fmt (s.drop bs.length) else []
  | .space :: fmt, s => scanf fmt (s.dropWhile isSpace)
  | .str :: fmt, s =>
    let s := s.dropWhile isSpace
    let word := s.takeWhile fun c => !isSpace c
    if word.isEmpty then [] else .str word :: scanf fmt (s.drop word.length)
  | .int :: fmt, s =>
    match scanDecimal s with
    | none => []
    | some (negative, ds) =>
      .int (toInt32 negative (digitsValue ds)) :: scanf fmt (afterDecimal s)

/-! ## Words -/

/-- A text that `%s` reads as a whole. -/
def IsWord (w : Bytes) : Prop := w ≠ [] ∧ ∀ c ∈ w, isSpace c = false

instance (w : Bytes) : Decidable (IsWord w) := inferInstanceAs (Decidable (_ ∧ _))

/-- What follows does not go on with a word. -/
def EndsWord (rest : Bytes) : Prop := ∀ c ∈ rest.head?, isSpace c = true

instance (rest : Bytes) : Decidable (EndsWord rest) :=
  inferInstanceAs (Decidable (∀ c ∈ rest.head?, isSpace c = true))

theorem dropWhile_isSpace {w : Bytes} (hw : IsWord w) (rest : Bytes) :
    (w ++ rest).dropWhile isSpace = w ++ rest := by
  cases w with
  | nil => exact absurd rfl hw.1
  | cons c w =>
    rw [List.cons_append, List.dropWhile_cons, hw.2 c List.mem_cons_self]
    rfl

theorem takeWhile_word {w rest : Bytes} (hw : IsWord w) (hrest : EndsWord rest) :
    (w ++ rest).takeWhile (fun c => !isSpace c) = w := by
  rw [List.takeWhile_append_of_pos fun c hc => by rw [hw.2 c hc]; rfl]
  cases rest with
  | nil => exact List.append_nil w
  | cons c rest =>
    rw [List.takeWhile_cons, hrest c rfl]
    exact List.append_nil w

theorem scanf_literal (bs rest : Bytes) (fmt : List Directive) :
    scanf (.literal bs :: fmt) (bs ++ rest) = scanf fmt rest := by
  rw [scanf, if_pos (List.isPrefixOf_iff_prefix.2 (List.prefix_append bs rest)), List.drop_left]

theorem scanf_space {w : Bytes} (hw : IsWord w) (rest : Bytes) (fmt : List Directive) :
    scanf (.space :: fmt) (32 :: (w ++ rest)) = scanf fmt (w ++ rest) := by
  have hblank : isSpace 32 = true := rfl
  rw [scanf, List.dropWhile_cons, if_pos hblank, dropWhile_isSpace hw]

theorem scanf_str {w rest : Bytes} (hw : IsWord w) (hrest : EndsWord rest)
    (fmt : List Directive) :
    scanf (.str :: fmt) (w ++ rest) = .str w :: scanf fmt rest := by
  have hempty : w.isEmpty = false := by
    rw [List.isEmpty_eq_false_iff]
    exact hw.1
  simp only [scanf, dropWhile_isSpace hw, takeWhile_word hw hrest, hempty, List.drop_left]
  rfl

/-! ## Numbers -/

/-- A text that `%d` reads as a whole, and the `int` that is assigned. -/
inductive IsInt : Bytes → Int → Prop
  | unsigned (ds : Bytes) (hne : ds ≠ []) (hds : ∀ c ∈ ds, isDigit c = true) :
      IsInt ds (toInt32 false (digitsValue ds))
  | negative (ds : Bytes) (hne : ds ≠ []) (hds : ∀ c ∈ ds, isDigit c = true) :
      IsInt (45 :: ds) (toInt32 true (digitsValue ds))

theorem IsInt.isWord {t : Bytes} {n : Int} (h : IsInt t n) : IsWord t := by
  cases h with
  | unsigned _ hne hds => exact ⟨hne, fun c hc => (of_isDigit (hds c hc)).1⟩
  | negative ds hne hds =>
    refine ⟨List.cons_ne_nil 45 ds, fun c hc => ?_⟩
    rcases List.mem_cons.1 hc with rfl | hc
    · rfl
    · exact (of_isDigit (hds c hc)).1

theorem IsInt.isDigit_of_mem {t : Bytes} {n : Int} (h : IsInt t n) {c : UInt8} (hc : c ∈ t) :
    c = 45 ∨ isDigit c = true := by
  cases h with
  | unsigned _ hne hds => exact .inr (hds c hc)
  | negative ds hne hds => exact (List.mem_cons.1 hc).imp_right (hds c)

theorem isDigit_eq_false_of_isSpace {c : UInt8} (h : isSpace c = true) : isDigit c = false := by
  cases hdigit : isDigit c with
  | false => rfl
  | true =>
    rw [(of_isDigit hdigit).1] at h
    cases h

theorem EndsWord.endsDigits {rest : Bytes} (h : EndsWord rest) : EndsDigits rest :=
  fun c hc => isDigit_eq_false_of_isSpace (h c hc)

theorem dropWhile_digits {ds rest : Bytes} (hds : ∀ c ∈ ds, isDigit c = true)
    (hrest : EndsDigits rest) : (ds ++ rest).dropWhile isDigit = rest := by
  rw [List.dropWhile_append_of_pos hds]
  cases rest with
  | nil => rfl
  | cons c rest =>
    rw [List.dropWhile_cons, hrest c rfl]
    rfl

theorem scanf_int {t rest : Bytes} {n : Int} (ht : IsInt t n) (hrest : EndsWord rest)
    (fmt : List Directive) :
    scanf (.int :: fmt) (t ++ rest) = .int n :: scanf fmt rest := by
  have hstart := dropWhile_isSpace ht.isWord rest
  cases ht with
  | unsigned _ hne hds =>
    have hafter : afterDecimal (t ++ rest) = rest := by
      cases t with
      | nil => exact absurd rfl hne
      | cons d ds =>
        obtain ⟨-, hminus, hplus⟩ := of_isDigit (hds d List.mem_cons_self)
        rw [afterDecimal, hstart]
        split
        · rename_i heq
          exact absurd (List.cons.inj heq).1 hminus
        · rename_i heq
          exact absurd (List.cons.inj heq).1 hplus
        · exact dropWhile_digits hds hrest.endsDigits
    rw [scanf, scanDecimal_digits hds hne hrest.endsDigits, hafter]
  | negative ds hne hds =>
    have hempty : ds.isEmpty = false := by
      rw [List.isEmpty_eq_false_iff]
      exact hne
    have hscan : scanDecimal (45 :: ds ++ rest) = some (true, ds) := by
      rw [scanDecimal, hstart]
      simp only [List.cons_append, takeWhile_digits hds hrest.endsDigits, hempty]
      rfl
    have hafter : afterDecimal (45 :: ds ++ rest) = rest := by
      rw [afterDecimal, hstart]
      exact dropWhile_digits hds hrest.endsDigits
    rw [scanf, hscan, hafter]

/-- An `int` that was printed. -/
theorem isInt_ofInt {n : Int} (hlow : -2 ^ 31 ≤ n) (hhigh : n < 2 ^ 31) : IsInt (ofInt n) n := by
  have hread : toInt32 (decide (n < 0)) (digitsValue (digits n.natAbs)) = n := by
    have hatoi := atoi_ofInt hlow hhigh
    rwa [atoi, scanDecimal_ofInt] at hatoi
  cases n with
  | ofNat n =>
    have hint := IsInt.unsigned (digits n) (digits_ne_nil n) fun c => isDigit_of_mem_digits
    have hsign : decide (Int.ofNat n < 0) = false :=
      decide_eq_false (Int.not_lt.2 (Int.natCast_nonneg n))
    rw [hsign, Int.natAbs_ofNat'] at hread
    rwa [hread, ← ofInt_natCast] at hint
  | negSucc n =>
    have hint := IsInt.negative (digits (n + 1)) (digits_ne_nil _) fun c => isDigit_of_mem_digits
    rw [decide_eq_true (Int.negSucc_lt_zero n), Int.natAbs_negSucc] at hread
    rwa [hread, ← ofInt_negSucc] at hint

/-- An `unsigned int` that is written through a pointer to `int`. -/
theorem ofInt_bmod (x : Int) : UInt32.ofInt (Int.bmod x (2 ^ 32)) = UInt32.ofInt x := by
  have hmod := @Int.bmod_emod x (2 ^ 32)
  have hpow : ((2 ^ 32 : Nat) : Int) = 2 ^ 32 := rfl
  rw [hpow] at hmod
  rw [UInt32.ofInt, UInt32.ofInt, hmod]

theorem ofInt_toInt32 {n : Nat} (h : n < 2 ^ 32) :
    UInt32.ofInt (toInt32 false n) = UInt32.ofNat n := by
  have hmin : min n (2 ^ 63 - 1) = n := by omega
  rw [toInt32]
  simp only [Bool.false_eq_true, if_false, hmin, ofInt_bmod]
  rw [UInt32.ofInt]
  congr 1
  omega

theorem toInt32_of_lt {n : Nat} (h : n < 2 ^ 31) : toInt32 false n = n := by
  have hmin : min n (2 ^ 63 - 1) = n := by omega
  rw [toInt32]
  simp only [Bool.false_eq_true, if_false, hmin]
  exact Int.bmod_eq_of_le (by omega) (by omega)

/-! ## Rows of tokens -/

/-- A word of a text, with the conversion that reads it and the value that it gives. -/
inductive Token
  | str (w : Bytes)
  | int (text : Bytes) (n : Int)
  deriving DecidableEq, Repr

namespace Token

def directive : Token → Directive
  | str _ => .str
  | int _ _ => .int

def text : Token → Bytes
  | str w => w
  | int text _ => text

def value : Token → Scanned
  | str w => .str w
  | int _ n => .int n

/-- The conversion reads the word as a whole. -/
def Reads : Token → Prop
  | str w => IsWord w
  | int text n => IsInt text n

theorem Reads.isWord {t : Token} (h : t.Reads) : IsWord t.text := by
  cases t with
  | str w => exact h
  | int text n => exact IsInt.isWord h

/-- The words, each with a blank in front. -/
def row (ts : List Token) : Bytes := ts.flatMap fun t => 32 :: t.text

theorem endsWord_row {ts : List Token} {rest : Bytes} (hrest : EndsWord rest) :
    EndsWord (row ts ++ rest) := by
  cases ts with
  | nil => exact hrest
  | cons t ts =>
    intro c hc
    obtain rfl := Option.some.inj hc
    rfl

/-- A format with white space and the conversion of each token. -/
theorem scanf_tokens {ts : List Token} (hts : ∀ t ∈ ts, t.Reads) {rest : Bytes}
    (hrest : EndsWord rest) :
    scanf (ts.flatMap fun t => [.space, t.directive]) (row ts ++ rest) = ts.map value := by
  induction ts with
  | nil => rfl
  | cons t ts ih =>
    have ht := hts t List.mem_cons_self
    have hmore : EndsWord (row ts ++ rest) := endsWord_row hrest
    have hrow : row (t :: ts) ++ rest = 32 :: (t.text ++ (row ts ++ rest)) := by
      rw [row, List.flatMap_cons, List.cons_append, List.cons_append, List.append_assoc]
      rfl
    rw [List.flatMap_cons, List.cons_append, hrow, scanf_space ht.isWord, List.map_cons,
      ← ih fun t' ht' => hts t' (List.mem_cons_of_mem t ht')]
    cases t with
    | str w => exact scanf_str ht hmore _
    | int text n => exact scanf_int ht hmore _

/-- A pattern without white space stands in one of the words, or around them. -/
theorem infix_row {w : Bytes} (hw : IsWord w) {ts : List Token} {x rest : Bytes}
    (hrest : EndsWord rest) :
    w <:+: x ++ (row ts ++ rest) ↔ w <:+: x ∨ (∃ t ∈ ts, w <:+: t.text) ∨ w <:+: rest := by
  have hspace : ∀ c, isSpace c = true → c ∉ w := by
    intro c hc hmem
    rw [hw.2 c hmem] at hc
    cases hc
  constructor
  · induction ts generalizing x with
    | nil =>
      intro h
      cases rest with
      | nil =>
        rw [row, List.flatMap_nil, List.append_nil, List.append_nil] at h
        exact .inl h
      | cons c rest =>
        rcases infix_of_append_cons (hspace c (hrest c rfl)) h with h | h
        · exact .inl h
        · exact .inr (.inr (h.trans (List.suffix_cons c rest).isInfix))
    | cons t ts ih =>
      intro h
      rw [row, List.flatMap_cons, List.cons_append, List.cons_append, List.append_assoc] at h
      rcases infix_of_append_cons (hspace 32 rfl) h with h | h
      · exact .inl h
      · rcases ih h with h | ⟨t', ht', h⟩ | h
        · exact .inr (.inl ⟨t, List.mem_cons_self, h⟩)
        · exact .inr (.inl ⟨t', List.mem_cons_of_mem t ht', h⟩)
        · exact .inr (.inr h)
  · intro h
    rcases h with h | ⟨t, ht, h⟩ | h
    · exact h.trans (List.prefix_append x _).isInfix
    · have hrow : t.text <:+: row ts := by
        obtain ⟨as, bs, rfl⟩ := List.append_of_mem ht
        refine ⟨row as ++ [32], row bs, ?_⟩
        rw [row, row, row, List.flatMap_append, List.flatMap_cons]
        simp only [List.append_assoc, List.cons_append, List.nil_append]
      exact h.trans (hrow.trans ⟨x, rest, List.append_assoc ..⟩)
    · exact h.trans ((List.suffix_append (row ts) rest).trans (List.suffix_append x _)).isInfix

end Token

end MediaGateway.Lib
