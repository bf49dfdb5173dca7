import MediaGateway.Lib.Text

/-!
# Numbers in decimal

What `ofInt` writes and what `atoi` reads.  `atoi_ofInt` is the round trip of an
`int`; `scanDecimal_digits` is about digits that stand in front of other text, for
the callers that read a number out of a longer string.
-/

namespace MediaGateway.Lib.Bytes

/-! ## Writing -/

/-- The decimal digits of a natural number. -/
def digits (n : Nat) : Bytes := bytes (Nat.repr n)

theorem ofInt_natCast (n : Nat) : ofInt n = digits n := rfl

theorem ofInt_negSucc (n : Nat) : ofInt (Int.negSucc n) = 45 :: digits (n + 1) := by
  show bytes ("-" ++ Nat.repr (n + 1)) = _
  rw [bytes, String.toList_append]
  rfl

theorem toNat_ofNat_of_isDigit {c : Char} (h : c.isDigit = true) :
    (UInt8.ofNat c.toNat).toNat = c.toNat ∧ 48 ≤ c.toNat ∧ c.toNat ≤ 57 := by
  have hval : c.toNat = c.val.toNat := rfl
  simp only [Char.isDigit, Bool.and_eq_true, decide_eq_true_eq, ge_iff_le,
    UInt32.le_iff_toNat_le] at h
  obtain ⟨hlow, hhigh⟩ := h
  have hlow : 48 ≤ c.toNat := hlow
  have hhigh : c.toNat ≤ 57 := hhigh
  refine ⟨?_, hlow, hhigh⟩
  rw [UInt8.toNat_ofNat']
  omega

theorem isDigit_of_mem_digits {n : Nat} {c : UInt8} (h : c ∈ digits n) : isDigit c = true := by
  obtain ⟨d, hd, rfl⟩ := List.mem_map.1 h
  rw [Nat.toList_repr] at hd
  obtain ⟨hnat, hlow, hhigh⟩ :=
    toNat_ofNat_of_isDigit (Nat.isDigit_of_mem_toDigits (by decide) (by decide) hd)
  simp only [isDigit, Bool.and_eq_true, decide_eq_true_eq, UInt8.le_iff_toNat_le, hnat]
  exact ⟨hlow, hhigh⟩

theorem digits_ne_nil (n : Nat) : digits n ≠ [] := by
  rw [digits, bytes, Nat.toList_repr]
  intro h
  exact Nat.toDigits_ne_nil (List.map_eq_nil_iff.1 h)

theorem length_digits_le {n k : Nat} (hk : 0 < k) (h : n < 10 ^ k) : (digits n).length ≤ k := by
  rw [digits, bytes, Nat.toList_repr, List.length_map]
  exact (Nat.length_toDigits_le_iff (by decide) hk).2 h

/-- A number is written with digits and at most a sign. -/
theorem eq_or_isDigit_of_mem_ofInt {n : Int} {c : UInt8} (h : c ∈ ofInt n) :
    c = 45 ∨ isDigit c = true := by
  cases n with
  | ofNat n => exact .inr (isDigit_of_mem_digits (n := n) h)
  | negSucc n =>
    rw [ofInt_negSucc, List.mem_cons] at h
    exact h.imp_right isDigit_of_mem_digits

/-- So a byte that is neither does not stand in it. -/
theorem notMem_ofInt {c : UInt8} (hsign : c ≠ 45) (hdigit : isDigit c = false) (n : Int) :
    c ∉ ofInt n := by
  intro h
  rcases eq_or_isDigit_of_mem_ofInt h with heq | heq
  · exact hsign heq
  · rw [hdigit] at heq
    cases heq

/-! ## Reading -/

/-- The digits are read back. -/
theorem digitsValue_digits (n : Nat) : digitsValue (digits n) = n := by
  have hfold : ∀ (cs : List Char) (init : Nat), (∀ c ∈ cs, c.isDigit = true) →
      (cs.map fun c => UInt8.ofNat c.toNat).foldl (fun n c => 10 * n + (c.toNat - 48)) init =
        cs.foldl (fun n c => 10 * n + (c.toNat - '0'.toNat)) init := by
    intro cs
    induction cs with
    | nil => exact fun _ _ => rfl
    | cons c cs ih =>
      intro init hcs
      obtain ⟨hnat, -⟩ := toNat_ofNat_of_isDigit (hcs c List.mem_cons_self)
      rw [List.map_cons, List.foldl_cons, List.foldl_cons, hnat]
      exact ih _ fun d hd => hcs d (List.mem_cons_of_mem c hd)
  have hdigits : ∀ c ∈ Nat.toDigits 10 n, c.isDigit = true := fun c hc =>
    Nat.isDigit_of_mem_toDigits (by decide) (by decide) hc
  rw [digitsValue, digits, bytes, Nat.toList_repr, hfold _ 0 hdigits]
  exact Nat.ofDigitChars_eq_foldl.symm.trans Nat.ofDigitChars_ten_toDigits

/-- What follows does not go on with a digit. -/
def EndsDigits (rest : Bytes) : Prop := ∀ c ∈ rest.head?, isDigit c = false

instance (rest : Bytes) : Decidable (EndsDigits rest) :=
  inferInstanceAs (Decidable (∀ c ∈ rest.head?, isDigit c = false))

theorem endsDigits_nil : EndsDigits [] := by
  decide

theorem takeWhile_digits {ds rest : Bytes} (hds : ∀ c ∈ ds, isDigit c = true)
    (hrest : EndsDigits rest) : (ds ++ rest).takeWhile isDigit = ds := by
  rw [List.takeWhile_append_of_pos hds]
  cases rest with
  | nil => exact List.append_nil ds
  | cons c rest =>
    rw [List.takeWhile_cons, hrest c rfl]
    exact List.append_nil ds

/-- A digit is neither white space nor a sign. -/
theorem of_isDigit {c : UInt8} (h : isDigit c = true) : isSpace c = false ∧ c ≠ 45 ∧ c ≠ 43 := by
  refine ⟨?_, ?_, ?_⟩
  · simp only [isDigit, isSpace, Bool.and_eq_true, decide_eq_true_eq, Bool.or_eq_false_iff,
      Bool.and_eq_false_iff, decide_eq_false_iff_not, beq_eq_false_iff_ne, ne_eq,
      UInt8.le_iff_toNat_le, ← UInt8.toNat_inj] at h ⊢
    have h48 : (48 : UInt8).toNat = 48 := rfl
    have h13 : (13 : UInt8).toNat = 13 := rfl
    have h32 : (32 : UInt8).toNat = 32 := rfl
    omega
  · intro heq
    subst heq
    exact absurd h (by decide)
  · intro heq
    subst heq
    exact absurd h (by decide)

/-- Digits in front of other text. -/
theorem scanDecimal_digits {ds rest : Bytes} (hds : ∀ c ∈ ds, isDigit c = true) (hne : ds ≠ [])
    (hrest : EndsDigits rest) : scanDecimal (ds ++ rest) = some (false, ds) := by
  cases ds with
  | nil => exact absurd rfl hne
  | cons d ds =>
    obtain ⟨hspace, hminus, hplus⟩ := of_isDigit (hds d List.mem_cons_self)
    have hstart : (d :: ds ++ rest).dropWhile isSpace = d :: ds ++ rest := by
      rw [List.cons_append, List.dropWhile_cons, hspace]
      rfl
    have htake := takeWhile_digits hds hrest
    rw [scanDecimal, hstart]
    dsimp only
    split
    · rename_i heq
      exact absurd (List.cons.inj heq).1 hminus
    · rename_i heq
      exact absurd (List.cons.inj heq).1 hplus
    · simp only [htake]
      rfl

theorem scanDecimal_ofInt (n : Int) :
    scanDecimal (ofInt n) = some (decide (n < 0), digits n.natAbs) := by
  cases n with
  | ofNat n =>
    have hscan := scanDecimal_digits (fun c => isDigit_of_mem_digits (n := n)) (digits_ne_nil n)
      endsDigits_nil
    rw [List.append_nil] at hscan
    exact hscan
  | negSucc n =>
    have htake := takeWhile_digits (fun c => isDigit_of_mem_digits (n := n + 1)) endsDigits_nil
    rw [List.append_nil] at htake
    rw [ofInt_negSucc, scanDecimal]
    have hstart : (45 :: digits (n + 1)).dropWhile isSpace = 45 :: digits (n + 1) := rfl
    simp only [hstart, htake, List.isEmpty_iff, digits_ne_nil, if_false]
    rw [decide_eq_true (Int.negSucc_lt_zero n)]
    rfl

/-- The round trip of an `int`. -/
theorem atoi_ofInt {n : Int} (hlow : -2 ^ 31 ≤ n) (hhigh : n < 2 ^ 31) : atoi (ofInt n) = n := by
  rw [atoi, scanDecimal_ofInt]
  simp only [toInt32, digitsValue_digits]
  have hlong : (if decide (n < 0) = true then -((min n.natAbs (2 ^ 63) : Nat) : Int)
      else ((min n.natAbs (2 ^ 63 - 1) : Nat) : Int)) = n := by
    by_cases hn : n < 0
    · rw [if_pos (decide_eq_true hn)]
      omega
    · rw [if_neg (by simpa using hn)]
      omega
  rw [hlong, Int.bmod_eq_of_le (by omega) (by omega)]

end MediaGateway.Lib.Bytes
