import MediaGateway.NiceCandidate

/-!
# Candidate lines

`a=candidate:<foundation> <component> <transport> <priority> <address> <port> typ <type>`
and what follows: the form of what a browser sends and of what the gateway prints.

`ofString_text` is what `Candidate(const char[])` makes of such a line, `fits_text` when
its words fit, and `contains_text` where a word that `strstr` looks for can stand.
-/

namespace MediaGateway.Ice

open Lib

/-- The words of a line.  Behind them stands whatever else it has. -/
structure Line where
  foundation : Bytes
  component : Bytes
  transport : Bytes
  priority : Bytes
  address : Bytes
  port : Bytes
  /-- the word behind `typ` -/
  token : Bytes
  extensions : Bytes
  deriving DecidableEq, Repr

namespace Line

/-- The words that are scanned behind the foundation. -/
def tokens (l : Line) : List Token :=
  [ .int l.component (Bytes.atoi l.component), .str l.transport
  , .int l.priority (Bytes.atoi l.priority), .str l.address
  , .int l.port (Bytes.atoi l.port), .str (bytes "typ") ]

def text (l : Line) : Bytes :=
  bytes "a=candidate:" ++
    (l.foundation ++ (Token.row l.tokens ++ (Token.row [.str l.token] ++ l.extensions)))

theorem text_eq (l : Line) :
    l.text = bytes "a=candidate:" ++ (l.foundation ++ ([32] ++ (l.component ++ ([32] ++
      (l.transport ++ ([32] ++ (l.priority ++ ([32] ++ (l.address ++ ([32] ++ (l.port ++
        ([32] ++ (bytes "typ" ++ ([32] ++ (l.token ++ l.extensions))))))))))))))) := by
  simp [text, tokens, Token.row, Token.text]

/-- Words and numbers stand where they are to stand, and no NUL does. -/
structure WellFormed (l : Line) : Prop where
  foundation : IsWord l.foundation
  tokens : ∀ t ∈ l.tokens, t.Reads
  token : IsWord l.token
  extensions : EndsWord l.extensions
  noNul : 0 ∉ l.text

/-! ### Alphabets -/

/-- The characters of IPv4 and IPv6 addresses. -/
def addressChar (c : UInt8) : Bool :=
  Bytes.isDigit c || (65 ≤ c && c ≤ 70) || (97 ≤ c && c ≤ 102) || c == 46 || c == 58

/-- A visible character. -/
theorem of_visible {c : UInt8} (h : 32 < c) : Bytes.isSpace c = false ∧ c ≠ 0 := by
  refine ⟨?_, fun heq => absurd h (by rw [heq]; decide)⟩
  simp only [Bytes.isSpace, Bool.or_eq_false_iff, Bool.and_eq_false_iff, decide_eq_false_iff_not,
    beq_eq_false_iff_ne, ne_eq, UInt8.le_iff_toNat_le, UInt8.lt_iff_toNat_lt,
    ← UInt8.toNat_inj] at h ⊢
  have h32 : (32 : UInt8).toNat = 32 := rfl
  have h13 : (13 : UInt8).toNat = 13 := rfl
  omega

theorem visible_of_addressChar {c : UInt8} (h : addressChar c = true) : 32 < c := by
  simp only [addressChar, Bytes.isDigit, Bool.or_eq_true, Bool.and_eq_true,
    decide_eq_true_eq, beq_iff_eq, UInt8.le_iff_toNat_le, UInt8.lt_iff_toNat_lt,
    ← UInt8.toNat_inj] at h ⊢
  have h32 : (32 : UInt8).toNat = 32 := rfl
  have h46 : (46 : UInt8).toNat = 46 := rfl
  have h48 : (48 : UInt8).toNat = 48 := rfl
  have h58 : (58 : UInt8).toNat = 58 := rfl
  have h65 : (65 : UInt8).toNat = 65 := rfl
  have h97 : (97 : UInt8).toNat = 97 := rfl
  omega

theorem visible_of_isDigit {c : UInt8} (h : Bytes.isDigit c = true) : 32 < c :=
  visible_of_addressChar (by rw [addressChar, h]; rfl)

theorem isWord_of_visible {w : Bytes} (hne : w ≠ []) (hw : ∀ c ∈ w, 32 < c) : IsWord w :=
  ⟨hne, fun c hc => (of_visible (hw c hc)).1⟩

theorem noNul_of_visible {w : Bytes} (hw : ∀ c ∈ w, 32 < c) : 0 ∉ w :=
  fun h => (of_visible (hw 0 h)).2 rfl

/-- A number is visible as well. -/
theorem visible_of_isInt {t : Bytes} {n : Int} (ht : IsInt t n) : ∀ c ∈ t, 32 < c := by
  intro c hc
  rcases ht.isDigit_of_mem hc with rfl | hdigit
  · decide
  · exact visible_of_isDigit hdigit

variable {l : Line}

/-- The words one by one. -/
theorem wellFormed_of (hfoundation : l.foundation ≠ [] ∧ ∀ c ∈ l.foundation, 32 < c)
    (hcomponent : IsInt l.component (Bytes.atoi l.component))
    (htransport : IsWord l.transport ∧ 0 ∉ l.transport)
    (hpriority : IsInt l.priority (Bytes.atoi l.priority))
    (haddress : l.address ≠ [] ∧ ∀ c ∈ l.address, 32 < c)
    (hport : IsInt l.port (Bytes.atoi l.port)) (htoken : IsWord l.token ∧ 0 ∉ l.token)
    (hextensions : EndsWord l.extensions ∧ 0 ∉ l.extensions) : l.WellFormed := by
  refine ⟨isWord_of_visible hfoundation.1 hfoundation.2, ?_, htoken.1, hextensions.1, ?_⟩
  · intro t ht
    simp only [tokens, List.mem_cons, List.not_mem_nil, or_false] at ht
    rcases ht with rfl | rfl | rfl | rfl | rfl | rfl
    · exact hcomponent
    · exact htransport.1
    · exact hpriority
    · exact isWord_of_visible haddress.1 haddress.2
    · exact hport
    · show IsWord (bytes "typ")
      decide
  · have hlabel : 0 ∉ bytes "a=candidate:" := by decide
    have htyp : 0 ∉ bytes "typ" := by decide
    rw [text_eq]
    simp [hlabel, htyp, noNul_of_visible hfoundation.2, noNul_of_visible haddress.2,
      noNul_of_visible (visible_of_isInt hcomponent), noNul_of_visible (visible_of_isInt hpriority),
      noNul_of_visible (visible_of_isInt hport), htransport.2, htoken.2, hextensions.2]

/-! ### Scanning -/

theorem scan_text (h : l.WellFormed) :
    Candidate.scan l.text = .str l.foundation :: l.tokens.map Token.value := by
  have hrest : EndsWord (Token.row [.str l.token] ++ l.extensions) :=
    Token.endsWord_row h.extensions
  rw [Candidate.scan, Bytes.cStr_eq_self h.noNul, text, Candidate.format, scanf_literal,
    scanf_str h.foundation (Token.endsWord_row hrest)]
  exact congrArg _ (Token.scanf_tokens h.tokens hrest)

/-- What is made of the line, but for the type the values that stand in it. -/
theorem ofString_text {α : Type} (setFromString : Bytes → Option α) (locals : Candidate.Locals)
    (h : l.WellFormed) :
    Candidate.ofString setFromString locals l.text =
      { type := Candidate.type l.text
        transport := .udp
        addr := (setFromString l.address).map fun a => (a, UInt16.ofInt (Bytes.atoi l.port))
        priority := UInt32.ofInt (Bytes.atoi l.priority)
        componentID := UInt32.ofInt (Bytes.atoi l.component)
        foundation := l.foundation } := by
  rw [Candidate.ofString, scan_text h]
  rfl

theorem fits_text (h : l.WellFormed) :
    Candidate.Fits l.text ↔
      l.foundation.length < 33 ∧ l.transport.length < 32 ∧ l.address.length < 16 := by
  rw [Candidate.Fits, scan_text h]
  have hzip : (Candidate.words (.str l.foundation :: l.tokens.map Token.value)).zip
        Candidate.buffers =
      [(l.foundation, 33), (l.transport, 32), (l.address, 16), (bytes "typ", 128)] := rfl
  have htyp : (bytes "typ").length < 128 := by decide
  rw [hzip]
  simp [htyp]

/-! ## Words that `strstr` looks for -/

/-- A word that stands in no number, in no address and in none of the fixed words. -/
def Keyword (w : Bytes) : Prop :=
  IsWord w ∧ 58 ∉ w ∧ Bytes.contains (bytes "a=candidate") w = false ∧
    Bytes.contains (bytes "typ") w = false ∧ ∃ c ∈ w, c ≠ 45 ∧ addressChar c = false

instance (w : Bytes) : Decidable (Keyword w) :=
  inferInstanceAs (Decidable (IsWord w ∧ 58 ∉ w ∧ Bytes.contains (bytes "a=candidate") w = false ∧
    Bytes.contains (bytes "typ") w = false ∧ ∃ c ∈ w, c ≠ 45 ∧ addressChar c = false))

/-- The words in a line that a keyword can stand in besides the type. -/
def Mentions (l : Line) (w : Bytes) : Prop :=
  Bytes.contains l.foundation w ∨ Bytes.contains l.transport w ∨ Bytes.contains l.extensions w

instance (l : Line) (w : Bytes) : Decidable (l.Mentions w) := inferInstanceAs (Decidable (_ ∨ _))

theorem not_infix_number {w t : Bytes} {n : Int} (hw : Keyword w) (ht : IsInt t n) :
    ¬ w <:+: t := by
  obtain ⟨c, hc, hsign, hletter⟩ := hw.2.2.2.2
  intro hinside
  rcases ht.isDigit_of_mem (hinside.subset hc) with heq | hdigit
  · exact hsign heq
  · rw [addressChar, hdigit] at hletter
    cases hletter

theorem contains_text {w : Bytes} (hw : Keyword w) (h : l.WellFormed)
    (haddress : ∀ c ∈ l.address, addressChar c = true) :
    Bytes.contains (Bytes.cStr l.text) w = true ↔
      l.Mentions w ∨ Bytes.contains l.token w = true := by
  have hnumber : ∀ t n, Token.int t n ∈ l.tokens → ¬ w <:+: t :=
    fun t n ht => not_infix_number hw (h.tokens _ ht)
  obtain ⟨hword, hcolon, hlabel, htyp, c, hc, -, hletter⟩ := hw
  have hnoAddress : ¬ w <:+: l.address := by
    intro hinside
    rw [haddress c (hinside.subset hc)] at hletter
    cases hletter
  have hnoTyp : ¬ w <:+: bytes "typ" := by
    rw [← Bytes.contains_iff_isInfix, htyp]
    decide
  have hstart : bytes "a=candidate:" = bytes "a=candidate" ++ [58] := by decide
  have hwords : (∃ t ∈ l.tokens, w <:+: t.text) ↔ w <:+: l.transport := by
    have hcomponent := hnumber l.component (Bytes.atoi l.component) (by simp [tokens])
    have hpriority := hnumber l.priority (Bytes.atoi l.priority) (by simp [tokens])
    have hport := hnumber l.port (Bytes.atoi l.port) (by simp [tokens])
    simp [tokens, Token.text, hcomponent, hpriority, hport, hnoAddress, hnoTyp]
  have htail : w <:+: Token.row [.str l.token] ++ l.extensions ↔
      w <:+: l.token ∨ w <:+: l.extensions := by
    have hrow := @Token.infix_row w hword [.str l.token] [] l.extensions h.extensions
    have hnil : ¬ w <:+: [] := fun hinside => hword.1 (List.infix_nil.1 hinside)
    rw [List.nil_append, List.exists_mem_cons_iff] at hrow
    simpa [hnil, Token.text] using hrow
  have hlabelled : w <:+: bytes "a=candidate" ++ 58 :: (l.foundation ++ (Token.row l.tokens ++
        (Token.row [.str l.token] ++ l.extensions))) ↔
      w <:+: l.foundation ++ (Token.row l.tokens ++
        (Token.row [.str l.token] ++ l.extensions)) := by
    constructor
    · intro hinside
      rcases Bytes.infix_of_append_cons hcolon hinside with hinside | hinside
      · rw [← Bytes.contains_iff_isInfix, hlabel] at hinside
        cases hinside
      · exact hinside
    · intro hinside
      exact hinside.trans ((List.suffix_cons 58 _).trans (List.suffix_append ..)).isInfix
  rw [Bytes.cStr_eq_self h.noNul, Bytes.contains_iff_isInfix, text, hstart, List.append_assoc,
    List.singleton_append, hlabelled, Token.infix_row hword (Token.endsWord_row h.extensions),
    hwords, htail, Mentions]
  simp only [Bytes.contains_iff_isInfix]
  tauto

end Line

end MediaGateway.Ice
