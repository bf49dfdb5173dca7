import MediaGateway.Ice.Line

/-!
# Candidates that are printed and parsed

`candidateGatheringDoneCallback` in `webagent.cpp` prints a line for every local candidate
with an IPv4 address, and `Candidate(const char[])` in `candidate.cpp` parses such lines.
`ofString_candidateLine` is that the candidate comes back.

`component_id` and `priority` are unsigned and are printed and scanned with `%d`.  The
conversions of addresses belong to libnice: `toString` is `nice_address_to_string`.
-/

namespace MediaGateway.Ice

open Lib

/-! ## Printing -/

/-- An `unsigned int` as `%d` takes it. -/
def signed (n : UInt32) : Int := Int.bmod n.toNat (2 ^ 32)

/-- The words for the types, each with the blank behind it. -/
def typeWord : CandidateType → Bytes
  | .host => bytes "host "
  | .serverReflexive => bytes "srflx "
  | .peerReflexive => bytes "prflx "
  | .relayed => bytes "relayed "

/-- The line for one candidate.  None is made for an address with a colon, and libnice
has no text for one that was not set. -/
def candidateLine {α : Type} (toString : α → Bytes) (candidate : NiceCandidate α) :
    Option Bytes :=
  match candidate.addr with
  | none => none
  | some (addr, port) =>
    let string_addr := toString addr
    if Bytes.contains string_addr (bytes ":") then
      none
    else
      some (bytes "a=candidate:" ++ candidate.foundation ++ bytes " " ++
        Bytes.ofInt (signed candidate.componentID) ++ bytes " " ++
        (if candidate.transport = .udp then bytes "udp " else []) ++
        Bytes.ofInt (signed candidate.priority) ++ bytes " " ++
        string_addr ++ bytes " " ++
        Bytes.ofInt port.toNat ++ bytes " " ++
        bytes "typ " ++ typeWord candidate.type ++ bytes "generation 0\r\n")

/-- `localCandidates` after `candidateGatheringDoneCallback`, `gathered` being the candidates
that ICE has for each component. -/
def localCandidates {α : Type} (toString : α → Bytes) (gathered : Nat → List (NiceCandidate α)) :
    List Bytes :=
  (gathered 1 ++ gathered 2).filterMap (candidateLine toString)

/-- The text of an IPv4 address. -/
def IsDotted (text : Bytes) : Prop :=
  ∃ a b c d : UInt8, text = Bytes.digits a.toNat ++ 46 :: (Bytes.digits b.toNat ++
    46 :: (Bytes.digits c.toNat ++ 46 :: Bytes.digits d.toNat))

/-! ## What is printed -/

theorem signed_range (n : UInt32) : -2 ^ 31 ≤ signed n ∧ signed n < 2 ^ 31 := by
  have hlow := @Int.le_bmod n.toNat (2 ^ 32) (by decide)
  have hhigh := @Int.bmod_lt n.toNat (2 ^ 32) (by decide)
  unfold signed
  omega

theorem ofInt_signed (n : UInt32) : UInt32.ofInt (signed n) = n := by
  have hlt := n.toNat_lt
  have hmod : ((n.toNat : Int) % 2 ^ 32).toNat = n.toNat := by omega
  have hunsigned : UInt32.ofInt (n.toNat : Int) = n := by
    rw [UInt32.ofInt, hmod, UInt32.ofNat_toNat]
  exact (ofInt_bmod n.toNat).trans hunsigned

theorem ofInt_toNat (n : UInt16) : UInt16.ofInt n.toNat = n := by
  have hlt := n.toNat_lt
  have hmod : ((n.toNat : Int) % 2 ^ 16).toNat = n.toNat := by omega
  rw [UInt16.ofInt, hmod, UInt16.ofNat_toNat]

theorem length_digits_byte (n : UInt8) : (Bytes.digits n.toNat).length ≤ 3 := by
  have hlt := n.toNat_lt
  exact Bytes.length_digits_le (by decide) (by omega)

namespace IsDotted

variable {text : Bytes}

theorem dot_or_isDigit (h : IsDotted text) : ∀ c ∈ text, c = 46 ∨ Bytes.isDigit c = true := by
  rcases h with ⟨a, b, c, d, rfl⟩
  intro e he
  simp only [List.mem_append, List.mem_cons] at he
  rcases he with he | rfl | he | rfl | he | rfl | he
  · exact .inr (Bytes.isDigit_of_mem_digits he)
  · exact .inl rfl
  · exact .inr (Bytes.isDigit_of_mem_digits he)
  · exact .inl rfl
  · exact .inr (Bytes.isDigit_of_mem_digits he)
  · exact .inl rfl
  · exact .inr (Bytes.isDigit_of_mem_digits he)

theorem length_le (h : IsDotted text) : text.length ≤ 15 := by
  rcases h with ⟨a, b, c, d, rfl⟩
  have ha := length_digits_byte a
  have hb := length_digits_byte b
  have hc := length_digits_byte c
  have hd := length_digits_byte d
  simp only [List.length_append, List.length_cons]
  omega

theorem ne_nil (h : IsDotted text) : text ≠ [] := by
  rcases h with ⟨a, b, c, d, rfl⟩
  exact List.append_ne_nil_of_left_ne_nil (Bytes.digits_ne_nil _) _

end IsDotted

/-! ## The line -/

/-- What is behind `typ`. -/
def printedToken : CandidateType → Bytes
  | .host => bytes "host"
  | .serverReflexive => bytes "srflx"
  | .peerReflexive => bytes "prflx"
  | .relayed => bytes "relayed"

/-- A local UDP candidate as a row of words. -/
def printedLine {α : Type} (candidate : NiceCandidate α) (string_addr : Bytes) (port : UInt16) :
    Line where
  foundation := candidate.foundation
  component := Bytes.ofInt (signed candidate.componentID)
  transport := bytes "udp"
  priority := Bytes.ofInt (signed candidate.priority)
  address := string_addr
  port := Bytes.ofInt port.toNat
  token := printedToken candidate.type
  extensions := [32] ++ bytes "generation 0\r\n"

section

variable {α : Type} {candidate : NiceCandidate α} {string_addr : Bytes} {port : UInt16}

theorem candidateLine_eq {toString : α → Bytes} {addr : α}
    (haddr : candidate.addr = some (addr, port)) (hdotted : IsDotted (toString addr))
    (hudp : candidate.transport = .udp) :
    candidateLine toString candidate =
      some (printedLine candidate (toString addr) port).text := by
  have hcolon : Bytes.contains (toString addr) (bytes ":") = false := by
    rw [← Bool.not_eq_true, Bytes.contains_iff_isInfix]
    intro hinside
    rcases hdotted.dot_or_isDigit 58 (hinside.subset (by decide)) with h | h <;> cases h
  have hword : typeWord candidate.type = printedToken candidate.type ++ [32] := by
    cases candidate.type <;> decide
  have hudpWord : bytes "udp " = bytes "udp" ++ [32] := by decide
  have htyp : bytes "typ " = bytes "typ" ++ [32] := by decide
  have hblank : bytes " " = [32] := by decide
  rw [candidateLine, haddr, Line.text_eq]
  simp only [hcolon, hudp, if_true, Bool.false_eq_true, if_false, hword, hudpWord, htyp, hblank,
    printedLine, List.append_assoc]

theorem isInt_atoi_ofInt {n : Int} (hrange : -2 ^ 31 ≤ n ∧ n < 2 ^ 31) :
    IsInt (Bytes.ofInt n) (Bytes.atoi (Bytes.ofInt n)) := by
  rw [Bytes.atoi_ofInt hrange.1 hrange.2]
  exact isInt_ofInt hrange.1 hrange.2

theorem port_range (port : UInt16) :
    -2 ^ 31 ≤ (port.toNat : Int) ∧ (port.toNat : Int) < 2 ^ 31 := by
  have hlt := port.toNat_lt
  omega

/-- A foundation of digits and an IPv4 address. -/
structure Plain (candidate : NiceCandidate α) (string_addr : Bytes) : Prop where
  nonempty : candidate.foundation ≠ []
  short : candidate.foundation.length ≤ 32
  digits : ∀ c ∈ candidate.foundation, Bytes.isDigit c = true
  dotted : IsDotted string_addr

theorem Plain.addressChar (h : Plain candidate string_addr) :
    ∀ c ∈ string_addr, Line.addressChar c = true := by
  intro c hc
  rcases h.dotted.dot_or_isDigit c hc with rfl | hdigit
  · decide
  · rw [Line.addressChar, hdigit]
    rfl

theorem printedLine_wellFormed (h : Plain candidate string_addr) (port : UInt16) :
    (printedLine candidate string_addr port).WellFormed := by
  have htoken : IsWord (printedToken candidate.type) ∧ 0 ∉ printedToken candidate.type := by
    cases candidate.type <;> decide
  have hcomponent := isInt_atoi_ofInt (signed_range candidate.componentID)
  have hpriority := isInt_atoi_ofInt (signed_range candidate.priority)
  have hport := isInt_atoi_ofInt (port_range port)
  have htransport : IsWord (bytes "udp") ∧ 0 ∉ bytes "udp" := by decide
  have hextensions : EndsWord ([32] ++ bytes "generation 0\r\n") ∧
      0 ∉ [32] ++ bytes "generation 0\r\n" := by decide
  apply Line.wellFormed_of <;> simp only [printedLine]
  · exact ⟨h.nonempty, fun c hc => Line.visible_of_isDigit (h.digits c hc)⟩
  · exact hcomponent
  · exact htransport
  · exact hpriority
  · exact ⟨h.dotted.ne_nil, fun c hc => Line.visible_of_addressChar (h.addressChar c hc)⟩
  · exact hport
  · exact htoken
  · exact hextensions

/-- The only keyword in the line is the type. -/
theorem contains_printedLine (h : Plain candidate string_addr) (port : UInt16) {w : Bytes}
    (hw : Line.Keyword w)
    (hfixed : Bytes.contains (bytes "udp") w = false ∧
      Bytes.contains ([32] ++ bytes "generation 0\r\n") w = false) :
    Bytes.contains (Bytes.cStr (printedLine candidate string_addr port).text) w =
      Bytes.contains (printedToken candidate.type) w := by
  have hfoundation : Bytes.contains candidate.foundation w = false := by
    rw [← Bool.not_eq_true, Bytes.contains_iff_isInfix]
    exact Line.not_infix_number hw (.unsigned _ h.nonempty h.digits)
  have hmentions : ¬ (printedLine candidate string_addr port).Mentions w := by
    rw [Line.Mentions]
    simp only [printedLine, hfoundation, hfixed]
    decide
  have hcontains := Line.contains_text hw (printedLine_wellFormed h port) h.addressChar
  rw [or_iff_right hmentions] at hcontains
  exact Bool.eq_iff_iff.2 hcontains

theorem type_printedLine (h : Plain candidate string_addr) (port : UInt16) :
    Candidate.type (printedLine candidate string_addr port).text = candidate.type := by
  have htype : Candidate.type (printedLine candidate string_addr port).text =
      Candidate.type (printedToken candidate.type) := by
    have hword : Bytes.cStr (printedToken candidate.type) = printedToken candidate.type := by
      cases candidate.type <;> decide
    have hhost := contains_printedLine h port (w := bytes "host") (by decide) (by decide)
    have hsrflx := contains_printedLine h port (w := bytes "srflx") (by decide) (by decide)
    have hprflx := contains_printedLine h port (w := bytes "prflx") (by decide) (by decide)
    have hrelayed := contains_printedLine h port (w := bytes "relayed") (by decide) (by decide)
    simp only [Candidate.type, hhost, hsrflx, hprflx, hrelayed, hword]
  rw [htype]
  cases candidate.type <;> decide

/-- The candidate comes back from the line that is printed for it. -/
theorem ofString_candidateLine {toString : α → Bytes} {setFromString : Bytes → Option α}
    (locals : Candidate.Locals) {gathered : Nat → List (NiceCandidate α)}
    (hgathered : candidate ∈ gathered 1 ++ gathered 2) {addr : α}
    (haddr : candidate.addr = some (addr, port)) (hplain : Plain candidate (toString addr))
    (hread : setFromString (toString addr) = some addr) (hudp : candidate.transport = .udp) :
    ∃ line ∈ localCandidates toString gathered,
      candidateLine toString candidate = some line ∧ Candidate.Fits line ∧
        Candidate.ofString setFromString locals line = candidate := by
  have hline := candidateLine_eq haddr hplain.dotted hudp
  refine ⟨_, List.mem_filterMap.2 ⟨candidate, hgathered, hline⟩, hline, ?_, ?_⟩
  · rw [Line.fits_text (printedLine_wellFormed hplain port)]
    have hshort := hplain.short
    have hlength := hplain.dotted.length_le
    simp only [printedLine]
    exact ⟨by omega, by decide, by omega⟩
  · have hparsed := Line.ofString_text setFromString locals (printedLine_wellFormed hplain port)
    have hcomponent : UInt32.ofInt (Bytes.atoi (Bytes.ofInt (signed candidate.componentID))) =
        candidate.componentID := by
      rw [Bytes.atoi_ofInt (signed_range _).1 (signed_range _).2, ofInt_signed]
    have hpriority : UInt32.ofInt (Bytes.atoi (Bytes.ofInt (signed candidate.priority))) =
        candidate.priority := by
      rw [Bytes.atoi_ofInt (signed_range _).1 (signed_range _).2, ofInt_signed]
    have hport : UInt16.ofInt (Bytes.atoi (Bytes.ofInt port.toNat)) = port := by
      rw [Bytes.atoi_ofInt (port_range _).1 (port_range _).2, ofInt_toNat]
    rw [type_printedLine hplain] at hparsed
    rw [hparsed]
    simp only [printedLine, hcomponent, hpriority, hport, hread, Option.map_some, ← haddr, ← hudp]

end

/-- `inet_ntop`, the address being its four bytes. -/
def dotted : UInt8 × UInt8 × UInt8 × UInt8 → Bytes
  | (a, b, c, d) => Bytes.digits a.toNat ++ 46 :: (Bytes.digits b.toNat ++
      46 :: (Bytes.digits c.toNat ++ 46 :: Bytes.digits d.toNat))

/-- `inet_pton`. -/
def ofDotted (text : Bytes) : Option (UInt8 × UInt8 × UInt8 × UInt8) :=
  match (text.splitOn 46).map fun part =>
      (Bytes.scanDecimal part).map fun number => Bytes.digitsValue number.2 with
  | [some a, some b, some c, some d] =>
    if a < 256 ∧ b < 256 ∧ c < 256 ∧ d < 256 then
      some (UInt8.ofNat a, UInt8.ofNat b, UInt8.ofNat c, UInt8.ofNat d)
    else none
  | _ => none

/-- A relayed candidate with the greatest priority, which is printed as `-1`. -/
def relayedCandidate : NiceCandidate (UInt8 × UInt8 × UInt8 × UInt8) where
  type := .relayed
  transport := .udp
  addr := some ((192, 168, 0, 10), 65535)
  priority := 4294967295
  componentID := 2
  foundation := bytes "17"

theorem ofString_candidateLine_relayed :
    ∃ line ∈ localCandidates dotted fun _ => [relayedCandidate],
      candidateLine dotted relayedCandidate = some line ∧ Candidate.Fits line ∧
        Candidate.ofString ofDotted { ip := [], port := 0 } line = relayedCandidate :=
  ofString_candidateLine { ip := [], port := 0 } (by simp) rfl
    ⟨by decide, by decide, by decide, ⟨192, 168, 0, 10, rfl⟩⟩ (by decide +kernel) rfl

end MediaGateway.Ice
