import MediaGateway.Ice.Line
import MediaGateway.Sdp.Bounds
import MediaGateway.WebAgent

/-!
# Candidates from the browser

Which candidate lines of a browser are parsed into what stands in them.

`sscanf` stores the transport and the address in buffers of 32 and 16 bytes, and the type
is looked for in the whole line, a relayed one under a word that no browser writes.
`remoteCandidates_iff` is about every line and every list of lines: `Readable` is what
goes well.
-/

namespace MediaGateway.Ice

open Lib

/-- Digits that stand for a number below a bound. -/
def IsNumber (bound : Nat) (ds : Bytes) : Prop :=
  ds ≠ [] ∧ (∀ c ∈ ds, Bytes.isDigit c = true) ∧ Bytes.digitsValue ds < bound

instance (bound : Nat) (ds : Bytes) : Decidable (IsNumber bound ds) :=
  inferInstanceAs (Decidable (_ ∧ _ ∧ _))

/-- The word of a type. -/
def typeToken : CandidateType → Bytes
  | .host => bytes "host"
  | .serverReflexive => bytes "srflx"
  | .peerReflexive => bytes "prflx"
  | .relayed => bytes "relay"

/-- A candidate line of RFC 5245. -/
structure RemoteLine where
  foundation : Bytes
  component : Bytes
  transport : Bytes
  priority : Bytes
  address : Bytes
  port : Bytes
  type : CandidateType
  /-- attributes behind the type, and the end of the line -/
  extensions : Bytes
  hfoundation : foundation ≠ [] ∧ foundation.length ≤ 32 ∧
    ∀ c ∈ foundation, Checked.iceChar c = true
  hcomponent : IsNumber (2 ^ 32) component
  htransport : IsWord transport ∧ 0 ∉ transport
  hpriority : IsNumber (2 ^ 32) priority
  haddress : address ≠ [] ∧ ∀ c ∈ address, Line.addressChar c = true
  hport : IsNumber (2 ^ 16) port
  hextensions : EndsWord extensions ∧ 0 ∉ extensions

namespace RemoteLine

def line (l : RemoteLine) : Line where
  foundation := l.foundation
  component := l.component
  transport := l.transport
  priority := l.priority
  address := l.address
  port := l.port
  token := typeToken l.type
  extensions := l.extensions

def text (l : RemoteLine) : Bytes := l.line.text

/-- What is written in the line stands in the candidate. -/
structure Yields {α : Type} (setFromString : Bytes → Option α) (l : RemoteLine)
    (candidate : NiceCandidate α) : Prop where
  foundation : candidate.foundation = l.foundation
  component : candidate.componentID.toNat = Bytes.digitsValue l.component
  priority : candidate.priority.toNat = Bytes.digitsValue l.priority
  addr : candidate.addr =
    (setFromString l.address).map fun a => (a, UInt16.ofNat (Bytes.digitsValue l.port))
  type : candidate.type = l.type

/-- The words that are looked for before the type is found stand nowhere else in the
line, and `relayed` has to. -/
def TypeSeen (l : RemoteLine) : Prop :=
  match l.type with
  | .host => True
  | .serverReflexive => ¬ l.line.Mentions (bytes "host")
  | .peerReflexive => ¬ l.line.Mentions (bytes "host") ∧ ¬ l.line.Mentions (bytes "srflx")
  | .relayed => l.line.Mentions (bytes "relayed") ∧ ¬ l.line.Mentions (bytes "host") ∧
      ¬ l.line.Mentions (bytes "srflx") ∧ ¬ l.line.Mentions (bytes "prflx")

/-- The lines that are parsed into what stands in them. -/
def Readable (l : RemoteLine) : Prop :=
  l.transport.length < 32 ∧ l.address.length < 16 ∧ l.TypeSeen

/-! ## Scanning a line -/

theorem visible_of_iceChar {c : UInt8} (h : Checked.iceChar c = true) : 32 < c := by
  simp only [Checked.iceChar, Bytes.isDigit, Bool.or_eq_true, Bool.and_eq_true, decide_eq_true_eq,
    beq_iff_eq, UInt8.le_iff_toNat_le, UInt8.lt_iff_toNat_lt, ← UInt8.toNat_inj] at h ⊢
  have h32 : (32 : UInt8).toNat = 32 := rfl
  have h43 : (43 : UInt8).toNat = 43 := rfl
  have h47 : (47 : UInt8).toNat = 47 := rfl
  have h48 : (48 : UInt8).toNat = 48 := rfl
  have h65 : (65 : UInt8).toNat = 65 := rfl
  have h97 : (97 : UInt8).toNat = 97 := rfl
  omega

theorem atoi_of_isNumber {bound : Nat} {ds : Bytes} (h : IsNumber bound ds) :
    Bytes.atoi ds = Bytes.toInt32 false (Bytes.digitsValue ds) := by
  have hscan := Bytes.scanDecimal_digits h.2.1 h.1 Bytes.endsDigits_nil
  rw [List.append_nil] at hscan
  rw [Bytes.atoi, hscan]

theorem isInt_of_isNumber {bound : Nat} {ds : Bytes} (h : IsNumber bound ds) :
    IsInt ds (Bytes.atoi ds) := by
  rw [atoi_of_isNumber h]
  exact .unsigned ds h.1 h.2.1

theorem wellFormed (l : RemoteLine) : l.line.WellFormed := by
  have htoken : IsWord (typeToken l.type) ∧ 0 ∉ typeToken l.type := by
    cases l.type <;> decide
  refine Line.wellFormed_of ⟨l.hfoundation.1, fun c hc => ?_⟩ (isInt_of_isNumber l.hcomponent)
    l.htransport (isInt_of_isNumber l.hpriority) ⟨l.haddress.1, fun c hc => ?_⟩
    (isInt_of_isNumber l.hport) htoken l.hextensions
  · exact visible_of_iceChar (l.hfoundation.2.2 c hc)
  · exact Line.visible_of_addressChar (l.haddress.2 c hc)

theorem type_text (l : RemoteLine) : Candidate.type l.text = l.type ↔ l.TypeSeen := by
  have hcontains : ∀ w, Line.Keyword w → (Bytes.contains (Bytes.cStr l.text) w = true ↔
      l.line.Mentions w ∨ Bytes.contains (typeToken l.type) w = true) :=
    fun w hw => Line.contains_text hw l.wellFormed l.haddress.2
  simp only [Candidate.type, hcontains (bytes "host") (by decide),
    hcontains (bytes "srflx") (by decide), hcontains (bytes "prflx") (by decide),
    hcontains (bytes "relayed") (by decide), TypeSeen]
  cases l.type with
  | host =>
    have hhost : Bytes.contains (typeToken .host) (bytes "host") = true := by decide
    simp [hhost]
  | serverReflexive =>
    have hhost : Bytes.contains (typeToken .serverReflexive) (bytes "host") = false := by decide
    have hsrflx : Bytes.contains (typeToken .serverReflexive) (bytes "srflx") = true := by decide
    by_cases h : l.line.Mentions (bytes "host") <;> simp [hhost, hsrflx, h]
  | peerReflexive =>
    have hhost : Bytes.contains (typeToken .peerReflexive) (bytes "host") = false := by decide
    have hsrflx : Bytes.contains (typeToken .peerReflexive) (bytes "srflx") = false := by decide
    have hprflx : Bytes.contains (typeToken .peerReflexive) (bytes "prflx") = true := by decide
    by_cases h : l.line.Mentions (bytes "host") <;>
      by_cases h' : l.line.Mentions (bytes "srflx") <;> simp [hhost, hsrflx, hprflx, h, h']
  | relayed =>
    have hnone : ∀ w ∈ [bytes "host", bytes "srflx", bytes "prflx", bytes "relayed"],
        Bytes.contains (typeToken .relayed) w = false := by decide
    simp only [List.forall_mem_cons] at hnone
    obtain ⟨hhost, hsrflx, hprflx, hrelayed, -⟩ := hnone
    by_cases h : l.line.Mentions (bytes "host") <;>
      by_cases h' : l.line.Mentions (bytes "srflx") <;>
      by_cases hp : l.line.Mentions (bytes "prflx") <;>
      by_cases hr : l.line.Mentions (bytes "relayed") <;>
      simp [hhost, hsrflx, hprflx, hrelayed, h, h', hp, hr]

section

variable {α : Type} (setFromString : Bytes → Option α) (locals : Candidate.Locals)

theorem yields_iff (l : RemoteLine) :
    Yields setFromString l (Candidate.ofString setFromString locals l.text) ↔ l.TypeSeen := by
  rw [← type_text, text, Line.ofString_text setFromString locals l.wellFormed]
  constructor
  · exact fun h => h.type
  · intro htype
    refine ⟨rfl, ?_, ?_, ?_, htype⟩
    · show (UInt32.ofInt (Bytes.atoi l.component)).toNat = _
      rw [atoi_of_isNumber l.hcomponent, ofInt_toInt32 l.hcomponent.2.2, UInt32.toNat_ofNat']
      exact Nat.mod_eq_of_lt l.hcomponent.2.2
    · show (UInt32.ofInt (Bytes.atoi l.priority)).toNat = _
      rw [atoi_of_isNumber l.hpriority, ofInt_toInt32 l.hpriority.2.2, UInt32.toNat_ofNat']
      exact Nat.mod_eq_of_lt l.hpriority.2.2
    · have hlt := l.hport.2.2
      have hmod : ((Bytes.digitsValue l.port : Int) % 2 ^ 16).toNat = Bytes.digitsValue l.port := by
        omega
      show (setFromString l.address).map (fun a => (a, UInt16.ofInt (Bytes.atoi l.port))) = _
      rw [atoi_of_isNumber l.hport, toInt32_of_lt (by omega), UInt16.ofInt, hmod]

theorem readable_iff (l : RemoteLine) :
    (Candidate.Fits l.text ∧
      Yields setFromString l (Candidate.ofString setFromString locals l.text)) ↔ l.Readable := by
  have hfoundation : l.line.foundation.length < 33 := Nat.lt_succ_of_le l.hfoundation.2.1
  rw [yields_iff, text, Line.fits_text l.wellFormed, Readable]
  simp only [hfoundation, true_and, and_assoc]
  rfl

end

/-- The lines of one type are handed over when they are read as that type. -/
theorem setCandidates_of_typeSeen (component : Nat) {ls : List RemoteLine}
    (h : ∀ l ∈ ls, l.TypeSeen) :
    WebAgent.setCandidates component (ls.map text) =
      .setRemoteCandidates component (ls.map text)
        ((ls.filter fun l => l.type == CandidateType.host).map text) := by
  rw [WebAgent.setCandidates, List.filter_map]
  congr 2
  refine List.filter_congr fun l hl => ?_
  rw [Function.comp_apply, (type_text l).2 (h l hl)]

/-- Every line of two lists fits and yields what stands in it, and those of type host are
handed over, exactly when every line is readable. -/
theorem remoteCandidates_iff {α : Type} (setFromString : Bytes → Option α)
    (locals : Candidate.Locals) (w : WebAgent) (rtp rtcp : List RemoteLine) :
    ((∀ l ∈ rtp ++ rtcp, Candidate.Fits l.text ∧
        Yields setFromString l (Candidate.ofString setFromString locals l.text)) ∧
      { w with
        remoteRTPCandidates := rtp.map text
        remoteRTCPCandidates := rtcp.map text }.setRemoteCandidates =
        [ .setRemoteCandidates 1 (rtp.map text)
            ((rtp.filter fun l => l.type == CandidateType.host).map text)
        , .setRemoteCandidates 2 (rtcp.map text)
            ((rtcp.filter fun l => l.type == CandidateType.host).map text) ]) ↔
      ∀ l ∈ rtp ++ rtcp, l.Readable := by
  simp only [readable_iff]
  refine and_iff_left_of_imp fun h => ?_
  have hrtp := setCandidates_of_typeSeen 1 fun l hl => (h l (List.mem_append_left rtcp hl)).2.2
  have hrtcp := setCandidates_of_typeSeen 2 fun l hl => (h l (List.mem_append_right rtp hl)).2.2
  rw [WebAgent.setRemoteCandidates, hrtp, hrtcp]

/-- A candidate at a relay. -/
def relayLine : RemoteLine where
  foundation := bytes "3"
  component := bytes "1"
  transport := bytes "udp"
  priority := bytes "41885439"
  address := bytes "10.0.0.9"
  port := bytes "3478"
  type := .relayed
  extensions := bytes " raddr 10.0.0.1 rport 5000 generation 0"
  hfoundation := by decide
  hcomponent := by decide
  htransport := by decide
  hpriority := by decide
  haddress := by decide
  hport := by decide
  hextensions := by decide

/-- It is read as a host candidate and handed over. -/
theorem not_remoteCandidates :
    WebAgent.setCandidates 1 [relayLine.text] =
        .setRemoteCandidates 1 [relayLine.text] [relayLine.text] ∧
      ¬ ∀ l : RemoteLine, Candidate.Fits l.text ∧
        Yields some l (Candidate.ofString some { ip := [], port := 0 } l.text) := by
  have htype : Candidate.type relayLine.text = .host := by decide +kernel
  refine ⟨?_, fun h => ?_⟩
  · rw [WebAgent.setCandidates, List.filter_cons_of_pos (by rw [htype]; rfl), List.filter_nil]
  · have hyields := (h relayLine).2.type
    have hhost : (Candidate.ofString some { ip := [], port := 0 } relayLine.text).type = .host :=
      htype
    rw [hhost] at hyields
    cases hyields

end RemoteLine

end MediaGateway.Ice
