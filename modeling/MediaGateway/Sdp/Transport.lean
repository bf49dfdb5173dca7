import MediaGateway.Lib.Decimal
import MediaGateway.Sdp.Scan

/-!
# Transport addresses

Each media section of an SDP has a transport address of its own: the port of its
`m=` line, and the address of its `c=` line or, without one, of the session's.
`Document` is a text with that structure, its sections in any order and a `c=` line
at either level.

`getRemoteIpAndPort` reads one address, behind the first `c=IN IP4 ` of the text,
and leaves a port as it was when the section is missing.  `ownAddresses_iff` says
for which documents both destinations are right all the same.
-/

namespace MediaGateway.Sdp

open Lib Bytes ImsAgent

/-! ## Documents -/

def connectionLabel : Bytes := bytes "c=IN IP4 "

/-- The `c=` line, if there is one. -/
def connectionLine (connection : Option Bytes) : List Bytes :=
  (connection.map (connectionLabel ++ ·)).toList

/-- A line that is neither a `c=` line nor an `m=` line. -/
def OtherLine (l : Bytes) : Prop := InLine l ∧ ¬ bytes "c=" <+: l ∧ ¬ bytes "m=" <+: l

instance (l : Bytes) : Decidable (OtherLine l) := inferInstanceAs (Decidable (_ ∧ _))

/-- The text of an address. -/
def IsAddress (addr : Bytes) : Prop := addr ≠ [] ∧ InLine addr

instance (addr : Bytes) : Decidable (IsAddress addr) := inferInstanceAs (Decidable (_ ∧ _))

/-- A media section.  `count` is the number of ports behind a slash, where one is
given, and `rest` the transport and the formats. -/
structure Section where
  media : Bytes
  port : Bytes
  count : Bytes
  rest : Bytes
  above : List Bytes
  connection : Option Bytes
  below : List Bytes
  deriving DecidableEq

namespace Section

variable (s : Section)

def mediaLine : Bytes :=
  bytes "m=" ++ (s.media ++ 32 :: (s.port ++ (s.count ++ 32 :: s.rest)))

def lines : List Bytes := s.mediaLine :: (s.above ++ (connectionLine s.connection ++ s.below))

def portNumber : UInt16 := UInt16.ofNat (digitsValue s.port)

structure WellFormed : Prop where
  media : InLine s.media ∧ 32 ∉ s.media
  digits : ∀ c ∈ s.port, isDigit c = true
  nonempty : s.port ≠ []
  range : digitsValue s.port < 65536
  count : EndsDigits s.count ∧ InLine s.count ∧ 32 ∉ s.count
  rest : InLine s.rest
  others : ∀ l ∈ s.above ++ s.below, OtherLine l
  address : ∀ addr ∈ s.connection, IsAddress addr

instance : Decidable s.WellFormed :=
  decidable_of_iff ((InLine s.media ∧ 32 ∉ s.media) ∧ (∀ c ∈ s.port, isDigit c = true) ∧
      s.port ≠ [] ∧ digitsValue s.port < 65536 ∧
      (EndsDigits s.count ∧ InLine s.count ∧ 32 ∉ s.count) ∧ InLine s.rest ∧
      (∀ l ∈ s.above ++ s.below, OtherLine l) ∧ ∀ addr ∈ s.connection, IsAddress addr)
    ⟨fun ⟨h1, h2, h3, h4, h5, h6, h7, h8⟩ => ⟨h1, h2, h3, h4, h5, h6, h7, h8⟩,
      fun ⟨h1, h2, h3, h4, h5, h6, h7, h8⟩ => ⟨h1, h2, h3, h4, h5, h6, h7, h8⟩⟩

end Section

/-- A session description with one audio section and at most one video section, among
any others. -/
structure Document where
  above : List Bytes
  connection : Option Bytes
  below : List Bytes
  sections : List Section
  audio : Section
  video : Option Section
  others : ∀ l ∈ above ++ below, OtherLine l
  address : ∀ addr ∈ connection, IsAddress addr
  wellFormed : ∀ s ∈ sections, s.WellFormed
  /-- A section without a `c=` line relies on the one of the session. -/
  connected : ∀ s ∈ sections, s.connection = none → connection ≠ none
  oneAudio : sections.filter (·.media == bytes "audio") = [audio]
  oneVideo : sections.filter (·.media == bytes "video") = video.toList

namespace Document

variable (d : Document)

def lines : List Bytes :=
  d.above ++ (connectionLine d.connection ++ (d.below ++ d.sections.flatMap Section.lines))

def text : Bytes := unlines d.lines

/-- The address in force in a section. -/
def addressOf (s : Section) : Bytes := (s.connection <|> d.connection).getD []

/-- The transport address of a section. -/
def transport (s : Section) : Bytes × UInt16 := (d.addressOf s, s.portNumber)

/-- The addresses of the document in the order of its lines. -/
def connections : List Bytes := d.connection.toList ++ d.sections.filterMap (·.connection)

theorem audio_mem : d.audio ∈ d.sections := by
  have hmem : d.audio ∈ d.sections.filter (·.media == bytes "audio") := by
    rw [d.oneAudio]
    exact List.mem_singleton_self _
  exact (List.mem_filter.1 hmem).1

theorem video_mem {s : Section} (hs : d.video = some s) : s ∈ d.sections := by
  have hmem : s ∈ d.sections.filter (·.media == bytes "video") := by
    rw [d.oneVideo, hs]
    exact List.mem_singleton_self _
  exact (List.mem_filter.1 hmem).1

theorem isAddress {s : Section} (hs : s ∈ d.sections) : IsAddress (d.addressOf s) := by
  rw [addressOf]
  cases hconn : s.connection with
  | some addr => exact (d.wellFormed s hs).address addr hconn
  | none =>
    cases hsession : d.connection with
    | some addr => exact d.address addr hsession
    | none => exact absurd hsession (d.connected s hs hconn)

end Document

/-! ## What the handler sets -/

/-- Both destinations are the sections' own, whatever the two port variables held and
whatever the agent was; without a video section that destination stays. -/
def OwnAddresses (d : Document) : Prop :=
  ∀ (codec : SIPCodec) (aport vport : UInt16) (a : ImsAgent),
    (a.handleSdpFromIMS codec aport vport d.text).1.audioDestination = d.transport d.audio ∧
    (a.handleSdpFromIMS codec aport vport d.text).1.videoDestination =
      match d.video with
      | some s => d.transport s
      | none => a.videoDestination

/-- The label is followed by a word that reads as the port. -/
def ReadsPort (text label : Bytes) (port : UInt16) : Prop :=
  ∃ word rest, behind text label = some (word ++ 32 :: rest) ∧ 32 ∉ word ∧
    toPort (atoi word) = port

/-- The first labels of the text are the ones that count: there is a video section, the
first `c=IN IP4 ` has the address in force in both sections, and the first `m=audio `
and `m=video ` have the ports. -/
structure Resolves (d : Document) : Prop where
  video : d.video ≠ none
  address : ∀ s ∈ d.audio :: d.video.toList,
    ∃ rest, behind d.text connectionLabel = some (d.addressOf s ++ PARAM_END ++ rest)
  audioPort : ReadsPort d.text (bytes "m=audio ") d.audio.portNumber
  videoPort : ∀ s ∈ d.video, ReadsPort d.text (bytes "m=video ") s.portNumber

/-- The text up to the end of the first label, and the text behind it. -/
theorem exists_of_behind {sdp label value : Bytes} (h : behind sdp label = some value) :
    ∃ x p, sdp = x ++ value ∧ find sdp label 0 = some p ∧ p + label.length = x.length := by
  obtain ⟨p, hp, hvalue⟩ := Option.map_eq_some_iff.1 h
  refine ⟨sdp.take (p + label.length), p, ?_, hp, ?_⟩
  · rw [← hvalue, List.take_append_drop]
  · exact (List.length_take_of_le (find_le hp).2).symm

theorem param_eq_some_iff {sdp label value : Bytes} (hvalue : 13 ∉ value) :
    param sdp label = some value ↔
      ∃ rest, behind sdp label = some (value ++ PARAM_END ++ rest) := by
  constructor
  · exact behind_of_param
  · intro h
    obtain ⟨rest, hrest⟩ := h
    obtain ⟨x, p, rfl, hp, hlen⟩ := exists_of_behind hrest
    rw [List.append_assoc] at hp ⊢
    have hend : find (x ++ (value ++ (PARAM_END ++ rest))) PARAM_END x.length =
        some (x.length + value.length) := by
      rw [find_append_length, show PARAM_END = [13, 10] from rfl, find_crlf hvalue]
      rfl
    rw [param, hp]
    simp only [hlen, hend]
    rw [Nat.add_sub_cancel_left, substr_append_length]

/-- A port does not depend on the variable exactly when the text has one. -/
theorem sectionPort_iff {sdp label : Bytes} {port : UInt16} :
    (∀ old, sectionPort sdp label old = port) ↔ ReadsPort sdp label port := by
  constructor
  · intro h
    have hdefined : ¬ ∀ old, sectionPort sdp label old = old := by
      intro hold
      have hzero := (hold 0).symm.trans (h 0)
      have hone := (hold 1).symm.trans (h 1)
      exact absurd (hzero.trans hone.symm) (by decide)
    cases hlabel : find sdp label 0 with
    | none =>
      refine absurd (fun old => ?_) hdefined
      rw [sectionPort, hlabel]
    | some p =>
      cases hspace : find sdp [32] (p + label.length) with
      | none =>
        refine absurd (fun old => ?_) hdefined
        rw [sectionPort, hlabel]
        simp only [show bytes " " = [32] from rfl, hspace]
      | some e =>
        have hport := h 0
        rw [sectionPort, hlabel] at hport
        simp only [show bytes " " = [32] from rfl, hspace] at hport
        obtain ⟨word, rest, hdrop, hfree, he⟩ := exists_of_find_byte hspace
        have hword : substr sdp (p + label.length) (e - (p + label.length)) = word := by
          rw [substr, hdrop, he, Nat.add_sub_cancel_left, List.take_left]
        exact ⟨word, rest, by rw [behind, hlabel, Option.map_some, hdrop], hfree, hword ▸ hport⟩
  · intro h
    obtain ⟨word, rest, hbehind, hword, hport⟩ := h
    intro old
    obtain ⟨x, p, rfl, hp, hlen⟩ := exists_of_behind hbehind
    have hspace : find (x ++ (word ++ 32 :: rest)) [32] x.length =
        some (x.length + word.length) := by
      rw [find_append_length, find_byte hword]
      rfl
    rw [sectionPort, hp]
    simp only [show bytes " " = [32] from rfl, hlen, hspace]
    rw [Nat.add_sub_cancel_left, substr_append_length, hport]

/-- What the handler sets, from the agent it is given. -/
theorem destinations_eq (d : Document) (codec : SIPCodec) (aport vport : UInt16) (a : ImsAgent) :
    (a.handleSdpFromIMS codec aport vport d.text).1.audioDestination =
        ((param d.text connectionLabel).getD [], sectionPort d.text (bytes "m=audio ") aport) ∧
      (a.handleSdpFromIMS codec aport vport d.text).1.videoDestination =
        ((param d.text connectionLabel).getD [], sectionPort d.text (bytes "m=video ") vport) :=
  ⟨rfl, rfl⟩

theorem resolves_of_ownAddresses {d : Document} (h : OwnAddresses d) : Resolves d := by
  have hset := fun aport vport a => destinations_eq d ⟨true, false, false⟩ aport vport a
  have howns := h ⟨true, false, false⟩
  let agent := ImsAgent.fresh ⟨true, false, false⟩ 0
  -- an agent whose video destination is not the one that is set
  have hvideo : d.video ≠ none := by
    intro hnone
    have hstays := fun a => (howns 0 0 a).2
    rw [hnone] at hstays
    simp only [fun a => (hset 0 0 a).2] at hstays
    have hfirst := hstays { agent with videoDestination := ([], 0) }
    have hsecond := hstays { agent with videoDestination := ([], 1) }
    exact absurd (hfirst.symm.trans hsecond) (by simp)
  obtain ⟨s, hs⟩ := Option.ne_none_iff_exists'.1 hvideo
  have haudio : ∀ aport, ((param d.text connectionLabel).getD [],
      sectionPort d.text (bytes "m=audio ") aport) = d.transport d.audio := fun aport =>
    (hset aport 0 agent).1.symm.trans (howns aport 0 agent).1
  have hvideoSet : ∀ vport, ((param d.text connectionLabel).getD [],
      sectionPort d.text (bytes "m=video ") vport) = d.transport s := by
    intro vport
    have hown := (howns 0 vport agent).2
    rw [hs] at hown
    exact (hset 0 vport agent).2.symm.trans hown
  have haddress : ∀ s' ∈ d.sections, (param d.text connectionLabel).getD [] = d.addressOf s' →
      ∃ rest, behind d.text connectionLabel = some (d.addressOf s' ++ PARAM_END ++ rest) := by
    intro s' hs' heq
    obtain ⟨hne, hline⟩ := d.isAddress hs'
    cases hparam : param d.text connectionLabel with
    | none =>
      rw [hparam] at heq
      exact absurd heq.symm hne
    | some addr =>
      rw [hparam, Option.getD_some] at heq
      rw [heq] at hparam
      exact (param_eq_some_iff hline.1).1 hparam
  refine ⟨hvideo, ?_, ?_, ?_⟩
  · rw [hs, Option.toList_some, List.forall_mem_cons, List.forall_mem_singleton]
    exact ⟨haddress _ d.audio_mem (congrArg Prod.fst (haudio 0)),
      haddress s (d.video_mem hs) (congrArg Prod.fst (hvideoSet 0))⟩
  · exact sectionPort_iff.1 fun aport => congrArg Prod.snd (haudio aport)
  · intro s' hs'
    rw [hs] at hs'
    obtain rfl := Option.some.inj hs'
    exact sectionPort_iff.1 fun vport => congrArg Prod.snd (hvideoSet vport)

theorem ownAddresses_of_resolves {d : Document} (h : Resolves d) : OwnAddresses d := by
  intro codec aport vport a
  obtain ⟨s, hs⟩ := Option.ne_none_iff_exists'.1 h.video
  obtain ⟨hset, hsetVideo⟩ := destinations_eq d codec aport vport a
  have haddress : ∀ s' ∈ d.sections, s' ∈ d.audio :: d.video.toList →
      (param d.text connectionLabel).getD [] = d.addressOf s' := by
    intro s' hmem hs'
    rw [(param_eq_some_iff (d.isAddress hmem).2.1).2 (h.address s' hs'), Option.getD_some]
  have hvideo : s ∈ d.audio :: d.video.toList := by
    rw [hs]
    exact List.mem_cons_of_mem _ (List.mem_singleton_self s)
  rw [hset, hsetVideo, hs, sectionPort_iff.2 h.audioPort, sectionPort_iff.2 (h.videoPort s hs)]
  exact ⟨congrArg (·, d.audio.portNumber) (haddress _ d.audio_mem List.mem_cons_self),
    congrArg (·, s.portNumber) (haddress s (d.video_mem hs) hvideo)⟩

/-! ## Documents without stray labels -/

/-- A label that stands in a line starts it. -/
def Plain (d : Document) : Prop :=
  ∀ label ∈ [connectionLabel, bytes "m=audio ", bytes "m=video "], ∀ l ∈ d.lines,
    label <:+: l → label <+: l

instance (d : Document) : Decidable (Plain d) := inferInstanceAs (Decidable (∀ _ ∈ _, _))

/-- The value of a line that starts with the label. -/
def valueOf (label l : Bytes) : Option Bytes :=
  if label.isPrefixOf l then some (l.drop label.length) else none

theorem valueOf_append (label value : Bytes) : valueOf label (label ++ value) = some value := by
  rw [valueOf, if_pos (List.isPrefixOf_iff_prefix.2 (List.prefix_append _ _)), List.drop_left]

theorem valueOf_eq_none {label l : Bytes} (h : ¬ label <+: l) : valueOf label l = none :=
  if_neg fun hpre => h (List.isPrefixOf_iff_prefix.1 hpre)

section

variable {label : Bytes} (hlabel : label ≠ []) (hin : InLine label) {ls : List Bytes}
  (hplain : ∀ l ∈ ls, label <:+: l → label <+: l)
include hlabel hin hplain

/-- The first line that starts with the label is where the search stops. -/
theorem behind_unlines {l : Bytes} (hfirst : ls.find? (label.isPrefixOf ·) = some l) :
    ∃ value rest, l = label ++ value ∧
      behind (unlines ls) label = some (value ++ PARAM_END ++ rest) := by
  obtain ⟨hpre, above, below, rfl, habove⟩ := List.find?_eq_some_iff_append.1 hfirst
  obtain ⟨value, rfl⟩ := List.isPrefixOf_iff_prefix.1 hpre
  have hnone : ∀ l' ∈ above, ¬ label <:+: l' := by
    intro l' hl' hsub
    have hstart := List.isPrefixOf_iff_prefix.2 (hplain l' (List.mem_append_left _ hl') hsub)
    have hnot := habove l' hl'
    rw [hstart] at hnot
    cases hnot
  refine ⟨value, unlines below, rfl, ?_⟩
  rw [behind, find_label hlabel hin hnone, Option.map_some, unlines_label, ← List.length_append,
    List.drop_left, List.append_assoc]
  rfl

theorem param_unlines (hline : ∀ l ∈ ls, InLine l) :
    param (unlines ls) label = (ls.filterMap (valueOf label)).head? := by
  have hhead : (ls.filterMap (valueOf label)).head? =
      (ls.find? (label.isPrefixOf ·)).map (·.drop label.length) := by
    clear hplain hline
    induction ls with
    | nil => rfl
    | cons l ls ih =>
      rw [List.filterMap_cons, List.find?_cons, valueOf]
      cases label.isPrefixOf l with
      | true => rfl
      | false => exact ih
  rw [hhead]
  cases hfirst : ls.find? (label.isPrefixOf ·) with
  | none =>
    have hnone : find (unlines ls) label 0 = none := by
      rw [find_eq_none_iff, infix_unlines hlabel hin]
      intro h
      obtain ⟨l, hl, hsub⟩ := h
      exact List.find?_eq_none.1 hfirst l hl (List.isPrefixOf_iff_prefix.2 (hplain l hl hsub))
    rw [param, hnone]
    rfl
  | some l =>
    obtain ⟨value, rest, rfl, hbehind⟩ := behind_unlines hlabel hin hplain hfirst
    have hfree : 13 ∉ value := fun h =>
      (hline _ (List.mem_of_find?_eq_some hfirst)).1 (List.mem_append_right _ h)
    rw [(param_eq_some_iff hfree).2 ⟨rest, hbehind⟩, Option.map_some, List.drop_left]

end

/-! ### The lines of a document -/

theorem mem_connectionLine {connection : Option Bytes} {l : Bytes}
    (h : l ∈ connectionLine connection) : ∃ addr ∈ connection, l = connectionLabel ++ addr := by
  rw [connectionLine, Option.mem_toList, Option.map_eq_some_iff] at h
  obtain ⟨addr, hmem, heq⟩ := h
  exact ⟨addr, hmem, heq.symm⟩

/-- A line of a section is its media line, its `c=` line or another line. -/
theorem Section.lines_cases {s : Section} (hs : s.WellFormed) {l : Bytes} (hl : l ∈ s.lines) :
    l = s.mediaLine ∨ (∃ addr, IsAddress addr ∧ l = connectionLabel ++ addr) ∨ OtherLine l := by
  rw [Section.lines, List.mem_cons, List.mem_append, List.mem_append] at hl
  rcases hl with rfl | hl | hl | hl
  · exact .inl rfl
  · exact .inr (.inr (hs.others l (List.mem_append_left _ hl)))
  · obtain ⟨addr, hmem, heq⟩ := mem_connectionLine hl
    exact .inr (.inl ⟨addr, hs.address addr hmem, heq⟩)
  · exact .inr (.inr (hs.others l (List.mem_append_right _ hl)))

theorem Document.lines_cases (d : Document) {l : Bytes} (hl : l ∈ d.lines) :
    (∃ s ∈ d.sections, l = s.mediaLine) ∨ (∃ addr, IsAddress addr ∧ l = connectionLabel ++ addr) ∨
      OtherLine l := by
  rw [Document.lines, List.mem_append, List.mem_append, List.mem_append] at hl
  rcases hl with hl | hl | hl | hl
  · exact .inr (.inr (d.others l (List.mem_append_left _ hl)))
  · obtain ⟨addr, hmem, heq⟩ := mem_connectionLine hl
    exact .inr (.inl ⟨addr, d.address addr hmem, heq⟩)
  · exact .inr (.inr (d.others l (List.mem_append_right _ hl)))
  · obtain ⟨s, hs, hl⟩ := List.mem_flatMap.1 hl
    rcases Section.lines_cases (d.wellFormed s hs) hl with h | h
    · exact .inl ⟨s, hs, h⟩
    · exact .inr h

theorem digits_free {ds : Bytes} (h : ∀ c ∈ ds, isDigit c = true) {c : UInt8}
    (hc : isDigit c = false) : c ∉ ds := by
  intro hmem
  rw [h c hmem] at hc
  cases hc

theorem Section.inLine_mediaLine {s : Section} (hs : s.WellFormed) : InLine s.mediaLine := by
  have hport : InLine s.port :=
    ⟨digits_free hs.digits (by decide), digits_free hs.digits (by decide)⟩
  have hspace : ∀ {x : Bytes}, InLine x → InLine (32 :: x) := fun hx =>
    InLine.append (x := [32]) (by decide) hx
  exact InLine.append (by decide) (hs.media.1.append (hspace (hport.append
    (hs.count.2.1.append (hspace hs.rest)))))

theorem Document.inLine_lines (d : Document) : ∀ l ∈ d.lines, InLine l := by
  intro l hl
  rcases d.lines_cases hl with ⟨s, hs, rfl⟩ | ⟨addr, haddr, rfl⟩ | hother
  · exact Section.inLine_mediaLine (d.wellFormed s hs)
  · exact InLine.append (by decide) haddr.2
  · exact hother.1

/-- The `c=` lines are the only ones with the label. -/
theorem Document.filterMap_lines (d : Document) :
    d.lines.filterMap (valueOf connectionLabel) = d.connections := by
  have hother : ∀ ls : List Bytes, (∀ l ∈ ls, OtherLine l) →
      ls.filterMap (valueOf connectionLabel) = [] := by
    intro ls hls
    rw [List.filterMap_eq_nil_iff]
    intro l hl
    have hpre : bytes "c=" <+: connectionLabel := by decide
    exact valueOf_eq_none fun h => (hls l hl).2.1 (hpre.trans h)
  have hconnection : ∀ connection : Option Bytes,
      (connectionLine connection).filterMap (valueOf connectionLabel) = connection.toList := by
    intro connection
    cases connection with
    | none => rfl
    | some addr =>
      show [connectionLabel ++ addr].filterMap (valueOf connectionLabel) = [addr]
      rw [List.filterMap_cons, valueOf_append]
      rfl
  have hsection : ∀ s ∈ d.sections, s.lines.filterMap (valueOf connectionLabel) =
      s.connection.toList := by
    intro s hs
    have hmedia : valueOf connectionLabel s.mediaLine = none := rfl
    have hlines := (d.wellFormed s hs).others
    rw [List.forall_mem_append] at hlines
    rw [Section.lines, List.filterMap_cons, hmedia]
    simp only [List.filterMap_append, hother _ hlines.1, hother _ hlines.2, hconnection,
      List.nil_append, List.append_nil]
  have hsections : (d.sections.flatMap Section.lines).filterMap (valueOf connectionLabel) =
      d.sections.filterMap (·.connection) := by
    rw [List.filterMap_flatMap, List.flatMap_congr hsection, List.filterMap_eq_flatMap_toList]
  have hlines := d.others
  rw [List.forall_mem_append] at hlines
  rw [Document.lines, Document.connections]
  simp only [List.filterMap_append, hother _ hlines.1, hother _ hlines.2, hconnection, hsections,
    List.nil_append]

/-- A line that starts with the label of a media is the media line of such a section. -/
theorem Document.media_of_prefix (d : Document) {media l : Bytes} (hmedia : 32 ∉ media)
    (hl : l ∈ d.lines) (hpre : bytes "m=" ++ (media ++ [32]) <+: l) :
    ∃ s ∈ d.sections, s.media = media ∧ l = s.mediaLine := by
  have hm : bytes "m=" <+: l := (List.prefix_append _ _).trans hpre
  rcases d.lines_cases hl with ⟨s, hs, rfl⟩ | ⟨addr, -, rfl⟩ | hother
  · refine ⟨s, hs, ?_, rfl⟩
    rw [Section.mediaLine, List.prefix_append_right_inj] at hpre
    obtain ⟨t, ht⟩ := hpre
    rw [List.append_assoc, List.cons_append, List.nil_append] at ht
    have htake := congrArg (List.takeWhile (· != 32)) ht
    have hword : ∀ {w : Bytes}, 32 ∉ w → ∀ r, (w ++ 32 :: r).takeWhile (· != 32) = w := by
      intro w hw r
      rw [List.takeWhile_append_of_pos]
      · simp
      · intro c hc
        rw [bne_iff_ne]
        intro heq
        exact hw (heq ▸ hc)
    rw [hword hmedia, hword (d.wellFormed s hs).media.2] at htake
    exact htake.symm
  · exact absurd (List.cons.inj (hm.choose_spec)).1 (by decide)
  · exact absurd hm hother.2.2

/-- Digits and what follows them, as a number of 16 bits. -/
theorem toPort_atoi_port {s : Section} (hs : s.WellFormed) :
    toPort (atoi (s.port ++ s.count)) = s.portNumber := by
  have hlt := hs.range
  rw [atoi, scanDecimal_digits hs.digits hs.nonempty hs.count.1]
  simp only [toInt32, Bool.false_eq_true, if_false]
  rw [Nat.min_eq_left (by omega), Int.bmod_eq_of_le (by omega) (by omega), toPort,
    Section.portNumber]
  congr 1
  omega

/-- The port of the only section of a media is read from its own line. -/
theorem Document.readsPort (d : Document) {media label : Bytes} (hmedia : 32 ∉ media)
    (hlabel : label = bytes "m=" ++ (media ++ [32])) (hin : InLine label)
    (hplain : ∀ l ∈ d.lines, label <:+: l → label <+: l) {s : Section} (hs : s ∈ d.sections)
    (hone : ∀ s' ∈ d.sections, s'.media = media → s' = s) (heq : s.media = media) :
    ReadsPort d.text label s.portNumber := by
  have hne : label ≠ [] := by
    rw [hlabel]
    exact List.cons_ne_nil _ _
  have hline : s.mediaLine = label ++ ((s.port ++ s.count) ++ 32 :: s.rest) := by
    rw [Section.mediaLine, hlabel, heq]
    simp only [List.append_assoc, List.cons_append, List.nil_append]
  have hmem : s.mediaLine ∈ d.lines :=
    List.mem_append_right _ (List.mem_append_right _ (List.mem_append_right _
      (List.mem_flatMap.2 ⟨s, hs, List.mem_cons_self⟩)))
  have hstarts : label.isPrefixOf s.mediaLine = true := by
    rw [hline]
    exact List.isPrefixOf_iff_prefix.2 (List.prefix_append _ _)
  obtain ⟨l, hfirst⟩ := Option.isSome_iff_exists.1
    (List.find?_isSome (p := (label.isPrefixOf ·)) |>.2 ⟨s.mediaLine, hmem, hstarts⟩)
  obtain ⟨value, rest, hl, hbehind⟩ := behind_unlines hne hin hplain hfirst
  have hpre : bytes "m=" ++ (media ++ [32]) <+: l := by
    rw [← hlabel, hl]
    exact List.prefix_append _ _
  obtain ⟨s', hs', hmedia', hl'⟩ :=
    d.media_of_prefix hmedia (List.mem_of_find?_eq_some hfirst) hpre
  have hvalue : value = (s.port ++ s.count) ++ 32 :: s.rest := by
    rw [hone s' hs' hmedia', hline, hl] at hl'
    exact List.append_cancel_left hl'
  have hwf := d.wellFormed s hs
  have hfree : 32 ∉ s.port ++ s.count := by
    rw [List.mem_append, not_or]
    exact ⟨digits_free hwf.digits (by decide), hwf.count.2.2⟩
  refine ⟨s.port ++ s.count, s.rest ++ PARAM_END ++ rest, ?_, hfree, toPort_atoi_port hwf⟩
  rw [Document.text, hbehind, hvalue]
  simp only [List.append_assoc, List.cons_append]

/-- A filter that keeps one element keeps no other. -/
theorem eq_of_filter {α : Type} {p : α → Bool} {xs : List α} {x y : α} (h : xs.filter p = [x])
    (hy : y ∈ xs) (hp : p y = true) : y = x := by
  have hmem : y ∈ xs.filter p := List.mem_filter.2 ⟨hy, hp⟩
  rw [h] at hmem
  exact List.mem_singleton.1 hmem

/-- In a plain document the labels of the media are right, and what is left is the
first address. -/
theorem resolves_iff_of_plain {d : Document} (h : Plain d) :
    Resolves d ↔ ∃ s, d.video = some s ∧ d.connections.head? = some (d.addressOf d.audio) ∧
      d.connections.head? = some (d.addressOf s) := by
  have hparam : param d.text connectionLabel = d.connections.head? := by
    rw [Document.text, param_unlines (by decide) (by decide) (h _ (by decide)) d.inLine_lines,
      d.filterMap_lines]
  have haddress : ∀ s ∈ d.sections, d.connections.head? = some (d.addressOf s) ↔
      ∃ rest, behind d.text connectionLabel = some (d.addressOf s ++ PARAM_END ++ rest) := by
    intro s hs
    rw [← hparam, param_eq_some_iff (d.isAddress hs).2.1]
  have hmedia : ∀ {p : Section → Bool} {s : Section}, d.sections.filter p = [s] → p s = true :=
    fun hone => (List.mem_filter.1 (hone ▸ List.mem_singleton_self _)).2
  constructor
  · intro hres
    obtain ⟨s, hs⟩ := Option.ne_none_iff_exists'.1 hres.video
    have hmem : s ∈ d.audio :: d.video.toList := by
      rw [hs]
      exact List.mem_cons_of_mem _ (List.mem_singleton_self s)
    exact ⟨s, hs, (haddress _ d.audio_mem).2 (hres.address _ List.mem_cons_self),
      (haddress s (d.video_mem hs)).2 (hres.address s hmem)⟩
  · intro hex
    obtain ⟨s, hs, haudio, hvideo⟩ := hex
    have honeVideo : d.sections.filter (·.media == bytes "video") = [s] := by
      rw [d.oneVideo, hs]
      rfl
    refine ⟨by rw [hs]; exact Option.some_ne_none s, ?_, ?_, ?_⟩
    · rw [hs, Option.toList_some, List.forall_mem_cons, List.forall_mem_singleton]
      exact ⟨(haddress _ d.audio_mem).1 haudio, (haddress s (d.video_mem hs)).1 hvideo⟩
    · exact d.readsPort (show 32 ∉ bytes "audio" by decide) (by decide) (by decide)
        (h _ (by decide)) d.audio_mem
        (fun s' hs' heq => eq_of_filter d.oneAudio hs' (beq_iff_eq.2 heq))
        (beq_iff_eq.1 (hmedia d.oneAudio))
    · intro s' hs'
      rw [hs] at hs'
      obtain rfl := Option.some.inj hs'
      exact d.readsPort (show 32 ∉ bytes "video" by decide) (by decide) (by decide)
        (h _ (by decide)) (d.video_mem hs)
        (fun s' hs' heq => eq_of_filter honeVideo hs' (beq_iff_eq.2 heq))
        (beq_iff_eq.1 (hmedia honeVideo))

/-! ## When both destinations are right -/

/-- Exactly when the labels of the text resolve to the sections; in a plain document,
when there is a video section and the first address of the document is the one in
force in both. -/
theorem ownAddresses_iff (d : Document) :
    (OwnAddresses d ↔ Resolves d) ∧
    (Plain d → (Resolves d ↔ ∃ s, d.video = some s ∧
      d.connections.head? = some (d.addressOf d.audio) ∧
      d.connections.head? = some (d.addressOf s))) :=
  ⟨⟨resolves_of_ownAddresses, ownAddresses_of_resolves⟩, resolves_iff_of_plain⟩

def audioSection (connection : Option Bytes) : Section where
  media := bytes "audio"
  port := bytes "4000"
  count := []
  rest := bytes "RTP/AVP 8"
  above := []
  connection := connection
  below := [bytes "a=rtpmap:8 PCMA/8000"]

def videoSection (connection : Option Bytes) : Section where
  media := bytes "video"
  port := bytes "4002"
  count := []
  rest := bytes "RTP/AVP 97"
  above := []
  connection := connection
  below := [bytes "a=rtpmap:97 H264/90000"]

/-- A call with video first and one address for the session. -/
def sessionAddress : Document where
  above := [bytes "v=0", bytes "s=-"]
  connection := some (bytes "10.0.0.1")
  below := [bytes "t=0 0"]
  sections := [videoSection none, audioSection none]
  audio := audioSection none
  video := some (videoSection none)
  others := by decide +kernel
  address := by decide +kernel
  wellFormed := by decide +kernel
  connected := by decide +kernel
  oneAudio := by decide +kernel
  oneVideo := by decide +kernel

theorem ownAddresses_sessionAddress : OwnAddresses sessionAddress := by
  obtain ⟨hiff, hplain⟩ := ownAddresses_iff sessionAddress
  exact hiff.2 ((hplain (by decide +kernel)).2
    ⟨videoSection none, rfl, by decide +kernel, by decide +kernel⟩)

/-- The audio section has an address of its own. -/
def mediaAddress : Document where
  above := [bytes "v=0", bytes "s=-"]
  connection := some (bytes "10.0.0.1")
  below := [bytes "t=0 0"]
  sections := [audioSection (some (bytes "10.0.0.2")), videoSection none]
  audio := audioSection (some (bytes "10.0.0.2"))
  video := some (videoSection none)
  others := by decide +kernel
  address := by decide +kernel
  wellFormed := by decide +kernel
  connected := by decide +kernel
  oneAudio := by decide +kernel
  oneVideo := by decide +kernel

/-- A call without video. -/
def audioCall : Document where
  above := [bytes "v=0", bytes "s=-"]
  connection := some (bytes "10.0.0.1")
  below := [bytes "t=0 0"]
  sections := [audioSection none]
  audio := audioSection none
  video := none
  others := by decide +kernel
  address := by decide +kernel
  wellFormed := by decide +kernel
  connected := by decide +kernel
  oneAudio := by decide +kernel
  oneVideo := by decide +kernel

/-- The audio goes to the address of the session, and the video destination of a call
without video is set from a variable that nothing has set. -/
theorem not_ownAddresses : ¬ OwnAddresses mediaAddress ∧ ¬ OwnAddresses audioCall := by
  constructor
  · intro h
    have haudio := (h ⟨true, false, false⟩ 0 0 (ImsAgent.fresh ⟨true, false, false⟩ 0)).1
    exact absurd haudio (by decide +kernel)
  · intro h
    have hvideo := (h ⟨true, false, false⟩ 0 0 (ImsAgent.fresh ⟨true, false, false⟩ 0)).2
    exact absurd hvideo (by decide +kernel)

end MediaGateway.Sdp
