import MediaGateway.ImsAgent
import MediaGateway.Lib.Search
import MediaGateway.WebAgent
import Mathlib.Algebra.BigOperators.Group.List.Basic

/-!
# What the scans read

The scans of `handleSdpFromWeb` and `handleSdpFromIMS` walk over the whole text by
index.  A `Description` is a text of lines on which they mean something: the first
`m=audio ` starts a line of formats, and each `a=rtpmap:` starts a line of its own.

`audioSupport_lines` and `rtpmapScan_lines` say what the two loops compute from the
lines.  Both are by induction on what is left of the text, which stands behind an
arbitrary `x`: where a search starts is the length of `x`.
-/

namespace MediaGateway.Sdp

open Lib Bytes

/-! ## The audio line -/

/-- The formats of an audio line, with a space before each but the first. -/
def formatList (fmt : Bytes) (fmts : List Bytes) : Bytes := fmt ++ fmts.flatMap (32 :: ·)

def audioLine (port proto fmt : Bytes) (fmts : List Bytes) : Bytes :=
  bytes "m=audio " ++ (port ++ 32 :: (proto ++ 32 :: formatList fmt fmts))

theorem formatList_cons (fmt f : Bytes) (fmts : List Bytes) :
    formatList fmt (f :: fmts) = fmt ++ 32 :: formatList f fmts := rfl

/-- The last format of the line is compared up to the CRLF. -/
theorem lastFormat_line {fmt : Bytes} (hfmt : 13 ∉ fmt) (x y : Bytes) :
    lastFormat (x ++ (fmt ++ ([13, 10] ++ y))) x.length = (fmt == bytes "8") := by
  have hend : find (x ++ (fmt ++ ([13, 10] ++ y))) (bytes "\r\n") x.length =
      some (x.length + fmt.length) := by
    rw [find_append_length, show bytes "\r\n" = [13, 10] from rfl, find_crlf hfmt]
    rfl
  rw [lastFormat, hend, substrTo, if_neg (by omega), Nat.add_sub_cancel_left,
    substr_append_length]

/-- A space behind the last format belongs to another line. -/
theorem find_space_of_last {fmt : Bytes} (hfmt : 32 ∉ fmt) (x y : Bytes) {p : Nat}
    (h : find (x ++ (fmt ++ ([13, 10] ++ y))) [32] x.length = some p) :
    x.length + fmt.length + 1 < p := by
  have hskip := find_append_cons (List.cons_ne_nil 32 []) (c := 13) (by decide)
    (x := fmt) (fun hin => hfmt (hin.subset List.mem_cons_self)) (10 :: y)
  rw [find_append_length, List.cons_append, List.cons_append, List.nil_append, hskip,
    Option.map_map, Option.map_eq_some_iff] at h
  obtain ⟨q, hq, hp⟩ := h
  have hpos : q ≠ 0 := by
    intro hzero
    subst hzero
    obtain ⟨-, a, b, hdrop, ha⟩ := find_eq_some hq
    obtain rfl : a = [] := List.length_eq_zero_iff.1 (by omega)
    exact absurd (List.cons.inj hdrop).1 (by decide)
  simp only [Function.comp_apply] at hp
  omega

/-- The loop over the formats of one line. -/
theorem audioScan_formats {fmt : Bytes} {fmts : List Bytes}
    (htok : ∀ f ∈ fmt :: fmts, 32 ∉ f ∧ InLine f) (x y : Bytes) {fuel : Nat}
    (hfuel : fmts.length < fuel) :
    audioScan (x ++ (formatList fmt fmts ++ ([13, 10] ++ y)))
      (some (x.length + (formatList fmt fmts).length + 1)) fuel x.length =
        decide (bytes "8" ∈ fmt :: fmts) := by
  induction fmts generalizing x fmt fuel with
  | nil =>
    obtain ⟨fuel, rfl⟩ : ∃ f, fuel = f + 1 := ⟨fuel - 1, by omega⟩
    obtain ⟨hspace, hline⟩ := htok fmt List.mem_cons_self
    have hlist : formatList fmt [] = fmt := List.append_nil fmt
    have hlast := lastFormat_line hline.1 x y
    have hmem : decide (bytes "8" ∈ [fmt]) = (fmt == bytes "8") := by
      rw [Bool.eq_iff_iff, decide_eq_true_eq, beq_iff_eq, List.mem_singleton]
      exact eq_comm
    rw [audioScan, hlist, before, if_pos (decide_eq_true (by omega)), hmem,
      show bytes " " = [32] from rfl]
    cases hfind : find (x ++ (fmt ++ ([13, 10] ++ y))) [32] x.length with
    | none => exact hlast
    | some p =>
      have hp := find_space_of_last hspace x y hfind
      simp only [after, decide_eq_true hp, if_true]
      exact hlast
  | cons f fmts ih =>
    obtain ⟨fuel, rfl⟩ : ∃ g, fuel = g + 1 := ⟨fuel - 1, by omega⟩
    obtain ⟨hspace, hline⟩ := htok fmt List.mem_cons_self
    have hlen : (formatList fmt (f :: fmts)).length =
        fmt.length + 1 + (formatList f fmts).length := by
      rw [formatList_cons, List.length_append, List.length_cons]
      omega
    have hfind : find (x ++ (formatList fmt (f :: fmts) ++ ([13, 10] ++ y))) [32] x.length =
        some (x.length + fmt.length) := by
      rw [find_append_length, formatList_cons, List.append_assoc, List.cons_append,
        find_byte hspace]
      rfl
    have hrest : x ++ (formatList fmt (f :: fmts) ++ ([13, 10] ++ y)) =
        (x ++ (fmt ++ [32])) ++ (formatList f fmts ++ ([13, 10] ++ y)) := by
      rw [formatList_cons]
      simp only [List.append_assoc, List.cons_append, List.nil_append]
    have hsub : substr (x ++ (formatList fmt (f :: fmts) ++ ([13, 10] ++ y))) x.length
        fmt.length = fmt := by
      rw [formatList_cons, List.append_assoc, substr_append_length]
    have htail : ∀ g ∈ f :: fmts, 32 ∉ g ∧ InLine g := fun g hg =>
      htok g (List.mem_cons_of_mem fmt hg)
    have hnext := @ih f htail (x ++ (fmt ++ [32])) fuel (by
      rw [List.length_cons] at hfuel
      omega)
    have hx : (x ++ (fmt ++ [32])).length = x.length + fmt.length + 1 := by
      simp only [List.length_append, List.length_cons, List.length_nil]
      omega
    have hend : x.length + fmt.length + 1 + (formatList f fmts).length + 1 =
        x.length + (formatList fmt (f :: fmts)).length + 1 := by omega
    rw [← hrest, hx, hend] at hnext
    rw [audioScan, before, if_pos (decide_eq_true (by omega)), show bytes " " = [32] from rfl,
      hfind]
    have hafter : after (x.length + fmt.length)
        (some (x.length + (formatList fmt (f :: fmts)).length + 1)) = false :=
      decide_eq_false (by omega)
    simp only [hafter, Nat.add_sub_cancel_left, hsub, hnext]
    by_cases heq : fmt = bytes "8"
    · subst heq
      simp
    · have hbeq : (fmt == bytes "8") = false := beq_false_of_ne heq
      have hne : bytes "8" ≠ fmt := fun h => heq h.symm
      simp [hbeq, hne]

/-- The flag of a text whose first audio line is this one. -/
theorem audioSupport_line {port proto fmt : Bytes} {fmts : List Bytes}
    (htok : ∀ t ∈ port :: proto :: fmt :: fmts, 32 ∉ t ∧ InLine t) (x y : Bytes)
    (hfirst : find (x ++ (audioLine port proto fmt fmts ++ ([13, 10] ++ y)))
      (bytes "m=audio ") 0 = some x.length) :
    audioSupport (x ++ (audioLine port proto fmt fmts ++ ([13, 10] ++ y))) =
      decide (bytes "8" ∈ fmt :: fmts) := by
  have hport := htok port List.mem_cons_self
  have hproto := htok proto (List.mem_cons_of_mem _ List.mem_cons_self)
  have hfmts : ∀ f ∈ fmt :: fmts, 32 ∉ f ∧ InLine f := fun f hf =>
    htok f (List.mem_cons_of_mem _ (List.mem_cons_of_mem _ hf))
  let label := x ++ bytes "m=audio "
  let tail := formatList fmt fmts ++ ([13, 10] ++ y)
  have hlabel : label.length = x.length + (bytes "m=audio ").length := List.length_append
  -- the text from the port on, and from the transport on
  have hfromPort : x ++ (audioLine port proto fmt fmts ++ ([13, 10] ++ y)) =
      label ++ (port ++ 32 :: (proto ++ 32 :: tail)) := by
    simp only [label, tail, audioLine, List.append_assoc, List.cons_append]
  have hfromProto : label ++ (port ++ 32 :: (proto ++ 32 :: tail)) =
      (label ++ (port ++ [32])) ++ (proto ++ 32 :: tail) := by
    simp only [List.append_assoc, List.cons_append, List.nil_append]
  have hfromList : label ++ (port ++ 32 :: (proto ++ 32 :: tail)) =
      (label ++ (port ++ [32]) ++ (proto ++ [32])) ++ tail := by
    simp only [List.append_assoc, List.cons_append, List.nil_append]
  have hskipPort : next (find (label ++ (port ++ 32 :: (proto ++ 32 :: tail))) [32]
      label.length) = (label ++ (port ++ [32])).length := by
    rw [find_append_length, find_byte hport.1]
    simp only [Option.map_some, next, List.length_append, List.length_singleton]
    omega
  have hskipProto : next (find (label ++ (port ++ 32 :: (proto ++ 32 :: tail))) [32]
      (label ++ (port ++ [32])).length) =
        (label ++ (port ++ [32]) ++ (proto ++ [32])).length := by
    rw [hfromProto, find_append_length, find_byte hproto.1]
    simp only [Option.map_some, next, List.length_append, List.length_singleton]
    omega
  have hend : find (label ++ (port ++ 32 :: (proto ++ 32 :: tail))) [10]
      (label ++ (port ++ [32]) ++ (proto ++ [32])).length =
        some ((label ++ (port ++ [32]) ++ (proto ++ [32])).length +
          (formatList fmt fmts).length + 1) := by
    have hfree : 10 ∉ formatList fmt fmts ++ [13] := by
      simp only [formatList, List.mem_append, List.mem_flatMap, List.mem_cons, List.not_mem_nil,
        not_or, not_exists, not_and]
      exact ⟨⟨(hfmts fmt List.mem_cons_self).2.2, fun f hf =>
        ⟨by decide, (hfmts f (List.mem_cons_of_mem fmt hf)).2.2⟩⟩, by decide, id⟩
    have htail : tail = (formatList fmt fmts ++ [13]) ++ 10 :: y := by
      simp only [tail, List.append_assoc, List.cons_append, List.nil_append]
    rw [hfromList, find_append_length, htail, find_byte hfree, Option.map_some,
      @List.length_append _ _ [13]]
    rfl
  have hfuel : fmts.length <
      (label ++ (port ++ 32 :: (proto ++ 32 :: tail))).length + 1 := by
    have hle : fmts.length ≤ (fmts.flatMap (32 :: ·)).length := by
      have hone := List.length_le_sum_of_one_le (fmts.map fun f => (32 :: f).length) (by simp)
      rwa [List.length_map, ← List.length_flatMap] at hone
    simp only [tail, formatList, List.length_append, List.length_cons]
    omega
  rw [audioSupport, hfirst]
  simp only [hfromPort, ← hlabel, show bytes " " = [32] from rfl, hskipPort, hskipProto,
    show bytes "\n" = [10] from rfl, hend]
  rw [hfromList] at hfuel ⊢
  exact audioScan_formats hfmts _ y hfuel

/-! ## The `rtpmap` lines -/

/-- A label that occurs in the line starts it, has a space behind it and does not occur
a second time. -/
def WellMapped (line : Bytes) : Prop :=
  bytes "a=rtpmap:" <:+: line → bytes "a=rtpmap:" <+: line ∧
    32 ∈ line.drop (bytes "a=rtpmap:").length ∧
    ¬ bytes "a=rtpmap:" <:+: line.drop (bytes "a=rtpmap:").length

instance (line : Bytes) : Decidable (WellMapped line) := inferInstanceAs (Decidable (_ → _))

/-- Such a line is a label, a payload type, a space and an encoding. -/
theorem WellMapped.exists_mapping {line : Bytes} (h : WellMapped line)
    (hlabel : bytes "a=rtpmap:" <:+: line) :
    ∃ pt encoding, line = bytes "a=rtpmap:" ++ (pt ++ 32 :: encoding) ∧
      32 ∉ pt ∧ ¬ bytes "a=rtpmap:" <:+: pt ++ 32 :: encoding := by
  obtain ⟨⟨value, hvalue⟩, hspace, honce⟩ := h hlabel
  have hdrop : line.drop (bytes "a=rtpmap:").length = value := by
    rw [← hvalue, List.drop_left]
  rw [hdrop] at hspace honce
  obtain ⟨pt, encoding, hsplit, hpt⟩ := List.eq_append_cons_of_mem hspace
  exact ⟨pt, encoding, by rw [← hvalue, hsplit], hpt, hsplit ▸ honce⟩

/-- The payload type and the encoding of an `rtpmap` line. -/
def mapping? (line : Bytes) : Option (Bytes × Bytes) :=
  if (bytes "a=rtpmap:").isPrefixOf line then
    let value := line.drop (bytes "a=rtpmap:").length
    some (value.takeWhile (· != 32), (value.dropWhile (· != 32)).drop 1)
  else
    none

theorem mapping?_line {pt : Bytes} (hpt : 32 ∉ pt) (encoding : Bytes) :
    mapping? (bytes "a=rtpmap:" ++ (pt ++ 32 :: encoding)) = some (pt, encoding) := by
  have hall : ∀ c ∈ pt, (c != 32) = true := by
    intro c hc
    rw [bne_iff_ne]
    intro heq
    exact hpt (heq ▸ hc)
  have hpre : (bytes "a=rtpmap:").isPrefixOf (bytes "a=rtpmap:" ++ (pt ++ 32 :: encoding)) = true :=
    List.isPrefixOf_iff_prefix.2 (List.prefix_append _ _)
  have htake : (pt ++ 32 :: encoding).takeWhile (· != 32) = pt := by
    rw [List.takeWhile_append_of_pos hall]
    exact List.append_nil pt
  have hdrop : (pt ++ 32 :: encoding).dropWhile (· != 32) = 32 :: encoding :=
    List.dropWhile_append_of_pos hall
  rw [mapping?, if_pos hpre, List.drop_left]
  simp only [htake, hdrop]
  rfl

theorem mapping?_of_not_infix {line : Bytes} (h : ¬ bytes "a=rtpmap:" <:+: line) :
    mapping? line = none := by
  rw [mapping?, if_neg]
  intro hpre
  exact h (List.isPrefixOf_iff_prefix.1 hpre).isInfix

/-- The payload number of the first mapping whose encoding starts with `encoding`. -/
def firstPayload (encoding : Bytes) (mappings : List (Bytes × Bytes)) : Option Int :=
  (mappings.find? fun m => encoding.isPrefixOf m.2).map fun m => atoi m.1

/-- The comparison behind the space cannot reach over the end of the line. -/
theorem substr_beq_encoding {enc : Bytes} (henc : 13 ∉ enc) (x encoding y : Bytes) :
    (substr (x ++ (encoding ++ ([13, 10] ++ y))) x.length enc.length == enc) =
      enc.isPrefixOf encoding := by
  have hiff : enc <+: encoding ++ ([13, 10] ++ y) ↔ enc <+: encoding := by
    constructor
    · intro h
      rcases Nat.le_total enc.length encoding.length with hle | hle
      · exact List.prefix_of_prefix_length_le h (List.prefix_append _ _) hle
      · obtain ⟨t, rfl⟩ := List.prefix_of_prefix_length_le (List.prefix_append _ _) h hle
        cases t with
        | nil => simp
        | cons c t =>
          rw [List.prefix_append_right_inj] at h
          obtain ⟨s, hs⟩ := h
          rw [(List.cons.inj hs).1] at henc
          exact absurd (by simp) henc
    · intro h
      exact h.trans (List.prefix_append _ _)
  rw [Bool.eq_iff_iff, beq_iff_eq, List.isPrefixOf_iff_prefix, ← hiff, substr, List.drop_left,
    List.prefix_iff_eq_take, eq_comm]

/-- The loop depends on where the next label is found. -/
theorem rtpmapScan_congr {encoding sdp : Bytes} {pos pos' : Nat}
    (h : find sdp (bytes "a=rtpmap:") pos = find sdp (bytes "a=rtpmap:") pos') (fuel : Nat) :
    rtpmapScan encoding sdp fuel pos = rtpmapScan encoding sdp fuel pos' := by
  cases fuel with
  | zero => rfl
  | succ fuel => rw [rtpmapScan, rtpmapScan, h]

/-- One round of the loop, at a line that maps a payload type. -/
theorem rtpmapScan_mapping {enc pt encoding : Bytes} (henc : 13 ∉ enc) (hpt : 32 ∉ pt)
    (honce : ¬ bytes "a=rtpmap:" <:+: pt ++ 32 :: encoding) (x y : Bytes) (fuel : Nat) {l : Bytes}
    (hl : l = bytes "a=rtpmap:" ++ (pt ++ 32 :: encoding)) :
    rtpmapScan enc (x ++ (l ++ ([13, 10] ++ y))) (fuel + 1) x.length =
      if enc.isPrefixOf encoding then some (atoi pt)
      else rtpmapScan enc (x ++ (l ++ ([13, 10] ++ y))) fuel (x.length + (l.length + 2)) := by
  let label := x ++ bytes "a=rtpmap:"
  have hlen : label.length = x.length + (bytes "a=rtpmap:").length := List.length_append
  have hfromPt : x ++ (l ++ ([13, 10] ++ y)) =
      label ++ ((pt ++ 32 :: encoding) ++ ([13, 10] ++ y)) := by
    simp only [hl, label, List.append_assoc]
  have hfromEncoding : x ++ (l ++ ([13, 10] ++ y)) =
      (label ++ (pt ++ [32])) ++ (encoding ++ ([13, 10] ++ y)) := by
    rw [hfromPt]
    simp only [List.append_assoc, List.cons_append, List.nil_append]
  have hfind : find (x ++ (l ++ ([13, 10] ++ y))) (bytes "a=rtpmap:") x.length =
      some x.length := by
    rw [find_append_length, hl, List.append_assoc, find_self]
    rfl
  have hspace : find (x ++ (l ++ ([13, 10] ++ y))) [32] label.length =
      some (label.length + pt.length) := by
    rw [hfromPt, find_append_length, List.append_assoc, List.cons_append, find_byte hpt]
    rfl
  have hcompare : (substr (x ++ (l ++ ([13, 10] ++ y))) (label.length + pt.length + 1) enc.length ==
      enc) = enc.isPrefixOf encoding := by
    have hstart : label.length + pt.length + 1 = (label ++ (pt ++ [32])).length := by
      simp only [List.length_append, List.length_singleton]
      omega
    rw [hstart, hfromEncoding, substr_beq_encoding henc]
  have hpayload : substrTo (x ++ (l ++ ([13, 10] ++ y))) label.length
      (some (label.length + pt.length)) = pt := by
    rw [substrTo, if_neg (by omega), Nat.add_sub_cancel_left, hfromPt, List.append_assoc pt,
      substr_append_length]
  -- behind the label the line has no other one, so the search goes on behind the line
  have hskip : find (x ++ (l ++ ([13, 10] ++ y))) (bytes "a=rtpmap:") label.length =
      find (x ++ (l ++ ([13, 10] ++ y))) (bytes "a=rtpmap:") (x.length + (l.length + 2)) := by
    have hend : x.length + (l.length + 2) =
        label.length + ((pt ++ 32 :: encoding).length + 2) := by
      rw [hl, List.length_append, hlen]
      omega
    rw [hend, hfromPt, find_skip_line (by decide) (by decide) honce]
  rw [rtpmapScan, hfind]
  simp only [← hlen, show bytes " " = [32] from rfl, hspace, next, hcompare, hpayload,
    rtpmapScan_congr hskip]

/-- What the loop finds in lines, from the start of one of them. -/
theorem rtpmapScan_lines {enc : Bytes} (henc : 13 ∉ enc) {ls : List Bytes}
    (hmapped : ∀ l ∈ ls, WellMapped l) (x : Bytes) {fuel : Nat} (hfuel : ls.length < fuel) :
    rtpmapScan enc (x ++ unlines ls) fuel x.length = firstPayload enc (ls.filterMap mapping?) := by
  induction ls generalizing x fuel with
  | nil =>
    obtain ⟨fuel, rfl⟩ : ∃ f, fuel = f + 1 := ⟨fuel - 1, by omega⟩
    have hnone : find (x ++ unlines []) (bytes "a=rtpmap:") x.length = none := by
      rw [find_append_length]
      rfl
    rw [rtpmapScan, hnone]
    rfl
  | cons l ls ih =>
    rw [List.length_cons] at hfuel
    -- the text behind the line, and where it starts
    have htext : x ++ (l ++ ([13, 10] ++ unlines ls)) = (x ++ (l ++ [13, 10])) ++ unlines ls := by
      simp only [List.append_assoc]
    have hnext : x.length + (l.length + 2) = (x ++ (l ++ [13, 10])).length := by
      simp only [List.length_append, List.length_cons, List.length_nil]
    have hrest : ∀ {fuel}, ls.length < fuel →
        rtpmapScan enc (x ++ (l ++ ([13, 10] ++ unlines ls))) fuel (x.length + (l.length + 2)) =
          firstPayload enc (ls.filterMap mapping?) := by
      intro fuel hlt
      rw [htext, hnext]
      exact ih (fun l' hl' => hmapped l' (List.mem_cons_of_mem l hl')) _ hlt
    rw [unlines_cons, List.filterMap_cons]
    by_cases hl : bytes "a=rtpmap:" <:+: l
    · obtain ⟨pt, encoding, heq, hpt, honce⟩ := (hmapped l List.mem_cons_self).exists_mapping hl
      obtain ⟨fuel, rfl⟩ : ∃ f, fuel = f + 1 := ⟨fuel - 1, by omega⟩
      have hmap : mapping? l = some (pt, encoding) := heq ▸ mapping?_line hpt encoding
      rw [rtpmapScan_mapping henc hpt honce x _ fuel heq, hrest (by omega)]
      simp only [hmap, firstPayload, List.find?_cons]
      cases enc.isPrefixOf encoding <;> rfl
    · rw [rtpmapScan_congr (find_skip_line (by decide) (by decide) hl x _),
        mapping?_of_not_infix hl, hrest (by omega)]

/-! ## Labels -/

/-- The type of a text none of whose lines names video. -/
theorem sessionType_audio {ls : List Bytes} (h : ∀ l ∈ ls, ¬ bytes "video" <:+: l) :
    sessionType (unlines ls) = SessionType.AUDIO := by
  have hnone : ¬ contains (unlines ls) (bytes "video") = true := by
    rw [contains_unlines (by decide) (by decide)]
    intro hline
    obtain ⟨l, hl, hvideo⟩ := hline
    exact h l hl hvideo
  rw [sessionType, if_neg hnone]

theorem sessionType_video {ls : List Bytes} {l : Bytes} (hl : l ∈ ls)
    (h : bytes "video" <:+: l) : sessionType (unlines ls) = .VIDEO := by
  rw [sessionType, if_pos ((contains_unlines (by decide) (by decide)).2 ⟨l, hl, h⟩)]

/-- A parameter that stands in a line of its own. -/
theorem param_lines {label value : Bytes} (hlabel : label ≠ []) (hin : InLine label)
    (hvalue : 13 ∉ value) {pre : List Bytes} (hpre : ∀ l ∈ pre, ¬ label <:+: l)
    (post : List Bytes) : param (unlines (pre ++ (label ++ value) :: post)) label = some value := by
  have hend : find (unlines (pre ++ (label ++ value) :: post)) PARAM_END
      (unlines pre ++ label).length = some ((unlines pre ++ label).length + value.length) := by
    rw [unlines_label, find_append_length, show PARAM_END = [13, 10] from rfl, find_crlf hvalue]
    rfl
  rw [param, find_label hlabel hin hpre]
  simp only [← List.length_append, hend]
  rw [@List.length_append _ _ value, Nat.add_sub_cancel_left, unlines_label,
    substr_append_length]

/-- The port of a section whose line is the first one with the label. -/
theorem sectionPort_lines {label port : Bytes} (hlabel : label ≠ []) (hin : InLine label)
    (hport : 32 ∉ port) {pre : List Bytes} (hpre : ∀ l ∈ pre, ¬ label <:+: l) (more : Bytes)
    (post : List Bytes) (old : UInt16) :
    ImsAgent.sectionPort (unlines (pre ++ (label ++ (port ++ 32 :: more)) :: post)) label old =
      ImsAgent.toPort (atoi port) := by
  have htext := unlines_label pre label (port ++ 32 :: more) post
  rw [List.append_assoc port, List.cons_append] at htext
  have hend : find (unlines (pre ++ (label ++ (port ++ 32 :: more)) :: post)) [32]
      (unlines pre ++ label).length = some ((unlines pre ++ label).length + port.length) := by
    rw [htext, find_append_length, find_byte hport]
    rfl
  rw [ImsAgent.sectionPort, find_label hlabel hin hpre]
  simp only [← List.length_append, show bytes " " = [32] from rfl, hend]
  rw [@List.length_append _ _ port, Nat.add_sub_cancel_left, htext, substr_append_length]

/-! ## Descriptions -/

/-- A text of lines on which the scans mean something. -/
structure Description where
  above : List Bytes
  port : Bytes
  proto : Bytes
  fmt : Bytes
  fmts : List Bytes
  below : List Bytes
  inLine : ∀ l ∈ above ++ audioLine port proto fmt fmts :: below, InLine l
  token : ∀ t ∈ port :: proto :: fmt :: fmts, 32 ∉ t
  /-- The first `m=audio ` is the one of the audio line. -/
  first : ∀ l ∈ above, ¬ bytes "m=audio " <:+: l
  mapped : ∀ l ∈ above ++ audioLine port proto fmt fmts :: below, WellMapped l

namespace Description

variable (d : Description)

def line : Bytes := audioLine d.port d.proto d.fmt d.fmts
def lines : List Bytes := d.above ++ d.line :: d.below
def text : Bytes := unlines d.lines
def formats : List Bytes := d.fmt :: d.fmts
def mappings : List (Bytes × Bytes) := d.lines.filterMap mapping?

/-- The payload number after a description: that of the first mapping of the encoding,
for a video session that has one. -/
def payload (encoding : Bytes) (old : Int) : Int :=
  if contains d.text (bytes "video") then (firstPayload encoding d.mappings).getD old else old

theorem text_eq :
    d.text = unlines d.above ++ (d.line ++ ([13, 10] ++ unlines d.below)) := by
  rw [text, lines, unlines_append, unlines_cons]

/-- The tokens of the audio line stand in the line. -/
theorem inLine_of_token {t : Bytes} (ht : t ∈ d.port :: d.proto :: d.fmt :: d.fmts) :
    InLine t := by
  have hline : InLine d.line := d.inLine _ (List.mem_append_right _ List.mem_cons_self)
  have hsub : t ⊆ d.line := by
    intro c hc
    simp only [line, audioLine, formatList, List.mem_append, List.mem_cons, List.mem_flatMap]
    simp only [List.mem_cons] at ht
    rcases ht with rfl | rfl | rfl | ht
    · exact .inr (.inl hc)
    · exact .inr (.inr (.inr (.inl hc)))
    · exact .inr (.inr (.inr (.inr (.inr (.inl hc)))))
    · exact .inr (.inr (.inr (.inr (.inr (.inr ⟨t, ht, .inr hc⟩)))))
  exact ⟨fun h => hline.1 (hsub h), fun h => hline.2 (hsub h)⟩

theorem audioSupport_text : audioSupport d.text = decide (bytes "8" ∈ d.formats) := by
  have hfirst : find d.text (bytes "m=audio ") 0 = some (unlines d.above).length := by
    rw [text_eq, find_unlines (by decide) (by decide) d.first, line, audioLine, List.append_assoc,
      find_self]
    rfl
  rw [text_eq] at hfirst ⊢
  exact audioSupport_line (fun t ht => ⟨d.token t ht, d.inLine_of_token ht⟩) _ _ hfirst

theorem rtpmapPayload_text {encoding : Bytes} (h : 13 ∉ encoding) :
    rtpmapPayload encoding d.text = firstPayload encoding d.mappings :=
  rtpmapScan_lines h d.mapped [] (Nat.lt_succ_of_le (length_le_unlines d.lines))

theorem payload_eq (encoding : Bytes) (old : Int) :
    d.payload encoding old =
      match sessionType d.text with
      | SessionType.AUDIO => old
      | .VIDEO => (firstPayload encoding d.mappings).getD old := by
  rw [payload, sessionType]
  cases contains d.text (bytes "video") <;> rfl

theorem isSome_firstPayload {encoding : Bytes} :
    (firstPayload encoding d.mappings).isSome = true ↔ ∃ m ∈ d.mappings, encoding <+: m.2 := by
  simp only [firstPayload, Option.isSome_map, List.find?_isSome, List.isPrefixOf_iff_prefix]

end Description

/-- What the two handlers make of a description. -/
theorem handleSdp_description (d : Description) :
    (∀ (codec : SIPCodec) (aport vport : UInt16) (a : ImsAgent),
      (a.handleSdpFromIMS codec aport vport d.text).2.2 = true ↔ bytes "8" ∈ d.formats) ∧
    (∀ w : WebAgent, (w.handleSdpFromWeb d.text).2.2 = true ↔
      bytes "8" ∈ d.formats ∧
        (contains d.text (bytes "video") = true → ∃ m ∈ d.mappings, bytes "VP8" <+: m.2)) ∧
    (∀ w : WebAgent,
      (w.handleSdpFromWeb d.text).1.vPayload = d.payload (bytes "VP8") w.vPayload) ∧
    (∀ (codec : SIPCodec) (aport vport : UInt16) (a : ImsAgent), codec.H264 = true →
      (a.handleSdpFromIMS codec aport vport d.text).1.vPayload =
        d.payload (bytes "H264") a.vPayload) := by
  refine ⟨?_, ?_, ?_, ?_⟩
  · intro codec aport vport a
    show audioSupport d.text = true ↔ _
    rw [d.audioSupport_text, decide_eq_true_iff]
  · intro w
    show WebAgent.supportFlag d.text = true ↔ _
    rw [WebAgent.supportFlag, sessionType, d.audioSupport_text, d.rtpmapPayload_text (by decide),
      ← d.isSome_firstPayload]
    cases contains d.text (bytes "video") with
    | false => simp
    | true => simp
  · intro w
    show WebAgent.scanPayload d.text w.vPayload = _
    rw [WebAgent.scanPayload, d.rtpmapPayload_text (by decide)]
    exact (d.payload_eq _ w.vPayload).symm
  · intro codec aport vport a hcodec
    show ImsAgent.scanPayload codec d.text a.vPayload = _
    rw [ImsAgent.scanPayload, if_pos hcodec, d.rtpmapPayload_text (by decide)]
    exact (d.payload_eq _ a.vPayload).symm

/-- A video offer of a phone, with PCMA as the second format. -/
def phoneOffer : Description where
  above := [bytes "v=0", bytes "c=IN IP4 10.1.1.7"]
  port := bytes "4000"
  proto := bytes "RTP/AVP"
  fmt := bytes "18"
  fmts := [bytes "8"]
  below := [bytes "a=rtpmap:8 PCMA/8000", bytes "m=video 4002 RTP/AVP 97",
    bytes "a=rtpmap:97 H264/90000"]
  inLine := by decide +kernel
  token := by decide +kernel
  first := by decide +kernel
  mapped := by decide +kernel

theorem handleSdp_phoneOffer :
    ((ImsAgent.fresh ⟨true, false, false⟩ 0).handleSdpFromIMS ⟨true, false, false⟩ 0 0
      phoneOffer.text).2.2 = true ∧
    ¬ (WebAgent.fresh.handleSdpFromWeb phoneOffer.text).2.2 = true ∧
    ((ImsAgent.fresh ⟨true, false, false⟩ 0).handleSdpFromIMS ⟨true, false, false⟩ 0 0
      phoneOffer.text).1.vPayload = 97 := by
  obtain ⟨hims, hweb, -, hpayload⟩ := handleSdp_description phoneOffer
  refine ⟨(hims _ 0 0 _).2 (by decide +kernel), ?_, ?_⟩
  · intro h
    exact absurd (((hweb _).1 h).2 (by decide +kernel)) (by decide +kernel)
  · rw [hpayload ⟨true, false, false⟩ 0 0 _ rfl]
    decide +kernel

end MediaGateway.Sdp
