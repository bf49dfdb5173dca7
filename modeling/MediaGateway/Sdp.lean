import MediaGateway.CommonType

/-!
# SDP scanning

`WebAgent::handleSdpFromWeb` and `ImsAgent::handleSdpFromIMS` contain the same
three scans, written out twice: the search for the word `video`, the walk over
the formats of the audio line and the walk over the `rtpmap` lines.  Each is one
definition here.  Both agents work on the whole text with `find`, so a position
may belong to any line.

The two loops take fuel.  `audioScan_fuel` and `rtpmapScan_fuel` say that the
length of the text is enough: a larger amount gives the same answer.
-/

namespace MediaGateway

open Lib Bytes

namespace Sdp

/-- `stype`: `VIDEO` when the word occurs anywhere. -/
def sessionType (sdp : Bytes) : SessionType :=
  if contains sdp (bytes "video") then .VIDEO else SessionType.AUDIO

/-! ## The audio formats -/

/-- The last format of the line: everything up to the next CRLF. -/
def lastFormat (sdp : Bytes) (beginPos : Nat) : Bool :=
  substrTo sdp beginPos (find sdp (bytes "\r\n") beginPos) == bytes "8"

/-- The `while(beginPos < endPos)` loop over the formats.  The answer is
`supportFlag`. -/
def audioScan (sdp : Bytes) (endPos : Option Nat) : Nat → Nat → Bool
  | 0, _ => true
  | fuel + 1, beginPos =>
    if before beginPos endPos then
      match find sdp (bytes " ") beginPos with
      | none => lastFormat sdp beginPos
      | some p2 =>
        if after p2 endPos then lastFormat sdp beginPos
        else if substr sdp beginPos (p2 - beginPos) == bytes "8" then true
        else audioScan sdp endPos fuel (p2 + 1)
    else
      true

/-- `supportFlag` after the audio part. -/
def audioSupport (sdp : Bytes) : Bool :=
  match find sdp (bytes "m=audio ") 0 with
  | none => false
  | some p =>
    let beginPos := p + (bytes "m=audio ").length
    -- the port, then the transport
    let beginPos := next (find sdp (bytes " ") beginPos)
    let beginPos := next (find sdp (bytes " ") beginPos)
    audioScan sdp (find sdp (bytes "\n") beginPos) (sdp.length + 1) beginPos

/-! ## The `rtpmap` lines -/

/-- The `do ... while(true)` loop: the payload number of the first `rtpmap`
whose text after the space starts with `encoding`. -/
def rtpmapScan (encoding sdp : Bytes) : Nat → Nat → Option Int
  | 0, _ => none
  | fuel + 1, pos =>
    match find sdp (bytes "a=rtpmap:") pos with
    | none => none
    | some p =>
      let beginPos := p + (bytes "a=rtpmap:").length
      let endPos := find sdp (bytes " ") beginPos
      if substr sdp (next endPos) encoding.length == encoding then
        some (atoi (substrTo sdp beginPos endPos))
      else
        rtpmapScan encoding sdp fuel beginPos

/-- The loop from the start of the text. -/
def rtpmapPayload (encoding sdp : Bytes) : Option Int :=
  rtpmapScan encoding sdp (sdp.length + 1) 0

/-! ## One parameter -/

/-- The text between the first `label` and the `PARAM_END` after it. -/
def param (sdp label : Bytes) : Option Bytes :=
  match find sdp label 0 with
  | none => none
  | some p =>
    let beginPos := p + label.length
    match find sdp PARAM_END beginPos with
    | none => none
    | some endPos => some (substr sdp beginPos (endPos - beginPos))

/-- The whole text behind the first `label`. -/
def behind (sdp label : Bytes) : Option Bytes :=
  (find sdp label 0).map fun p => sdp.drop (p + label.length)

/-- A parameter is the text behind its label up to a `PARAM_END`. -/
theorem behind_of_param {sdp label value : Bytes} (h : param sdp label = some value) :
    ∃ rest, behind sdp label = some (value ++ PARAM_END ++ rest) := by
  unfold param at h
  cases hp : find sdp label 0 with
  | none =>
    rw [hp] at h
    cases h
  | some p =>
    simp only [hp] at h
    cases hend : find sdp PARAM_END (p + label.length) with
    | none =>
      rw [hend] at h
      cases h
    | some endPos =>
      simp only [hend, Option.some.injEq] at h
      obtain ⟨-, a, rest, hdrop, hlen⟩ := find_eq_some hend
      have hvalue : value = a := by
        rw [← h, substr, hdrop, List.append_assoc, ← hlen, Nat.add_sub_cancel_left,
          List.take_left]
      exact ⟨rest, by rw [behind, hp, Option.map_some, hdrop, hvalue]⟩

/-! ## The loops end -/

/-- No space is left to find at the end of the text. -/
theorem find_space_eq_none {sdp : Bytes} {pos : Nat} (h : sdp.length ≤ pos) :
    find sdp (bytes " ") pos = none := by
  cases hf : find sdp (bytes " ") pos with
  | none => rfl
  | some p =>
    have hle := find_le hf
    have hlen : (bytes " ").length = 1 := by decide
    omega

/-- The loop over the formats needs no more fuel than the text has bytes after
the position, and one. -/
theorem audioScan_fuel {sdp : Bytes} {endPos : Option Nat} {f g : Nat} (hfg : f ≤ g) :
    ∀ {pos : Nat}, sdp.length ≤ pos + f →
      audioScan sdp endPos (g + 1) pos = audioScan sdp endPos (f + 1) pos := by
  induction f generalizing g with
  | zero =>
    intro pos hpos
    simp only [audioScan, find_space_eq_none (show sdp.length ≤ pos by omega)]
  | succ f ih =>
    intro pos hpos
    obtain ⟨g, rfl⟩ : ∃ g', g = g' + 1 := ⟨g - 1, by omega⟩
    rw [audioScan, audioScan]
    split
    · cases hf : find sdp (bytes " ") pos with
      | none => rfl
      | some p =>
        have hle := find_le hf
        simp only [ih (show f ≤ g by omega) (show sdp.length ≤ p + 1 + f by omega)]
    · rfl

/-- The loop over the `rtpmap` lines likewise. -/
theorem rtpmapScan_fuel {encoding sdp : Bytes} {f g : Nat} (hfg : f ≤ g) :
    ∀ {pos : Nat}, sdp.length ≤ pos + f →
      rtpmapScan encoding sdp (g + 1) pos = rtpmapScan encoding sdp (f + 1) pos := by
  induction f generalizing g with
  | zero =>
    intro pos hpos
    cases hf : find sdp (bytes "a=rtpmap:") pos with
    | none => simp only [rtpmapScan, hf]
    | some p =>
      have hle := find_le hf
      have hlen : (bytes "a=rtpmap:").length = 9 := by decide
      omega
  | succ f ih =>
    intro pos hpos
    obtain ⟨g, rfl⟩ : ∃ g', g = g' + 1 := ⟨g - 1, by omega⟩
    rw [rtpmapScan, rtpmapScan]
    cases hf : find sdp (bytes "a=rtpmap:") pos with
    | none => rfl
    | some p =>
      have hle := find_le hf
      have hlen : (bytes "a=rtpmap:").length = 9 := by decide
      simp only [ih (show f ≤ g by omega)
        (show sdp.length ≤ p + (bytes "a=rtpmap:").length + f by omega)]

end Sdp

end MediaGateway
