import MediaGateway.Lib.Text

/-!
# Remote candidates

What the session logic reads of `Candidate(const char[])` in `candidate.cpp`:
the component and the type of the candidate.  The component is the second
conversion of

`sscanf(str, "a=candidate:%s %d %s %d %s %d %s", ...)`

and keeps the zero that `nice_candidate_new` puts there when the scan stops
before it.  Its other conversions, and the buffers that `%s` writes to, are in
`NiceCandidate`: what is said of a session that scans a candidate goes for a text
that `Fits` them, and says so where it is about the whole scan (`TrickledRight`,
`Gateway.Harmless`).
-/

namespace MediaGateway

open Lib

/-- `NiceCandidateType`. -/
inductive CandidateType
  | host
  | serverReflexive
  | peerReflexive
  | relayed
  deriving DecidableEq, Repr

namespace Candidate

/-- The type, by `strstr` over the whole line. -/
def type (str : Bytes) : CandidateType :=
  let s := Bytes.cStr str
  if Bytes.contains s (bytes "host") then .host
  else if Bytes.contains s (bytes "srflx") then .serverReflexive
  else if Bytes.contains s (bytes "prflx") then .peerReflexive
  else if Bytes.contains s (bytes "relayed") then .relayed
  else .host

/-- The component, as `sscanf` reads it. -/
def componentID (str : Bytes) : Int :=
  let s := Bytes.cStr str
  let literal := bytes "a=candidate:"
  if literal.isPrefixOf s then
    let rest := (s.drop literal.length).dropWhile Bytes.isSpace
    let foundation := rest.takeWhile fun c => !Bytes.isSpace c
    if foundation.isEmpty then
      0
    else
      match Bytes.scanDecimal (rest.drop foundation.length) with
      | none => 0
      | some (negative, ds) => Bytes.toInt32 negative (Bytes.digitsValue ds)
  else
    0

/-- Whether `handleCandidateFromWeb` files the text under RTP: every other
component, RTCP or not, goes to the RTCP list. -/
def isRTP (str : Bytes) : Bool := componentID str == 1

example : isRTP (bytes "a=candidate:1 1 udp 99 10.0.0.1 5000 typ host\r\n") = true := by
  decide

end Candidate

end MediaGateway
