import MediaGateway.Candidate
import MediaGateway.Lib.Scanf

/-!
# Candidates as objects

`Candidate(const char[])` in `candidate.cpp`: the `NiceCandidate` that is made from a
text, and whether every word that `sscanf` stores fits into its buffer (`Fits`).  A
word that does not is written behind it, and nothing is known of the process after
that.

Addresses belong to libnice.  They are a type here, `setFromString` is
`nice_address_set_from_string`, and an address that was not set is `none`.
-/

namespace MediaGateway

open Lib

/-- `NiceCandidateTransport`. -/
inductive CandidateTransport
  | udp
  | tcpActive
  | tcpPassive
  | tcpSo
  deriving DecidableEq, Repr

/-- `NiceCandidate`: the fields that the program sets or reads. -/
structure NiceCandidate (α : Type) where
  type : CandidateType
  transport : CandidateTransport
  /-- the address and its port -/
  addr : Option (α × UInt16)
  priority : UInt32
  componentID : UInt32
  foundation : Bytes
  deriving DecidableEq, Repr

/-- `nice_candidate_new(type)`. -/
def NiceCandidate.new {α : Type} (type : CandidateType) : NiceCandidate α where
  type := type
  transport := .udp
  addr := none
  priority := 0
  componentID := 0
  foundation := []

namespace Candidate

/-- `"a=candidate:%s %d %s %d %s %d %s"`. -/
def format : List Directive :=
  [ .literal (bytes "a=candidate:"), .str, .space, .int, .space, .str, .space, .int, .space
  , .str, .space, .int, .space, .str ]

/-- The values that `sscanf` assigns: `foundation`, `component_id`, `transport`,
`priority`, `ip`, `port` and `others`, or the first of them. -/
def scan (str : Bytes) : List Scanned := scanf format (Bytes.cStr str)

def strAt (values : List Scanned) (i : Nat) : Option Bytes :=
  match values[i]? with
  | some (.str w) => some w
  | _ => none

def intAt (values : List Scanned) (i : Nat) : Option Int :=
  match values[i]? with
  | some (.int n) => some n
  | _ => none

/-- The local variables before the scan. -/
structure Locals where
  ip : Bytes
  port : Int
  deriving DecidableEq, Repr

section

variable {α : Type} (setFromString : Bytes → Option α) (locals : Locals)

/-- `Candidate(str)`.  Both branches of the test of `transport` set UDP, and
`nice_address_set_port` leaves an address alone that was not set. -/
def ofString (str : Bytes) : NiceCandidate α :=
  let candidate : NiceCandidate α := .new (type str)
  let values := scan str
  let port := (intAt values 5).getD locals.port
  { candidate with
    foundation := (strAt values 0).getD candidate.foundation
    componentID := ((intAt values 1).map UInt32.ofInt).getD candidate.componentID
    transport := .udp
    priority := ((intAt values 3).map UInt32.ofInt).getD candidate.priority
    addr := (setFromString ((strAt values 4).getD locals.ip)).map fun a => (a, UInt16.ofInt port) }

end

/-! ## Buffers -/

/-- `foundation` of libnice, and the local variables `transport`, `ip` and `others`. -/
def buffers : List Nat := [33, 32, 16, 128]

/-- The words that `%s` stores. -/
def words (values : List Scanned) : List Bytes := values.filterMap fun v => match v with
  | .str w => some w
  | .int _ => none

/-- Every word fits into its buffer, with the terminator. -/
def Fits (str : Bytes) : Prop := ∀ p ∈ (words (scan str)).zip buffers, p.1.length < p.2

instance (str : Bytes) : Decidable (Fits str) :=
  inferInstanceAs (Decidable (∀ p ∈ (words (scan str)).zip buffers, p.1.length < p.2))

end Candidate

end MediaGateway
