import MediaGateway.Action

/-!
# A JSON writer

`JsonLib` leaves jsoncpp open.  This module has one instance of it: `fastWrite`
follows the documented output of `FastWriter`, and `JsonLib.over` reads back the
texts of a given list of values.  `Config.over`, `Env.plain` and
`SessionMessage.of` build the concrete inputs that runs are tried on.
-/

namespace MediaGateway

open Lib

namespace Json

/-! ## Strings -/

/-- An upper-case hexadecimal digit. -/
def hexDigit (n : UInt8) : UInt8 := if n < 10 then 48 + n else 55 + n

/-- One byte of a quoted string. -/
def escapeByte (c : UInt8) : Bytes :=
  if c = 34 then bytes "\\\""
  else if c = 92 then bytes "\\\\"
  else if c = 8 then bytes "\\b"
  else if c = 12 then bytes "\\f"
  else if c = 10 then bytes "\\n"
  else if c = 13 then bytes "\\r"
  else if c = 9 then bytes "\\t"
  else if c < 32 then bytes "\\u00" ++ [hexDigit (c / 16), hexDigit (c % 16)]
  else [c]

/-- The characters of a string, escaped.  jsoncpp takes a C string. -/
def escape (s : Bytes) : Bytes := (Bytes.cStr s).flatMap escapeByte

/-- `valueToQuotedString`. -/
def quote (s : Bytes) : Bytes := bytes "\"" ++ escape s ++ bytes "\""

/-! ## Values -/

mutual

/-- `FastWriter::writeValue`. -/
def writeValue : Value → Bytes
  | .null => bytes "null"
  | .int n => Bytes.ofInt n
  | .uint n => Bytes.ofInt n
  | .real text => text
  | .string s => quote s
  | .bool b => if b then bytes "true" else bytes "false"
  | .array elements => bytes "[" ++ writeElements elements ++ bytes "]"
  | .object members => bytes "\x7b" ++ writeMembers members ++ bytes "\x7d"

def writeElements : List Value → Bytes
  | [] => []
  | v :: rest => writeValue v ++ (if rest.isEmpty then [] else bytes ",") ++ writeElements rest

def writeMembers : List (Bytes × Value) → Bytes
  | [] => []
  | (key, v) :: rest =>
    quote key ++ bytes ":" ++ writeValue v ++ (if rest.isEmpty then [] else bytes ",") ++
      writeMembers rest

end

/-- `FastWriter::write`. -/
def fastWrite (v : Value) : Bytes := writeValue v ++ bytes "\n"

example : fastWrite (.object [(bytes "a", .string (bytes "x\"y")), (bytes "b", .int (-1))]) =
    bytes "\x7b\"a\":\"x\\\"y\",\"b\":-1\x7d\n" := by decide

/-- The text of a message behind the characters of its member `from`. -/
def afterFrom (m : SessionMessage) : Bytes :=
  bytes "\"," ++
    (writeMembers
        [ (bytes "roap", MessageParser.roapValue m.roap)
        , (bytes "to", .string m.to_)
        , (bytes "type", .int m.type) ] ++
      bytes "\x7d\n")

theorem fastWrite_messageValue (m : SessionMessage) :
    fastWrite (MessageParser.messageValue m) =
      bytes "\x7b\"from\":\"" ++ (escape m.from_ ++ afterFrom m) := by
  rw [fastWrite, MessageParser.messageValue, writeValue, writeMembers, writeValue, afterFrom]
  simp only [quote, List.append_assoc]
  rfl

/-- Bytes that stand for themselves. -/
theorem escape_of_plain {s : Bytes} (h : ∀ c ∈ s, c ≠ 0 ∧ escapeByte c = [c]) : escape s = s := by
  have hnul : 0 ∉ s := fun h0 => (h 0 h0).1 rfl
  rw [escape, Bytes.cStr_eq_self hnul]
  clear hnul
  induction s with
  | nil => rfl
  | cons c s ih =>
    rw [List.flatMap_cons, (h c List.mem_cons_self).2,
      ih fun d hd => h d (List.mem_cons_of_mem c hd)]
    rfl

/-! ## Reading back -/

/-- `asInt`. -/
def Value.asInt : Value → Option Int
  | .null => some 0
  | .int n => some n
  | .uint n => if n < 2 ^ 31 then some n else none
  | .bool b => some (if b then 1 else 0)
  | _ => none

/-- `asString`. -/
def Value.asString : Value → Option Bytes
  | .null => some []
  | .string s => some s
  | .bool b => some (bytes (if b then "true" else "false"))
  | _ => none

/-- `asBool`. -/
def Value.asBool : Value → Option Bool
  | .null => some false
  | .int n => some (n != 0)
  | .uint n => some (n != 0)
  | .string s => some (!s.isEmpty)
  | .bool b => some b
  | .array elements => some (!elements.isEmpty)
  | .object members => some (!members.isEmpty)
  | .real _ => none

end Json

/-- jsoncpp on the texts of `values`: the reader finds the value whose text it
is given and refuses every other text. -/
def JsonLib.over (values : List Json.Value) : JsonLib where
  parse := fun text => values.find? fun v => Json.fastWrite v == text
  write := Json.fastWrite
  asInt := Json.Value.asInt
  asString := Json.Value.asString
  asBool := Json.Value.asBool

theorem JsonLib.parse_over (v : Json.Value) (values : List Json.Value) :
    (JsonLib.over (v :: values)).parse (Json.fastWrite v) = some v := by
  simp only [JsonLib.over, List.find?_cons, beq_self_eq_true]

/-- The parameters of a run on a 64-bit machine whose memory was zero, over the
texts of `values`. -/
def Config.over (values : List Json.Value) : Config where
  json := JsonLib.over values
  codec := SIPCodec.main
  ulongBytes := 8
  payloadMem := 0
  messageMem := { type := 0, roapType := 0, moreComingFlag := false }

/-- The same over the texts of `messages`. -/
def Config.reading (messages : List SessionMessage) : Config :=
  Config.over (messages.map MessageParser.messageValue)

/-- A message of the given ROAP type. -/
def SessionMessage.of (type : RoapType) (offerSessionID sdp : Bytes) : SessionMessage where
  type := 0
  from_ := bytes "alice"
  to_ := bytes "bob"
  roap :=
    { type
      seq := 1
      label := -1
      error := ErrorType.noError
      offerSessionID
      answerSessionID := []
      sdp
      tiebreaker := []
      moreComingFlag := false
      msgSize := -1
      msgContent := [] }

/-- An environment in which `srtp_create` succeeds and ICE has found nothing. -/
def Env.plain : Env where
  mem := { type := 0, roapType := 0, moreComingFlag := false }
  ufrag := bytes "ufrag"
  pwd := bytes "pwd"
  localCandidates := []
  audioPort := 4000
  videoPort := 4002
  aport := 0
  vport := 0
  encryptStatus := .ok
  decryptStatus := .ok

end MediaGateway
