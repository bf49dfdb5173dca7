import MediaGateway.CommonType

/-!
# The message parser

`messageparser.cpp`: JSON text to `SessionMessage` and back.

jsoncpp is a library outside the repository (only its headers are here), so it
is a parameter, `JsonLib`: the reader, the `FastWriter` and the conversions
`asInt`, `asString` and `asBool`, where `none` means that the library refuses
the value.  `operator[]` is `Value.member`: jsoncpp allows it on null and on
objects only.

`readMember_ok_iff`, `parserRoap_ok_iff` and `parserSessionMessage_ok_iff` say what
a parse that succeeds has read.
-/

namespace MediaGateway

open Lib

namespace Json

/-- `Json::Value`.  Members of an object are in the order of the map that
holds them.  A real keeps its text. -/
inductive Value
  | null
  | int (n : Int)
  | uint (n : Nat)
  | real (text : Bytes)
  | string (s : Bytes)
  | bool (b : Bool)
  | array (elements : List Value)
  | object (members : List (Bytes × Value))

/-- `isNull`. -/
def Value.isNull : Value → Bool
  | .null => true
  | _ => false

/-- `operator[](const char*)`. -/
def Value.member (key : Bytes) : Value → Except Fault Value
  | .null => .ok .null
  | .object members =>
    match members.find? fun entry => entry.1 == key with
    | some entry => .ok entry.2
    | none => .ok .null
  | _ => .error .json

/-- `Json::Value(NULL)`: the argument is an integer, so the `Int` constructor
is the one chosen. -/
def Value.ofNULL : Value := .int 0

end Json

open Json

/-- What the parser uses of jsoncpp. -/
structure JsonLib where
  /-- `Reader::parse` -/
  parse : Bytes → Option Value
  /-- `FastWriter::write` -/
  write : Value → Bytes
  /-- `Value::asInt` -/
  asInt : Value → Option Int
  /-- `Value::asString` -/
  asString : Value → Option Bytes
  /-- `Value::asBool` -/
  asBool : Value → Option Bool

namespace MessageParser

variable (J : JsonLib)

/-- `if(!v[key].isNull()) field = v[key].asT();` for a field that holds
`old`. -/
def readMember {α : Type} (conv : Value → Option α) (key : String) (old : α) (v : Value) :
    Except Fault α := do
  let x ← v.member (bytes key)
  if x.isNull then
    return old
  else
    match conv x with
    | some a => return a
    | none => throw .json

/-- The `sdp` member: an object with a member `sdp` for an offer or an answer,
a plain string for every other type. -/
def readSdp (type : RoapType) (old : Bytes) (roap : Value) : Except Fault Bytes := do
  let x ← roap.member (bytes "sdp")
  if x.isNull then
    return []
  else if type = RoapType.offer ∨ type = RoapType.answer then
    readMember J.asString "sdp" old x
  else
    match J.asString x with
    | some s => return s
    | none => throw .json

/-- The part of `parserSessionMessage` under `session["roap"]`. -/
def parserRoap (old : RoapMessage) (roap : Value) : Except Fault RoapMessage := do
  let type ← readMember J.asInt "type" old.type roap
  let offerSessionID ← readMember J.asString "offerSessionId" old.offerSessionID roap
  let answerSessionID ← readMember J.asString "answerSessionId" old.answerSessionID roap
  let seq ← readMember J.asInt "seq" old.seq roap
  let sdp ← readSdp J type old.sdp roap
  let label ← readMember J.asInt "label" old.label roap
  let error ← readMember J.asInt "error" old.error roap
  let moreComingFlag ← readMember J.asBool "moreComingFlag" old.moreComingFlag roap
  let tiebreaker ← readMember J.asString "tiebreaker" old.tiebreaker roap
  let msgSize ← readMember J.asInt "msgSize" old.msgSize roap
  let msgContent ← readMember J.asString "msgContent" old.msgContent roap
  return { type, seq, label, error, offerSessionID, answerSessionID, sdp, tiebreaker,
           moreComingFlag, msgSize, msgContent }

/-- `MessageParser::parserSessionMessage`. -/
def parserSessionMessage (mem : Uninit) (message : Bytes) : Except Fault SessionMessage :=
  let old := SessionMessage.fresh mem
  match J.parse message with
  | none => .ok old
  | some session => do
    let type ← readMember J.asInt "type" old.type session
    let from_ ← readMember J.asString "from" old.from_ session
    let to_ ← readMember J.asString "to" old.to_ session
    let roap ← session.member (bytes "roap")
    if roap.isNull then
      return { type, from_, to_, roap := old.roap }
    else
      return { type, from_, to_, roap := ← parserRoap J old.roap roap }

/-- `Json::Value(NULL)` for the value `-1`, the value itself otherwise. -/
def sentinel (n : Int) : Value := if n = -1 then Value.ofNULL else .int n

/-- The `sdp` member that `packageSessionMessage` builds. -/
def sdpValue (m : RoapMessage) : Value :=
  if m.type = RoapType.offer ∨ m.type = RoapType.answer then
    .object
      [ (bytes "sdp", .string m.sdp)
      , (bytes "type", .string (bytes (if m.type = RoapType.offer then "offer" else "answer"))) ]
  else
    .string m.sdp

/-- The value of the `roap` member. -/
def roapValue (m : RoapMessage) : Value :=
  .object
    [ (bytes "answerSessionId", .string m.answerSessionID)
    , (bytes "error", sentinel m.error)
    , (bytes "label", sentinel m.label)
    , (bytes "moreComingFlag", .bool m.moreComingFlag)
    , (bytes "msgContent", .string m.msgContent)
    , (bytes "msgSize", sentinel m.msgSize)
    , (bytes "offerSessionId", .string m.offerSessionID)
    , (bytes "sdp", sdpValue m)
    , (bytes "seq", .int m.seq)
    , (bytes "tiebreaker", .string m.tiebreaker)
    , (bytes "type", .int m.type) ]

/-- The value that `packageSessionMessage` hands to the writer. -/
def messageValue (m : SessionMessage) : Value :=
  .object
    [ (bytes "from", .string m.from_)
    , (bytes "roap", roapValue m.roap)
    , (bytes "to", .string m.to_)
    , (bytes "type", .int m.type) ]

/-- `MessageParser::packageSessionMessage`. -/
def packageSessionMessage (m : SessionMessage) : Bytes := J.write (messageValue m)

/-! ## How parsing fails -/

/-- A computation that jsoncpp alone can make fail. -/
def JsonOnly {α : Type} (x : Except Fault α) : Prop := ∀ f, x = .error f → f = .json

theorem JsonOnly.ok {α : Type} (a : α) : JsonOnly (.ok a) := by
  intro f h
  cases h

theorem JsonOnly.error {α : Type} : JsonOnly (.error .json : Except Fault α) := by
  intro f h
  exact (Except.error.inj h).symm

theorem JsonOnly.bind {α β : Type} {x : Except Fault α} {k : α → Except Fault β}
    (hx : JsonOnly x) (hk : ∀ a, JsonOnly (k a)) : JsonOnly (x >>= k) := by
  intro f h
  cases x with
  | error f' =>
    obtain rfl := Except.error.inj h
    exact hx f' rfl
  | ok a => exact hk a f h

theorem jsonOnly_member (key : Bytes) (v : Value) : JsonOnly (v.member key) := by
  unfold Value.member
  split
  · exact .ok _
  · split
    · exact .ok _
    · exact .ok _
  · exact .error

variable {J}

theorem jsonOnly_readMember {α : Type} (conv : Value → Option α) (key : String) (old : α)
    (v : Value) : JsonOnly (readMember conv key old v) := by
  refine (jsonOnly_member _ v).bind fun x => ?_
  split
  · exact .ok _
  · split
    · exact .ok _
    · exact .error

theorem jsonOnly_readSdp (type : RoapType) (old : Bytes) (roap : Value) :
    JsonOnly (readSdp J type old roap) := by
  refine (jsonOnly_member _ roap).bind fun x => ?_
  split
  · exact .ok _
  · split
    · exact jsonOnly_readMember _ _ _ _
    · split
      · exact .ok _
      · exact .error

theorem jsonOnly_parserRoap (old : RoapMessage) (roap : Value) :
    JsonOnly (parserRoap J old roap) := by
  unfold parserRoap
  refine (jsonOnly_readMember _ _ _ _).bind fun _ => ?_
  refine (jsonOnly_readMember _ _ _ _).bind fun _ => ?_
  refine (jsonOnly_readMember _ _ _ _).bind fun _ => ?_
  refine (jsonOnly_readMember _ _ _ _).bind fun _ => ?_
  refine (jsonOnly_readSdp _ _ _).bind fun _ => ?_
  refine (jsonOnly_readMember _ _ _ _).bind fun _ => ?_
  refine (jsonOnly_readMember _ _ _ _).bind fun _ => ?_
  refine (jsonOnly_readMember _ _ _ _).bind fun _ => ?_
  refine (jsonOnly_readMember _ _ _ _).bind fun _ => ?_
  refine (jsonOnly_readMember _ _ _ _).bind fun _ => ?_
  refine (jsonOnly_readMember _ _ _ _).bind fun _ => ?_
  exact .ok _

/-- Parsing fails in jsoncpp or not at all. -/
theorem jsonOnly_parserSessionMessage (mem : Uninit) (message : Bytes) :
    JsonOnly (parserSessionMessage J mem message) := by
  unfold parserSessionMessage
  dsimp only
  split
  · exact .ok _
  · refine (jsonOnly_readMember _ _ _ _).bind fun _ => ?_
    refine (jsonOnly_readMember _ _ _ _).bind fun _ => ?_
    refine (jsonOnly_readMember _ _ _ _).bind fun _ => ?_
    refine (jsonOnly_member _ _).bind fun roap => ?_
    split
    · exact .ok _
    · refine (jsonOnly_parserRoap _ _).bind fun _ => ?_
      exact .ok _

/-! ## How parsing succeeds -/

theorem bind_ok_iff {α β : Type} {x : Except Fault α} {k : α → Except Fault β} {b : β} :
    x >>= k = .ok b ↔ ∃ a, x = .ok a ∧ k a = .ok b := by
  cases x with
  | error f => exact iff_of_false (fun h => by cases h) (fun ⟨_, h, _⟩ => by cases h)
  | ok a =>
    constructor
    · intro h
      exact ⟨a, rfl, h⟩
    · intro hex
      rcases hex with ⟨a', ha, hk⟩
      obtain rfl := Except.ok.inj ha
      exact hk

/-- A member that is read holds the old value when it is absent or null. -/
theorem readMember_ok_iff {α : Type} {conv : Value → Option α} {key : String} {old a : α}
    {v : Value} :
    readMember conv key old v = .ok a ↔
      ∃ x, v.member (bytes key) = .ok x ∧
        if x.isNull then a = old else conv x = some a := by
  rw [readMember, bind_ok_iff]
  refine exists_congr fun x => and_congr_right fun _ => ?_
  split
  · exact ⟨fun h => (Except.ok.inj h).symm, fun h => congrArg Except.ok h.symm⟩
  · cases conv x with
    | none => exact iff_of_false (fun h => by cases h) (fun h => by cases h)
    | some a' =>
      exact ⟨fun h => congrArg some (Except.ok.inj h),
        fun h => congrArg Except.ok (Option.some.inj h)⟩

/-- The ROAP part is read member by member. -/
theorem parserRoap_ok_iff {old m : RoapMessage} {roap : Value} :
    parserRoap J old roap = .ok m ↔
      readMember J.asInt "type" old.type roap = .ok m.type ∧
      readMember J.asString "offerSessionId" old.offerSessionID roap = .ok m.offerSessionID ∧
      readMember J.asString "answerSessionId" old.answerSessionID roap = .ok m.answerSessionID ∧
      readMember J.asInt "seq" old.seq roap = .ok m.seq ∧
      readSdp J m.type old.sdp roap = .ok m.sdp ∧
      readMember J.asInt "label" old.label roap = .ok m.label ∧
      readMember J.asInt "error" old.error roap = .ok m.error ∧
      readMember J.asBool "moreComingFlag" old.moreComingFlag roap = .ok m.moreComingFlag ∧
      readMember J.asString "tiebreaker" old.tiebreaker roap = .ok m.tiebreaker ∧
      readMember J.asInt "msgSize" old.msgSize roap = .ok m.msgSize ∧
      readMember J.asString "msgContent" old.msgContent roap = .ok m.msgContent := by
  simp only [parserRoap, bind_ok_iff]
  constructor
  · intro hex
    rcases hex with ⟨type, htype, offerSessionID, hoffer, answerSessionID, hanswer, seq, hseq,
      sdp, hsdp, label, hlabel, error, herror, moreComingFlag, hmore, tiebreaker, htie, msgSize,
      hsize, msgContent, hcontent, h⟩
    obtain rfl := Except.ok.inj h
    exact ⟨htype, hoffer, hanswer, hseq, hsdp, hlabel, herror, hmore, htie, hsize, hcontent⟩
  · intro hall
    rcases hall with ⟨htype, hoffer, hanswer, hseq, hsdp, hlabel, herror, hmore, htie, hsize,
      hcontent⟩
    exact ⟨_, htype, _, hoffer, _, hanswer, _, hseq, _, hsdp, _, hlabel, _, herror, _, hmore, _,
      htie, _, hsize, _, hcontent, rfl⟩

/-- A message is read member by member. -/
theorem parserSessionMessage_ok_iff {mem : Uninit} {text : Bytes} {v : Value} {m : SessionMessage}
    (hparse : J.parse text = some v) :
    parserSessionMessage J mem text = .ok m ↔
      readMember J.asInt "type" mem.type v = .ok m.type ∧
      readMember J.asString "from" [] v = .ok m.from_ ∧
      readMember J.asString "to" [] v = .ok m.to_ ∧
      ∃ roap, v.member (bytes "roap") = .ok roap ∧
        if roap.isNull then m.roap = (SessionMessage.fresh mem).roap
        else parserRoap J (SessionMessage.fresh mem).roap roap = .ok m.roap := by
  simp only [parserSessionMessage, hparse, bind_ok_iff]
  constructor
  · intro hex
    rcases hex with ⟨type, htype, from_, hfrom, to_, hto, roap, hroap, h⟩
    split at h
    · rename_i hnull
      obtain rfl := Except.ok.inj h
      exact ⟨htype, hfrom, hto, roap, hroap, by rw [if_pos hnull]⟩
    · rename_i hnull
      obtain ⟨r, hr, h⟩ := bind_ok_iff.1 h
      obtain rfl := Except.ok.inj h
      exact ⟨htype, hfrom, hto, roap, hroap, by rwa [if_neg hnull]⟩
  · intro hex
    rcases hex with ⟨htype, hfrom, hto, roap, hroap, h⟩
    refine ⟨_, htype, _, hfrom, _, hto, roap, hroap, ?_⟩
    split
    · rename_i hnull
      rw [if_pos hnull] at h
      rw [← h]
      rfl
    · rename_i hnull
      rw [if_neg hnull] at h
      exact bind_ok_iff.2 ⟨_, h, rfl⟩

/-! ## Members that nothing initialises -/

/-- The member is there and not null. -/
def sets (key : String) (v : Value) : Bool :=
  match v.member (bytes key) with
  | .ok x => !x.isNull
  | .error _ => false

theorem readMember_of_sets {α : Type} {conv : Value → Option α} {key : String} {v : Value}
    (h : sets key v = true) (old old' : α) :
    readMember conv key old v = readMember conv key old' v := by
  unfold sets at h
  unfold readMember
  cases hmember : v.member (bytes key) with
  | error f =>
    rw [hmember] at h
    cases h
  | ok x =>
    rw [hmember] at h
    simp only [Bool.not_eq_true'] at h
    simp only [bind, Except.bind, h, Bool.false_eq_true, if_false]

/-- The text sets every member that no constructor initialises. -/
def setsMembers (J : JsonLib) (message : Bytes) : Bool :=
  match J.parse message with
  | none => false
  | some session =>
    sets "type" session &&
      match session.member (bytes "roap") with
      | .ok roap => !roap.isNull && sets "type" roap && sets "moreComingFlag" roap
      | .error _ => false

/-- Such a text is read as the same message whatever the memory held. -/
theorem parserSessionMessage_of_sets {message : Bytes} (h : setsMembers J message = true)
    (mem mem' : Uninit) :
    parserSessionMessage J mem message = parserSessionMessage J mem' message := by
  unfold setsMembers at h
  unfold parserSessionMessage
  cases hparse : J.parse message with
  | none =>
    rw [hparse] at h
    cases h
  | some session =>
    simp only [hparse, Bool.and_eq_true] at h
    obtain ⟨htype, hroap⟩ := h
    cases hmember : session.member (bytes "roap") with
    | error f =>
      rw [hmember] at hroap
      cases hroap
    | ok roap =>
      simp only [hmember, Bool.and_eq_true, Bool.not_eq_true'] at hroap
      obtain ⟨⟨hnull, hroapType⟩, hmore⟩ := hroap
      have hparsed : parserRoap J (SessionMessage.fresh mem).roap roap =
          parserRoap J (SessionMessage.fresh mem').roap roap := by
        simp only [parserRoap, SessionMessage.fresh,
          readMember_of_sets hroapType mem.roapType mem'.roapType,
          readMember_of_sets hmore mem.moreComingFlag mem'.moreComingFlag]
      simp only [SessionMessage.fresh, readMember_of_sets htype mem.type mem'.type, hmember, bind,
        Except.bind, hnull, Bool.false_eq_true, if_false]
      simp only [SessionMessage.fresh] at hparsed
      rw [hparsed]

end MessageParser

end MediaGateway
