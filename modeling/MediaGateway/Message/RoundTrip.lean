import MediaGateway.FastWriter

/-!
# Messages written and read back

`packageSessionMessage` and `parserSessionMessage` are written separately, each
with its own list of members.  A member that holds a sentinel is meant to be
absent: the writer gives `Json::Value(NULL)` for `-1`, the reader keeps its own
default `-1` when it finds a null.  But `Json::Value(NULL)` is the number `0`, so
what comes back is `m.written`.

`parse_package` says so for every message, and `round_trip_iff` says which messages
come back as they were.
-/

namespace MediaGateway

open Lib Json

namespace SessionMessage

/-- The strings of a message contain no NUL. -/
def NulFree (m : SessionMessage) : Prop :=
  ∀ s ∈ [ m.from_, m.to_, m.roap.offerSessionID, m.roap.answerSessionID, m.roap.sdp
        , m.roap.tiebreaker, m.roap.msgContent ], 0 ∉ s

instance (m : SessionMessage) : Decidable m.NulFree :=
  inferInstanceAs (Decidable (∀ s ∈ [ _, _, _, _, _, _, _ ], 0 ∉ s))

/-- The number that a member with a sentinel is written as. -/
def writtenNumber (n : Int) : Int := if n = -1 then 0 else n

/-- The message that the text of `m` stands for. -/
def written (m : SessionMessage) : SessionMessage :=
  { m with
    roap :=
      { m.roap with
        label := writtenNumber m.roap.label
        error := writtenNumber m.roap.error
        msgSize := writtenNumber m.roap.msgSize } }

theorem writtenNumber_eq_iff {n : Int} : writtenNumber n = n ↔ n ≠ -1 := by
  unfold writtenNumber
  split <;> omega

/-- A message is the one its text stands for when it holds no sentinel. -/
theorem written_eq_iff (m : SessionMessage) :
    m.written = m ↔ m.roap.label ≠ -1 ∧ m.roap.error ≠ -1 ∧ m.roap.msgSize ≠ -1 := by
  have hfields : m.written = m ↔ writtenNumber m.roap.label = m.roap.label ∧
      writtenNumber m.roap.error = m.roap.error ∧
        writtenNumber m.roap.msgSize = m.roap.msgSize := by
    constructor
    · intro h
      exact ⟨congrArg (fun m => m.roap.label) h, congrArg (fun m => m.roap.error) h,
        congrArg (fun m => m.roap.msgSize) h⟩
    · intro hall
      rcases hall with ⟨hlabel, herror, hsize⟩
      rw [written, hlabel, herror, hsize]
  rw [hfields, writtenNumber_eq_iff, writtenNumber_eq_iff, writtenNumber_eq_iff]

end SessionMessage

/-- What is documented of jsoncpp: `Reader::parse` undoes `FastWriter::write` on the
value of `m` when its strings contain no NUL, and the conversions give back what
the constructors `Value(Int)`, `Value(std::string)` and `Value(bool)` were given. -/
structure JsonLib.Undoes (J : JsonLib) (m : SessionMessage) : Prop where
  parse : m.NulFree → J.parse (J.write (MessageParser.messageValue m)) =
    some (MessageParser.messageValue m)
  asInt : ∀ n, J.asInt (.int n) = some n
  asString : ∀ s, J.asString (.string s) = some s
  asBool : ∀ b, J.asBool (.bool b) = some b

namespace MessageParser

variable {J : JsonLib} {m : SessionMessage}

/-! ## Reading one member back -/

/-- A member that is there and not null. -/
theorem readMember_of_member {α : Type} {conv : Value → Option α} {key : String} {old a : α}
    {v x : Value} (hmember : v.member (bytes key) = .ok x) (hnull : x.isNull = false)
    (hconv : conv x = some a) : readMember conv key old v = .ok a := by
  apply readMember_ok_iff.2
  refine ⟨x, hmember, ?_⟩
  rw [hnull]
  exact hconv

@[simp] theorem sentinel_isNull (n : Int) : (sentinel n).isNull = false := by
  unfold sentinel
  split <;> rfl

theorem asInt_sentinel (hJ : J.Undoes m) (n : Int) :
    J.asInt (sentinel n) = some (SessionMessage.writtenNumber n) := by
  unfold sentinel SessionMessage.writtenNumber
  split
  · exact hJ.asInt 0
  · exact hJ.asInt n

/-- The SDP comes back from the object of an offer or an answer and from the plain
string of every other type. -/
theorem readSdp_roapValue (hJ : J.Undoes m) (old : Bytes) :
    readSdp J m.roap.type old (roapValue m.roap) = .ok m.roap.sdp := by
  have hmember : (roapValue m.roap).member (bytes "sdp") = .ok (sdpValue m.roap) := rfl
  have hnull : (sdpValue m.roap).isNull = false := by
    unfold sdpValue
    split <;> rfl
  rw [readSdp, bind_ok_iff]
  refine ⟨sdpValue m.roap, hmember, ?_⟩
  rw [hnull, if_neg Bool.false_ne_true]
  by_cases htype : m.roap.type = RoapType.offer ∨ m.roap.type = RoapType.answer
  · rw [if_pos htype, sdpValue, if_pos htype]
    exact readMember_of_member rfl rfl (hJ.asString m.roap.sdp)
  · rw [if_neg htype, sdpValue, if_neg htype, hJ.asString]
    rfl

/-- The ROAP part comes back with `0` for its sentinels. -/
theorem parserRoap_roapValue (hJ : J.Undoes m) (old : RoapMessage) :
    parserRoap J old (roapValue m.roap) = .ok m.written.roap := by
  have hint : ∀ (key : String) (old n : Int),
      (roapValue m.roap).member (bytes key) = .ok (.int n) →
        readMember J.asInt key old (roapValue m.roap) = .ok n :=
    fun key old n hmember => readMember_of_member hmember rfl (hJ.asInt n)
  have hstring : ∀ (key : String) (old s : Bytes),
      (roapValue m.roap).member (bytes key) = .ok (.string s) →
        readMember J.asString key old (roapValue m.roap) = .ok s :=
    fun key old s hmember => readMember_of_member hmember rfl (hJ.asString s)
  have hsentinel : ∀ (key : String) (old n : Int),
      (roapValue m.roap).member (bytes key) = .ok (sentinel n) →
        readMember J.asInt key old (roapValue m.roap) =
          .ok (SessionMessage.writtenNumber n) :=
    fun key old n hmember =>
      readMember_of_member hmember (sentinel_isNull n) (asInt_sentinel hJ n)
  apply parserRoap_ok_iff.2
  refine ⟨?_, ?_, ?_, ?_, ?_, ?_, ?_, ?_, ?_, ?_, ?_⟩
  · exact hint "type" old.type m.roap.type rfl
  · exact hstring "offerSessionId" old.offerSessionID m.roap.offerSessionID rfl
  · exact hstring "answerSessionId" old.answerSessionID m.roap.answerSessionID rfl
  · exact hint "seq" old.seq m.roap.seq rfl
  · exact readSdp_roapValue hJ old.sdp
  · exact hsentinel "label" old.label m.roap.label rfl
  · exact hsentinel "error" old.error m.roap.error rfl
  · exact readMember_of_member rfl rfl (hJ.asBool m.roap.moreComingFlag)
  · exact hstring "tiebreaker" old.tiebreaker m.roap.tiebreaker rfl
  · exact hsentinel "msgSize" old.msgSize m.roap.msgSize rfl
  · exact hstring "msgContent" old.msgContent m.roap.msgContent rfl

/-! ## The whole message -/

/-- A message that is written and read back is the one its text stands for, whatever
was in memory. -/
theorem parse_package (hJ : J.Undoes m) (hnul : m.NulFree) (mem : Uninit) :
    parserSessionMessage J mem (packageSessionMessage J m) = .ok m.written := by
  apply (parserSessionMessage_ok_iff (hJ.parse hnul)).2
  refine ⟨?_, ?_, ?_, roapValue m.roap, rfl, ?_⟩
  · exact readMember_of_member rfl rfl (hJ.asInt m.type)
  · exact readMember_of_member rfl rfl (hJ.asString m.from_)
  · exact readMember_of_member rfl rfl (hJ.asString m.to_)
  · exact parserRoap_roapValue hJ (SessionMessage.fresh mem).roap

/-- A message comes back as it was exactly when its label, its error and its message
size are not the sentinel `-1`. -/
theorem round_trip_iff (hJ : J.Undoes m) (hnul : m.NulFree) (mem : Uninit) :
    parserSessionMessage J mem (packageSessionMessage J m) = .ok m ↔
      m.roap.label ≠ -1 ∧ m.roap.error ≠ -1 ∧ m.roap.msgSize ≠ -1 := by
  rw [parse_package hJ hnul mem, Except.ok.injEq, SessionMessage.written_eq_iff]

theorem undoes_reading (m : SessionMessage) (rest : List SessionMessage) :
    (Config.reading (m :: rest)).json.Undoes m where
  parse := fun _ => JsonLib.parse_over ..
  asInt := fun _ => rfl
  asString := fun _ => rfl
  asBool := fun _ => rfl

/-- An offer without a label, an error and a size. -/
def unlabelled : SessionMessage :=
  SessionMessage.of RoapType.offer (bytes "call") (bytes "m=audio 1 RTP/AVP 8\r\n")

/-- The same offer with all three. -/
def labelled : SessionMessage :=
  { unlabelled with roap := { unlabelled.roap with label := 1, error := 3, msgSize := 20 } }

theorem round_trip_labelled :
    labelled.NulFree ∧
      parserSessionMessage (Config.reading [labelled]).json Env.plain.mem
          (packageSessionMessage (Config.reading [labelled]).json labelled) = .ok labelled :=
  ⟨by decide, (round_trip_iff (undoes_reading labelled []) (by decide) _).2 (by decide)⟩

/-- The offer without them comes back with `0` for each. -/
theorem not_round_trip :
    (Config.reading [unlabelled]).json.Undoes unlabelled ∧ unlabelled.NulFree ∧
      parserSessionMessage (Config.reading [unlabelled]).json Env.plain.mem
          (packageSessionMessage (Config.reading [unlabelled]).json unlabelled) ≠
        .ok unlabelled := by
  refine ⟨undoes_reading unlabelled [], by decide, ?_⟩
  rw [parse_package (undoes_reading unlabelled []) (by decide)]
  decide

end MessageParser

end MediaGateway
