import MediaGateway.FastWriter

/-!
# The JSON values that a message can be read from

`parserSessionMessage` looks at about a dozen members and asks of each only whether
it is null.  A member of another kind makes jsoncpp throw, and a member that is
absent leaves the old value: for `type`, `roap.type` and `roap.moreComingFlag` that
is what happened to be in memory.

`Kinded` says, from the value alone, which kinds the members have to be of, and
`determined_iff` that these are the values from which the parser reads the same
message whatever was in memory.
-/

namespace MediaGateway

open Lib Json

namespace MessageParser

variable (J : JsonLib)

/-! ## Kinds -/

/-- `key` can be looked up in `v`, and what is there is null or can be converted. -/
def Fits {α : Type} (conv : Value → Option α) (key : String) (v : Value) : Prop :=
  ∃ x, v.member (bytes key) = .ok x ∧ (x.isNull = false → (conv x).isSome = true)

/-- `key` can be looked up in `v`, and what is there can be converted and is not
null. -/
def Given {α : Type} (conv : Value → Option α) (key : String) (v : Value) : Prop :=
  ∃ x, v.member (bytes key) = .ok x ∧ x.isNull = false ∧ (conv x).isSome = true

/-- The member `sdp` of the ROAP part: absent, or an object whose own member `sdp`
fits for an offer or an answer and a string for every other type. -/
def SdpFits (roap : Value) : Prop :=
  ∃ x, roap.member (bytes "sdp") = .ok x ∧
    (x.isNull = false → ∀ t type, roap.member (bytes "type") = .ok t → J.asInt t = some type →
      if type = RoapType.offer ∨ type = RoapType.answer then Fits J.asString "sdp" x
      else (J.asString x).isSome = true)

/-- The kinds of the members of the ROAP part. -/
structure RoapKinded (roap : Value) : Prop where
  type : Given J.asInt "type" roap
  offerSessionId : Fits J.asString "offerSessionId" roap
  answerSessionId : Fits J.asString "answerSessionId" roap
  seq : Fits J.asInt "seq" roap
  sdp : SdpFits J roap
  label : Fits J.asInt "label" roap
  error : Fits J.asInt "error" roap
  moreComingFlag : Given J.asBool "moreComingFlag" roap
  tiebreaker : Fits J.asString "tiebreaker" roap
  msgSize : Fits J.asInt "msgSize" roap
  msgContent : Fits J.asString "msgContent" roap

/-- The kinds of the members of a message. -/
structure Kinded (v : Value) : Prop where
  type : Given J.asInt "type" v
  from_ : Fits J.asString "from" v
  to_ : Fits J.asString "to" v
  roap : ∃ roap, v.member (bytes "roap") = .ok roap ∧ roap.isNull = false ∧ RoapKinded J roap

/-- The parser returns, and what it returns does not depend on memory. -/
def Determined (text : Bytes) : Prop :=
  ∃ m, ∀ mem, parserSessionMessage J mem text = .ok m

variable {J}

/-! ## One member -/

theorem fits_iff {α : Type} {conv : Value → Option α} {key : String} {v : Value} (old : α) :
    Fits conv key v ↔ ∃ a, readMember conv key old v = .ok a := by
  constructor
  · intro hex
    rcases hex with ⟨x, hmember, hconv⟩
    cases hnull : x.isNull with
    | true => exact ⟨old, readMember_ok_iff.2 ⟨x, hmember, by rw [hnull, if_pos rfl]⟩⟩
    | false =>
      obtain ⟨a, ha⟩ := Option.isSome_iff_exists.1 (hconv hnull)
      refine ⟨a, readMember_ok_iff.2 ⟨x, hmember, ?_⟩⟩
      rwa [hnull, if_neg Bool.false_ne_true]
  · intro hex
    rcases hex with ⟨a, ha⟩
    obtain ⟨x, hmember, h⟩ := readMember_ok_iff.1 ha
    refine ⟨x, hmember, fun hnull => ?_⟩
    rw [hnull, if_neg Bool.false_ne_true] at h
    rw [h]
    rfl

/-- A member that is given is read without the old value. -/
theorem Given.exists_read {α : Type} {conv : Value → Option α} {key : String} {v : Value}
    (h : Given conv key v) : ∃ a, ∀ old, readMember conv key old v = .ok a := by
  obtain ⟨x, hmember, hnull, hconv⟩ := h
  obtain ⟨a, ha⟩ := Option.isSome_iff_exists.1 hconv
  refine ⟨a, fun old => readMember_ok_iff.2 ⟨x, hmember, ?_⟩⟩
  rwa [hnull, if_neg Bool.false_ne_true]

/-- A member that gives the same for two old values is given. -/
theorem given_of_read {α : Type} {conv : Value → Option α} {key : String} {v : Value}
    {old old' a : α} (hne : old ≠ old') (h : readMember conv key old v = .ok a)
    (h' : readMember conv key old' v = .ok a) : Given conv key v := by
  obtain ⟨x, hmember, hx⟩ := readMember_ok_iff.1 h
  obtain ⟨x', hmember', hx'⟩ := readMember_ok_iff.1 h'
  rw [hmember] at hmember'
  obtain rfl := Except.ok.inj hmember'
  cases hnull : x.isNull with
  | true =>
    rw [hnull, if_pos rfl] at hx hx'
    exact absurd (hx.symm.trans hx') hne
  | false =>
    rw [hnull, if_neg Bool.false_ne_true] at hx
    exact ⟨x, hmember, hnull, by rw [hx]; rfl⟩

/-- The SDP can be read exactly when it fits, for the type that was read before. -/
theorem sdpFits_iff {roap t : Value} {type : RoapType} (old : Bytes)
    (hmember : roap.member (bytes "type") = .ok t) (htype : J.asInt t = some type) :
    SdpFits J roap ↔ ∃ s, readSdp J type old roap = .ok s := by
  have hread : ∀ x, roap.member (bytes "sdp") = .ok x → ∀ s,
      (readSdp J type old roap = .ok s ↔
        if x.isNull then s = []
        else if type = RoapType.offer ∨ type = RoapType.answer then
          readMember J.asString "sdp" old x = .ok s
        else J.asString x = some s) := by
    intro x hx s
    rw [readSdp, bind_ok_iff]
    constructor
    · intro hex
      rcases hex with ⟨x', hx', h⟩
      rw [hx] at hx'
      obtain rfl := Except.ok.inj hx'
      split_ifs at h ⊢ with hnull hoffer
      · exact (Except.ok.inj h).symm
      · exact h
      · cases hs : J.asString x with
        | none =>
          rw [hs] at h
          cases h
        | some s' =>
          rw [hs] at h
          exact congrArg some (Except.ok.inj h)
    · intro h
      refine ⟨x, hx, ?_⟩
      split_ifs at h ⊢ with hnull hoffer
      · rw [h]
        rfl
      · exact h
      · rw [h]
        rfl
  constructor
  · intro hex
    rcases hex with ⟨x, hx, hfits⟩
    cases hnull : x.isNull with
    | true => exact ⟨[], (hread x hx []).2 (by rw [hnull, if_pos rfl])⟩
    | false =>
      have hkind := hfits hnull t type hmember htype
      by_cases hoffer : type = RoapType.offer ∨ type = RoapType.answer
      · rw [if_pos hoffer] at hkind
        obtain ⟨s, hs⟩ := (fits_iff old).1 hkind
        refine ⟨s, (hread x hx s).2 ?_⟩
        rwa [hnull, if_neg Bool.false_ne_true, if_pos hoffer]
      · rw [if_neg hoffer] at hkind
        obtain ⟨s, hs⟩ := Option.isSome_iff_exists.1 hkind
        refine ⟨s, (hread x hx s).2 ?_⟩
        rwa [hnull, if_neg Bool.false_ne_true, if_neg hoffer]
  · intro hex
    rcases hex with ⟨s, hs⟩
    obtain ⟨x, hx, -⟩ := bind_ok_iff.1 hs
    refine ⟨x, hx, fun hnull t' type' hmember' htype' => ?_⟩
    rw [hmember] at hmember'
    obtain rfl := Except.ok.inj hmember'
    rw [htype] at htype'
    obtain rfl := Option.some.inj htype'
    have hkind := (hread x hx s).1 hs
    rw [hnull, if_neg Bool.false_ne_true] at hkind
    split_ifs at hkind ⊢ with hoffer
    · exact (fits_iff old).2 ⟨s, hkind⟩
    · rw [hkind]
      rfl

/-! ## All members -/

/-- A ROAP part of the right kinds is read to the same message over every memory. -/
theorem RoapKinded.exists_read {roap : Value} (h : RoapKinded J roap) :
    ∃ r, ∀ mem, parserRoap J (SessionMessage.fresh mem).roap roap = .ok r := by
  obtain ⟨type, htype⟩ := h.type.exists_read
  obtain ⟨moreComingFlag, hmore⟩ := h.moreComingFlag.exists_read
  obtain ⟨t, hmember, hnull, hconv⟩ := h.type
  have hasInt : J.asInt t = some type := by
    obtain ⟨t', hmember', ht'⟩ := readMember_ok_iff.1 (htype 0)
    rw [hmember] at hmember'
    obtain rfl := Except.ok.inj hmember'
    rwa [hnull, if_neg Bool.false_ne_true] at ht'
  obtain ⟨offerSessionID, hoffer⟩ := (fits_iff []).1 h.offerSessionId
  obtain ⟨answerSessionID, hanswer⟩ := (fits_iff []).1 h.answerSessionId
  obtain ⟨seq, hseq⟩ := (fits_iff (-1)).1 h.seq
  obtain ⟨sdp, hsdp⟩ := (sdpFits_iff [] hmember hasInt).1 h.sdp
  obtain ⟨label, hlabel⟩ := (fits_iff (-1)).1 h.label
  obtain ⟨error, herror⟩ := (fits_iff ErrorType.noError).1 h.error
  obtain ⟨tiebreaker, htie⟩ := (fits_iff []).1 h.tiebreaker
  obtain ⟨msgSize, hsize⟩ := (fits_iff (-1)).1 h.msgSize
  obtain ⟨msgContent, hcontent⟩ := (fits_iff []).1 h.msgContent
  refine ⟨{ type, seq, label, error, offerSessionID, answerSessionID, sdp, tiebreaker,
            moreComingFlag, msgSize, msgContent }, fun mem => parserRoap_ok_iff.2 ?_⟩
  exact ⟨htype _, hoffer, hanswer, hseq, hsdp, hlabel, herror, hmore _, htie, hsize, hcontent⟩

/-- A ROAP part that is read to the same message over two memories that differ is of
the right kinds. -/
theorem roapKinded_of_read {roap : Value} {r : RoapMessage} {mem mem' : Uninit}
    (htype : mem.roapType ≠ mem'.roapType) (hmore : mem.moreComingFlag ≠ mem'.moreComingFlag)
    (h : parserRoap J (SessionMessage.fresh mem).roap roap = .ok r)
    (h' : parserRoap J (SessionMessage.fresh mem').roap roap = .ok r) : RoapKinded J roap := by
  obtain ⟨h1, h2, h3, h4, h5, h6, h7, h8, h9, h10, h11⟩ := parserRoap_ok_iff.1 h
  obtain ⟨h1', -, -, -, -, -, -, h8', -, -, -⟩ := parserRoap_ok_iff.1 h'
  have hgiven : Given J.asInt "type" roap := given_of_read htype h1 h1'
  obtain ⟨t, hmember, hnull, -⟩ := hgiven
  have hasInt : J.asInt t = some r.type := by
    obtain ⟨t', hmember', ht'⟩ := readMember_ok_iff.1 h1
    rw [hmember] at hmember'
    obtain rfl := Except.ok.inj hmember'
    rwa [hnull, if_neg Bool.false_ne_true] at ht'
  exact
    { type := given_of_read htype h1 h1'
      offerSessionId := (fits_iff _).2 ⟨_, h2⟩
      answerSessionId := (fits_iff _).2 ⟨_, h3⟩
      seq := (fits_iff _).2 ⟨_, h4⟩
      sdp := (sdpFits_iff _ hmember hasInt).2 ⟨_, h5⟩
      label := (fits_iff _).2 ⟨_, h6⟩
      error := (fits_iff _).2 ⟨_, h7⟩
      moreComingFlag := given_of_read hmore h8 h8'
      tiebreaker := (fits_iff _).2 ⟨_, h9⟩
      msgSize := (fits_iff _).2 ⟨_, h10⟩
      msgContent := (fits_iff _).2 ⟨_, h11⟩ }

/-- The parser returns a message that does not depend on memory exactly when the
members of the value are of the right kinds. -/
theorem determined_iff {text : Bytes} {v : Value} (hparse : J.parse text = some v) :
    Determined J text ↔ Kinded J v := by
  constructor
  · intro hex
    rcases hex with ⟨m, hm⟩
    let mem : Uninit := { type := 0, roapType := 0, moreComingFlag := false }
    let mem' : Uninit := { type := 1, roapType := 1, moreComingFlag := true }
    obtain ⟨htype, hfrom, hto, roap, hroap, h⟩ := (parserSessionMessage_ok_iff hparse).1 (hm mem)
    obtain ⟨htype', -, -, roap', hroap', h'⟩ := (parserSessionMessage_ok_iff hparse).1 (hm mem')
    rw [hroap] at hroap'
    obtain rfl := Except.ok.inj hroap'
    refine ⟨given_of_read Int.zero_ne_one htype htype', (fits_iff _).2 ⟨_, hfrom⟩,
      (fits_iff _).2 ⟨_, hto⟩, roap, hroap, ?_⟩
    cases hnull : roap.isNull with
    | true =>
      rw [hnull, if_pos rfl] at h h'
      have hsame : mem.roapType = mem'.roapType := congrArg RoapMessage.type (h.symm.trans h')
      exact absurd hsame Int.zero_ne_one
    | false =>
      rw [hnull, if_neg Bool.false_ne_true] at h h'
      exact ⟨rfl, roapKinded_of_read Int.zero_ne_one Bool.false_ne_true h h'⟩
  · intro hkinded
    obtain ⟨type, htype⟩ := hkinded.type.exists_read
    obtain ⟨from_, hfrom⟩ := (fits_iff []).1 hkinded.from_
    obtain ⟨to_, hto⟩ := (fits_iff []).1 hkinded.to_
    obtain ⟨roap, hroap, hnull, hroapKinded⟩ := hkinded.roap
    obtain ⟨r, hr⟩ := hroapKinded.exists_read
    refine ⟨{ type, from_, to_, roap := r }, fun mem => ?_⟩
    apply (parserSessionMessage_ok_iff hparse).2
    refine ⟨htype _, hfrom, hto, roap, hroap, ?_⟩
    rw [hnull, if_neg Bool.false_ne_true]
    exact hr mem

/-- A message with the members that have to be given and no others. -/
def bareValue : Value :=
  .object
    [ (bytes "roap", .object [(bytes "moreComingFlag", .bool false), (bytes "type", .int 3)])
    , (bytes "type", .int 0) ]

theorem determined_bare : Determined (Config.over [bareValue]).json (Json.fastWrite bareValue) := by
  have hparse : (Config.over [bareValue]).json.parse (Json.fastWrite bareValue) = some bareValue :=
    JsonLib.parse_over ..
  have habsent : ∀ {α : Type} (conv : Value → Option α) (key : String) (v : Value),
      v.member (bytes key) = .ok .null → Fits conv key v :=
    fun conv key v hmember => ⟨.null, hmember, fun hnull => by cases hnull⟩
  refine (determined_iff hparse).2 ⟨⟨.int 0, rfl, rfl, rfl⟩, habsent _ _ _ rfl, habsent _ _ _ rfl,
    _, rfl, rfl, ?_⟩
  exact
    { type := ⟨.int 3, rfl, rfl, rfl⟩
      offerSessionId := habsent _ _ _ rfl
      answerSessionId := habsent _ _ _ rfl
      seq := habsent _ _ _ rfl
      sdp := ⟨.null, rfl, fun hnull => by cases hnull⟩
      label := habsent _ _ _ rfl
      error := habsent _ _ _ rfl
      moreComingFlag := ⟨.bool false, rfl, rfl, rfl⟩
      tiebreaker := habsent _ _ _ rfl
      msgSize := habsent _ _ _ rfl
      msgContent := habsent _ _ _ rfl }

/-- An array and an object whose type is an array make jsoncpp throw, and the message
that is read from the empty object has the type that was in memory. -/
theorem not_determined :
    ¬ Determined (Config.over [.array []]).json (Json.fastWrite (.array [])) ∧
      ¬ Determined (Config.over [.object [(bytes "type", .array [])]]).json
        (Json.fastWrite (.object [(bytes "type", .array [])])) ∧
      ¬ Determined (Config.over [.object []]).json (Json.fastWrite (.object [])) := by
  refine ⟨?_, ?_, ?_⟩
  · intro hex
    rcases hex with ⟨m, hm⟩
    have hthrows : parserSessionMessage (Config.over [.array []]).json Env.plain.mem
        (Json.fastWrite (.array [])) = .error .json := rfl
    rw [hm] at hthrows
    cases hthrows
  · intro hex
    rcases hex with ⟨m, hm⟩
    have hthrows : parserSessionMessage (Config.over [.object [(bytes "type", .array [])]]).json
        Env.plain.mem (Json.fastWrite (.object [(bytes "type", .array [])])) = .error .json := rfl
    rw [hm] at hthrows
    cases hthrows
  · intro hex
    rcases hex with ⟨m, hm⟩
    have hzero : (SessionMessage.fresh Env.plain.mem).type = m.type :=
      congrArg SessionMessage.type (Except.ok.inj (hm Env.plain.mem))
    have hone : (SessionMessage.fresh { Env.plain.mem with type := 1 }).type = m.type :=
      congrArg SessionMessage.type (Except.ok.inj (hm { Env.plain.mem with type := 1 }))
    exact absurd (hzero.trans hone.symm) (by decide)

end MessageParser

end MediaGateway
