import MediaGateway.SubMG.Invariant

/-!
# Answers in pieces

The connection to a sub-MG is a stream, and `recv` returns its bytes in pieces of any
length.  `SubMG::run` takes each piece for one `CtrlMsg`: a shorter one is filled up
with zeros, and what stands behind the size of a `CtrlMsg` is lost.

* `replies` is the loop of `SubMG::run` as one sub-MG sees it.  `applied_eq_replies`
  says that it is what the thread applies in every run, whatever the other sub-MGs
  and the other thread do, and `applied_of_done` that it is all of it once the thread
  has done with the pieces.
* `replies_iff` says which pieces give the answers of the stream.  A piece that is
  too long puts all later ones behind the stream, and none of them can catch up
  (`replies_behind`): what it would have to be is too short for its ID.
-/

namespace MediaGateway

open Lib

namespace CtrlMsg

/-! ## One piece -/

variable {long : Long} {m : CtrlMsg} {data rest : Bytes}

/-- The message as it is read back: where a `long` has 32 bits, no byte is left for
`pad`. -/
def kept (long : Long) (m : CtrlMsg) : CtrlMsg :=
  match long with
  | .bits32 => { m with pad := 0 }
  | .bits64 => m

@[simp] theorem kept_msgType : (m.kept long).msgType = m.msgType := by cases long <;> rfl

@[simp] theorem kept_port : (m.kept long).port = m.port := by cases long <;> rfl

@[simp] theorem kept_ID : (m.kept long).ID = m.ID := by cases long <;> rfl

/-- The first four bytes are in front of `ID`. -/
theorem four_le_size (long : Long) : 4 ≤ long.size := by cases long <;> decide

@[simp] theorem length_bytes (long : Long) (m : CtrlMsg) : (m.bytes long).length = size long := by
  cases long <;> rfl

/-- The message is read back. -/
theorem ofBuffer_bytes (long : Long) (h : m.ID < 2 ^ 32) :
    ofBuffer long (m.bytes long) = m.kept long := by
  obtain ⟨msgType, codec, port, pad, ID⟩ := m
  have hport : UInt16.ofNat (Framing.ofHeader
      [UInt8.ofNat (port.toNat / 2 ^ 8), UInt8.ofNat port.toNat]) = port := by
    have hlt := port.toNat_lt
    rw [← UInt16.toNat_inj]
    simp only [Framing.ofHeader, List.foldl_cons, List.foldl_nil, UInt8.toNat_ofNat',
      UInt16.toNat_ofNat']
    omega
  have hpad : UInt32.ofNat (Framing.ofHeader (Framing.header pad.toNat)) = pad := by
    rw [Framing.ofHeader_header pad.toNat_lt, UInt32.ofNat_toNat]
  have hID := Framing.ofHeader_header h
  cases long with
  | bits32 =>
    simp only [ofBuffer, bytes, kept]
    congr
  | bits64 =>
    simp only [ofBuffer, bytes, kept]
    congr

/-- A piece that begins with a whole message. -/
theorem received_bytes (h : m.ID < 2 ^ 32) (rest : Bytes) :
    received long (m.bytes long ++ rest) = m.kept long := by
  rw [received, List.append_assoc, ← length_bytes long m, List.take_left, ofBuffer_bytes long h]

/-- A piece that is a whole message. -/
theorem received_self (h : m.ID < 2 ^ 32) : received long (m.bytes long) = m.kept long := by
  have hread := @received_bytes long m h []
  rwa [List.append_nil] at hread

/-- A byte of the buffer. -/
theorem getD_buffer (data : Bytes) {j n : Nat} (hj : j < n) :
    ((data ++ List.replicate n 0).take n).getD j 0 = data.getD j 0 := by
  simp only [List.getD_eq_getElem?_getD, List.getElem?_take_of_lt hj]
  rcases Nat.lt_or_ge j data.length with hlt | hge
  · rw [List.getElem?_append_left hlt]
  · rw [List.getElem?_append_right hge, List.getElem?_eq_none hge]
    rw [List.getElem?_replicate]
    split <;> rfl

theorem received_msgType (long : Long) (data : Bytes) :
    (received long data).msgType = data.getD 0 0 :=
  getD_buffer data (by cases long <;> decide)

theorem four_bytes {buf : Bytes} {d : Nat} (h : d + 4 ≤ buf.length) :
    (buf.drop d).take 4 =
      [buf.getD d 0, buf.getD (d + 1) 0, buf.getD (d + 2) 0, buf.getD (d + 3) 0] := by
  apply List.ext_getElem
  · simp only [List.length_take, List.length_drop, List.length_cons, List.length_nil]
    omega
  · intro i h1 h2
    simp only [List.length_cons, List.length_nil] at h2
    match i with
    | 0 => simp [show d < buf.length by omega]
    | 1 => simp [show d + 1 < buf.length by omega]
    | 2 => simp [show d + 2 < buf.length by omega]
    | 3 => simp [show d + 3 < buf.length by omega]

/-- The ID is in the first four bytes of the second half. -/
theorem received_ID (long : Long) (data : Bytes) :
    (received long data).ID =
      Framing.ofHeader [data.getD long.size 0, data.getD (long.size + 1) 0,
        data.getD (long.size + 2) 0, data.getD (long.size + 3) 0] := by
  have hfour := four_le_size long
  have hlen : ((data ++ List.replicate (size long) 0).take (size long)).length = size long := by
    simp
  have hin : ∀ j, j < long.size + 4 → j < size long := fun j hj => by
    rw [size]
    omega
  rw [received, ofBuffer]
  dsimp only
  rw [four_bytes (by rw [hlen, size]; omega), getD_buffer data (hin _ (by omega)),
    getD_buffer data (hin _ (by omega)), getD_buffer data (hin _ (by omega)),
    getD_buffer data (hin _ (by omega))]

/-- Four bytes are known from the number they stand for. -/
theorem ofHeader_inj {a b c d a' b' c' d' : UInt8}
    (h : Framing.ofHeader [a, b, c, d] = Framing.ofHeader [a', b', c', d']) :
    a = a' ∧ b = b' ∧ c = c' ∧ d = d' := by
  have hlt := fun x : UInt8 => x.toNat_lt
  have ha := hlt a; have hb := hlt b; have hc := hlt c; have hd := hlt d
  have ha' := hlt a'; have hb' := hlt b'; have hc' := hlt c'; have hd' := hlt d'
  simp only [Framing.ofHeader, List.foldl_cons, List.foldl_nil] at h
  refine ⟨?_, ?_, ?_, ?_⟩ <;> rw [← UInt8.toNat_inj] <;> omega

/-- The bytes of a message that are the same in a piece with the same ID. -/
theorem getD_of_ID (hm : m.ID < 2 ^ 32) (h : (received long data).ID = m.ID) {j : Nat}
    (hj : long.size ≤ j) (hj' : j < long.size + 4) :
    data.getD j 0 = (m.bytes long).getD j 0 := by
  have hself : (received long (m.bytes long)).ID = m.ID := by rw [received_self hm, kept_ID]
  rw [← hself, received_ID, received_ID] at h
  obtain ⟨h0, h1, h2, h3⟩ := ofHeader_inj h
  have hcases : j = long.size ∨ j = long.size + 1 ∨ j = long.size + 2 ∨ j = long.size + 3 := by
    omega
  rcases hcases with rfl | rfl | rfl | rfl <;> assumption

/-- The bytes behind the ID are zero. -/
theorem getD_bytes_of_le (m : CtrlMsg) {j : Nat} (hj : long.size + 4 ≤ j) :
    (m.bytes long).getD j 0 = 0 := by
  have hfront : ([ m.msgType, m.codec, UInt8.ofNat (m.port.toNat / 2 ^ 8)
      , UInt8.ofNat m.port.toNat ] ++ (Framing.header m.pad.toNat).take (long.size - 4) ++
        Framing.header m.ID).length = long.size + 4 := by
    cases long <;> rfl
  rw [bytes, List.getD_eq_getElem?_getD, List.getElem?_append_right (by rwa [hfront]),
    List.getElem?_replicate]
  split <;> rfl

/-- An ID whose four bytes are zero. -/
theorem ID_eq_zero (hm : m.ID < 2 ^ 32)
    (h : ∀ j, long.size ≤ j → j < long.size + 4 → (m.bytes long).getD j 0 = 0) : m.ID = 0 := by
  have hself : (received long (m.bytes long)).ID = m.ID := by rw [received_self hm, kept_ID]
  rw [← hself, received_ID, h _ (Nat.le_refl _) (by omega), h _ (by omega) (by omega),
    h _ (by omega) (by omega), h _ (by omega) (by omega)]
  rfl

/-- A part of a message that does not start at its beginning carries another ID: what
stands where the ID is read comes from behind it. -/
theorem ID_of_shifted (hm : m.ID < 2 ^ 32) {d k : Nat} (hd : 0 < d)
    (h : (received long (((m.bytes long).drop d).take k)).ID = m.ID) : m.ID = 0 := by
  have hbyte : ∀ j, (((m.bytes long).drop d).take k).getD j 0 = 0 ∨
      (((m.bytes long).drop d).take k).getD j 0 = (m.bytes long).getD (d + j) 0 := by
    intro j
    rcases Nat.lt_or_ge j k with hlt | hge
    · right
      simp only [List.getD_eq_getElem?_getD, List.getElem?_take_of_lt hlt, List.getElem?_drop]
    · left
      rw [List.getD_eq_getElem?_getD, List.getElem?_eq_none (by rw [List.length_take]; omega)]
      rfl
  -- downwards, each byte is zero or one that stands further back
  have hzero : ∀ n j, long.size + 4 ≤ j + n → long.size ≤ j → (m.bytes long).getD j 0 = 0 := by
    intro n
    induction n with
    | zero => exact fun j hj _ => getD_bytes_of_le m hj
    | succ n ih =>
      intro j hj hsize
      rcases Nat.lt_or_ge j (long.size + 4) with hlt | hge
      · rw [← getD_of_ID hm h hsize hlt]
        rcases hbyte j with heq | heq
        · exact heq
        · rw [heq]
          exact ih (d + j) (by omega) (by omega)
      · exact getD_bytes_of_le m hge
  exact ID_eq_zero hm fun j hsize _ => hzero 4 j (by omega) hsize

/-- A beginning of a message that carries its ID ends in the ID or behind it, and
zeros follow. -/
theorem zero_of_short (hm : m.ID < 2 ^ 32) (hne : m.ID ≠ 0) {k : Nat}
    (h : (received long ((m.bytes long).take k)).ID = m.ID) :
    ∀ b ∈ (m.bytes long).drop k, b = 0 := by
  have hbehind : ∀ j, k ≤ j → long.size ≤ j → (m.bytes long).getD j 0 = 0 := by
    intro j hk hsize
    rcases Nat.lt_or_ge j (long.size + 4) with hlt | hge
    · rw [← getD_of_ID hm h hsize hlt, List.getD_eq_getElem?_getD,
        List.getElem?_eq_none (by rw [List.length_take]; omega)]
      rfl
    · exact getD_bytes_of_le m hge
  have hk : long.size < k := by
    by_contra hle
    exact hne (ID_eq_zero hm fun j hsize _ => hbehind j (by omega) hsize)
  intro b hb
  obtain ⟨j, hj, rfl⟩ := List.getElem_of_mem hb
  have hzero := hbehind (k + j) (by omega) (by omega)
  rw [List.length_drop] at hj
  rw [List.getElem_drop]
  rwa [List.getD_eq_getElem?_getD, List.getElem?_eq_getElem (by omega)] at hzero

/-- And such a beginning is read as the message. -/
theorem received_of_short (hm : m.ID < 2 ^ 32) {k : Nat}
    (h : ∀ b ∈ (m.bytes long).drop k, b = 0) (hk : k ≤ size long) :
    received long ((m.bytes long).take k) = m.kept long := by
  have hbuffer : ((m.bytes long).take k ++ List.replicate (size long) 0).take (size long) =
      m.bytes long := by
    have hdrop : (m.bytes long).drop k = List.replicate (size long - k) 0 :=
      List.eq_replicate_iff.2 ⟨by rw [List.length_drop, length_bytes], h⟩
    rw [List.take_append, List.length_take, length_bytes, Nat.min_eq_left hk, List.take_take,
      Nat.min_eq_right hk, List.take_replicate, Nat.min_eq_left (Nat.sub_le ..), ← hdrop,
      List.take_append_drop]
  rw [received, hbuffer, ofBuffer_bytes long hm]

end CtrlMsg

namespace SubMG

variable {long : Long} {cfg : Config} {s s' : State} {e : Event} {es : List Event}
  {log o : List Entry}
  {issued : Nat → Bool} {m : CtrlMsg} {records : List CtrlMsg} {pieces : List Bytes}

/-! ## All pieces of a connection -/

/-- ID and port of an answer. -/
def reply (msg : CtrlMsg) : Nat × UInt16 := (msg.ID, msg.port)

/-- The answers that `SubMG::run` applies when `recv` returns these pieces for a
sub-MG, `issued` being the IDs in `curstate`.  It ends at a piece of another type, where
the assertion fails, and at an ID that is not issued, for which it waits. -/
def replies (long : Long) (issued : Nat → Bool) : List Bytes → List (Nat × UInt16)
  | [] => []
  | data :: rest =>
    let msg := CtrlMsg.received long data
    if msg.msgType = CTRLMSGTYPE.OK_FOR_START then
      if issued msg.ID then reply msg :: replies long issued rest else []
    else []

/-- The stream of a sub-MG that answers issued requests. -/
def Answers (issued : Nat → Bool) (records : List CtrlMsg) : Prop :=
  ∀ m ∈ records, m.msgType = CTRLMSGTYPE.OK_FOR_START ∧ issued m.ID = true ∧
    0 < m.ID ∧ m.ID < 2 ^ 32

/-- The first answer of the pieces. -/
theorem replies_cons_eq {data : Bytes} {a : Nat × UInt16} {as : List (Nat × UInt16)}
    (h : replies long issued (data :: pieces) = a :: as) :
    (CtrlMsg.received long data).msgType = CTRLMSGTYPE.OK_FOR_START ∧
      reply (CtrlMsg.received long data) = a ∧ replies long issued pieces = as := by
  simp only [replies] at h
  split at h
  · rename_i htype
    split at h
    · obtain ⟨ha, has⟩ := List.cons.inj h
      exact ⟨htype, ha, has⟩
    · cases h
  · cases h

theorem replies_cons_of (htype : m.msgType = CTRLMSGTYPE.OK_FOR_START)
    (hissued : issued m.ID = true) {data : Bytes} (h : CtrlMsg.received long data = m) :
    replies long issued (data :: pieces) = reply m :: replies long issued pieces := by
  simp only [replies, h, htype, hissued, if_true]

/-- A piece that is read as this record. -/
theorem replies_cons_kept (htype : m.msgType = CTRLMSGTYPE.OK_FOR_START)
    (hissued : issued m.ID = true) {data : Bytes} (h : CtrlMsg.received long data = m.kept long) :
    replies long issued (data :: pieces) = reply m :: replies long issued pieces := by
  rw [replies_cons_of (by rwa [CtrlMsg.kept_msgType]) (by rwa [CtrlMsg.kept_ID]) h]
  simp only [reply, CtrlMsg.kept_ID, CtrlMsg.kept_port]

/-- Pieces that start behind a record give other answers than the records that are
left: a piece that ends in its own record is too short for the ID. -/
theorem replies_behind (h : Answers issued records) (hne : records ≠ []) {d : Nat} (hd : 0 < d)
    (hstream : pieces.flatten = (records.flatMap (CtrlMsg.bytes long)).drop d) :
    replies long issued pieces ≠ records.map reply := by
  induction records generalizing pieces d with
  | nil => exact absurd rfl hne
  | cons m records ih =>
    intro heq
    cases pieces with
    | nil => cases heq
    | cons data pieces =>
      obtain ⟨htype, hreply, hrest⟩ := replies_cons_eq heq
      have hID : (CtrlMsg.received long data).ID = m.ID := congrArg Prod.fst hreply
      obtain ⟨-, -, hpos, hlt⟩ := h m List.mem_cons_self
      have hlength := congrArg List.length hstream
      rw [List.flatten_cons, List.flatMap_cons, List.drop_append, CtrlMsg.length_bytes] at hstream
      rcases Nat.lt_or_ge (CtrlMsg.size long) (d + data.length) with hlong | hshort
      · -- the piece reaches into the next record
        have hlater : pieces.flatten =
            (records.flatMap (CtrlMsg.bytes long)).drop (d + data.length - CtrlMsg.size long) := by
          have hdrop := congrArg (List.drop data.length) hstream
          rw [List.drop_left, List.drop_append, List.drop_drop, List.drop_drop, List.length_drop,
            CtrlMsg.length_bytes, List.drop_eq_nil_of_le (by rw [CtrlMsg.length_bytes]; omega),
            List.nil_append] at hdrop
          rw [hdrop]
          congr 1
          omega
        refine ih (fun m' hm' => h m' (List.mem_cons_of_mem m hm')) ?_ (by omega) hlater hrest
        intro heq'
        subst heq'
        have hpiece : data.length ≠ 0 := fun hnil => by
          rw [CtrlMsg.received_msgType, List.length_eq_zero_iff.1 hnil] at htype
          cases htype
        simp only [List.flatten_cons, List.length_append, List.length_drop, List.flatMap_cons,
          List.flatMap_nil, List.append_nil, CtrlMsg.length_bytes] at hlength
        omega
      · have hdata : data = ((m.bytes long).drop d).take data.length := by
          have htake := congrArg (List.take data.length) hstream
          rwa [List.take_left, List.take_append_of_le_length
            (by rw [List.length_drop, CtrlMsg.length_bytes]; omega)] at htake
        rw [hdata] at hID
        have hzero := CtrlMsg.ID_of_shifted hlt hd hID
        omega

/-- Each record comes in a piece of its own.  Of the last one, the zeros it ends in may
come separately: the assertion fails there, but the answer has been applied. -/
def OnePieceEach (long : Long) : List CtrlMsg → List Bytes → Prop
  | [], _ => True
  | _ :: _, [] => False
  | m :: records, data :: pieces =>
    data = m.bytes long ∧ OnePieceEach long records pieces ∨
      records = [] ∧ data.length < CtrlMsg.size long ∧ ∀ b ∈ (m.bytes long).drop data.length, b = 0

/-- A piece that is too short. -/
theorem replies_short_iff (h : Answers issued (m :: records)) {data : Bytes}
    (hpieces : ∀ data ∈ pieces, data ≠ [])
    (hshort : data.length < CtrlMsg.size long)
    (hstream : data ++ pieces.flatten = m.bytes long ++ records.flatMap (CtrlMsg.bytes long)) :
    replies long issued (data :: pieces) = (m :: records).map reply ↔
      records = [] ∧ ∀ b ∈ (m.bytes long).drop data.length, b = 0 := by
  obtain ⟨htype, hissued, hpos, hlt⟩ := h m List.mem_cons_self
  have hbegin : data = (m.bytes long).take data.length := by
    have htake := congrArg (List.take data.length) hstream
    rwa [List.take_left, List.take_append_of_le_length
      (by rw [CtrlMsg.length_bytes]; omega)] at htake
  -- the next piece starts with a zero
  have hnone : (∀ b ∈ (m.bytes long).drop data.length, b = 0) →
      replies long issued pieces = [] := by
    intro hzero
    have hrest : pieces.flatten =
        (m.bytes long).drop data.length ++ records.flatMap (CtrlMsg.bytes long) := by
      have hdrop := congrArg (List.drop data.length) hstream
      rwa [List.drop_left, List.drop_append_of_le_length
        (by rw [CtrlMsg.length_bytes]; omega)] at hdrop
    cases hleft : (m.bytes long).drop data.length with
    | nil =>
      have hle := List.drop_eq_nil_iff.1 hleft
      rw [CtrlMsg.length_bytes] at hle
      omega
    | cons b left =>
      rw [hleft] at hzero hrest
      cases pieces with
      | nil => rfl
      | cons next pieces =>
        cases next with
        | nil => exact absurd rfl (hpieces [] List.mem_cons_self)
        | cons c next =>
          obtain ⟨rfl, -⟩ := List.cons.inj hrest
          have htype' : (CtrlMsg.received long (c :: next)).msgType ≠ CTRLMSGTYPE.OK_FOR_START := by
            rw [CtrlMsg.received_msgType, List.getD_cons_zero, hzero c List.mem_cons_self]
            decide
          rw [replies, if_neg htype']
  constructor
  · intro heq
    obtain ⟨-, hreply, hrest⟩ := replies_cons_eq heq
    have hID : (CtrlMsg.received long data).ID = m.ID := congrArg Prod.fst hreply
    rw [hbegin] at hID
    have hzero := CtrlMsg.zero_of_short hlt (by omega) hID
    rw [hnone hzero] at hrest
    exact ⟨List.map_eq_nil_iff.1 hrest.symm, hzero⟩
  · intro hboth
    rcases hboth with ⟨rfl, hzero⟩
    have hread : CtrlMsg.received long data = m.kept long := by
      rw [hbegin]
      exact CtrlMsg.received_of_short hlt hzero (by omega)
    rw [replies_cons_kept htype hissued hread, hnone hzero]
    rfl

/-- The answers of the pieces are those of the records exactly when each record comes
in a piece of its own. -/
theorem replies_eq_iff (h : Answers issued records) (hpieces : ∀ data ∈ pieces, data ≠ [])
    (hstream : pieces.flatten = records.flatMap (CtrlMsg.bytes long)) :
    replies long issued pieces = records.map reply ↔ OnePieceEach long records pieces := by
  induction records generalizing pieces with
  | nil =>
    cases pieces with
    | nil => exact iff_of_true rfl trivial
    | cons data pieces =>
      have hnil := hpieces data List.mem_cons_self
      rw [List.flatten_cons, List.flatMap_nil, List.append_eq_nil_iff] at hstream
      exact absurd hstream.1 hnil
  | cons m records ih =>
    obtain ⟨htype, hissued, hpos, hlt⟩ := h m List.mem_cons_self
    cases pieces with
    | nil => exact iff_of_false (by intro heq; cases heq) id
    | cons data pieces =>
      have hlater : Answers issued records := fun m' hm' => h m' (List.mem_cons_of_mem m hm')
      have hpieces' : ∀ data ∈ pieces, data ≠ [] := fun data' hdata' =>
        hpieces data' (List.mem_cons_of_mem data hdata')
      rw [List.flatten_cons, List.flatMap_cons] at hstream
      rcases Nat.lt_trichotomy data.length (CtrlMsg.size long) with hshort | hexact | hlong
      · rw [replies_short_iff h hpieces' hshort hstream, OnePieceEach]
        constructor
        · intro hboth
          rcases hboth with ⟨hlast, hzero⟩
          exact .inr ⟨hlast, hshort, hzero⟩
        · intro hcases
          rcases hcases with ⟨heq, -⟩ | ⟨hlast, -, hzero⟩
          · rw [heq, CtrlMsg.length_bytes] at hshort
            exact absurd hshort (Nat.lt_irrefl _)
          · exact ⟨hlast, hzero⟩
      · obtain ⟨rfl, hrest⟩ := List.append_inj hstream (by rw [hexact, CtrlMsg.length_bytes])
        rw [replies_cons_kept htype hissued (CtrlMsg.received_self hlt), List.map_cons,
          List.cons.injEq, OnePieceEach, ih hlater hpieces' hrest]
        constructor
        · intro hboth
          rcases hboth with ⟨-, heach⟩
          exact .inl ⟨rfl, heach⟩
        · intro hcases
          rcases hcases with ⟨-, heach⟩ | ⟨-, hlt', -⟩
          · exact ⟨rfl, heach⟩
          · rw [CtrlMsg.length_bytes] at hlt'
            exact absurd hlt' (Nat.lt_irrefl _)
      · refine iff_of_false (fun heq => ?_) ?_
        · obtain ⟨-, -, hrest⟩ := replies_cons_eq heq
          have hbehind : pieces.flatten =
              (records.flatMap (CtrlMsg.bytes long)).drop (data.length - CtrlMsg.size long) := by
            have hdrop := congrArg (List.drop data.length) hstream
            rwa [List.drop_left, List.drop_append, CtrlMsg.length_bytes,
              List.drop_eq_nil_of_le (by rw [CtrlMsg.length_bytes]; omega),
              List.nil_append] at hdrop
          refine replies_behind hlater ?_ (by omega) hbehind hrest
          intro heq'
          subst heq'
          have hlength := congrArg List.length hstream
          simp only [List.length_append, List.flatMap_nil, List.length_nil,
            CtrlMsg.length_bytes] at hlength
          omega
        · intro hcases
          rcases hcases with ⟨heq, -⟩ | ⟨-, hlt', -⟩
          · rw [heq, CtrlMsg.length_bytes] at hlong
            exact absurd hlong (Nat.lt_irrefl _)
          · omega

/-! ## What the thread applies -/

/-- The data, if the entry is a piece of this sub-MG. -/
def Entry.received? (subMG : Bytes × Nat) : Entry → Option Bytes
  | .received subMG' data => if subMG' = subMG then some data else none
  | _ => none

/-- The answer, if the entry is one of this sub-MG. -/
def Entry.applied? (subMG : Bytes × Nat) : Entry → Option (Nat × UInt16)
  | .applied subMG' ID port => if subMG' = subMG then some (ID, port) else none
  | _ => none

/-- The answer that the thread of `SubMG::run` has taken and not yet applied. -/
def Control.inHand? : Control → Option (Round × CtrlMsg)
  | .wait r msg | .setState r msg | .setFirst r msg | .setSecond r msg => some (r, msg)
  | _ => none

/-- The answers of one sub-MG among them. -/
def State.inHand (s : State) (subMG : Bytes × Nat) : List (Nat × UInt16) :=
  match s.control.inHand? with
  | some (r, msg) => if s.subMG r.i = subMG then [reply msg] else []
  | none => []

/-- The answer that has got past the loop that waits for its ID. -/
def Control.applying? : Control → Option CtrlMsg
  | .setState _ msg | .setFirst _ msg | .setSecond _ msg => some msg
  | _ => none

/-- Each piece that was received is applied, or in hand. -/
structure Taken (long : Long) (s : State) (log : List Entry) : Prop where
  pieces : ∀ subMG, (log.filterMap (Entry.received? subMG)).map
    (fun data => reply (CtrlMsg.received long data)) =
      log.filterMap (Entry.applied? subMG) ++ s.inHand subMG
  type : ∀ subMG, ∀ data ∈ log.filterMap (Entry.received? subMG),
    (CtrlMsg.received long data).msgType = CTRLMSGTYPE.OK_FOR_START
  issued : ∀ subMG, ∀ a ∈ log.filterMap (Entry.applied? subMG), s.curstate a.1 ≠ 0
  applying : ∀ msg, s.control.applying? = some msg → s.curstate msg.ID ≠ 0

theorem taken_init : Taken long init [] where
  pieces := fun _ => rfl
  type := fun _ _ h => by cases h
  issued := fun _ _ h => by cases h
  applying := fun _ h => by cases h

theorem inHand_congr (hava : s'.avaSubMG = s.avaSubMG)
    (hinHand : s'.control.inHand? = s.control.inHand?) (subMG : Bytes × Nat) :
    s'.inHand subMG = s.inHand subMG := by
  have hsubMG : s'.subMG = s.subMG := by
    funext i
    rw [State.subMG, hava]
    rfl
  rw [State.inHand, State.inHand, hinHand, hsubMG]

/-- A step that neither receives nor applies anything. -/
theorem Taken.frame (h : Taken long s log)
    (hgrows : ∀ id, s.curstate id ≠ 0 → s'.curstate id ≠ 0)
    (ho : ∀ subMG, o.filterMap (Entry.received? subMG) = [] ∧
      o.filterMap (Entry.applied? subMG) = [])
    (hhand : ∀ subMG, s'.inHand subMG = s.inHand subMG)
    (happlying : ∀ msg, s'.control.applying? = some msg → s'.curstate msg.ID ≠ 0) :
    Taken long s' (log ++ o) where
  pieces := by
    intro subMG
    obtain ⟨hreceived, happlied⟩ := ho subMG
    rw [List.filterMap_append, List.filterMap_append, hreceived, happlied, List.append_nil,
      List.append_nil, hhand]
    exact h.pieces subMG
  type := by
    intro subMG
    rw [List.filterMap_append, (ho subMG).1, List.append_nil]
    exact h.type subMG
  issued := by
    intro subMG a ha
    rw [List.filterMap_append, (ho subMG).2, List.append_nil] at ha
    exact hgrows a.1 (h.issued subMG a ha)
  applying := happlying

/-- The thread of `CodecConverter::run` has no part in it. -/
theorem entries_requester {env : Outside} (ht : Trans cfg s (.requester env) s' o)
    (subMG : Bytes × Nat) :
    o.filterMap (Entry.received? subMG) = [] ∧ o.filterMap (Entry.applied? subMG) = [] := by
  cases ht <;> exact ⟨rfl, rfl⟩

/-- A piece is received. -/
theorem taken_recv (h : Taken long s log) {r : Round} {data : Bytes} (hpc : s.control = .scan r)
    (htype : (CtrlMsg.received long data).msgType = CTRLMSGTYPE.OK_FOR_START) :
    Taken long { s with control := .wait r (CtrlMsg.received long data) }
      (log ++ [.received (s.subMG r.i) data]) where
  pieces := by
    intro subMG
    have hold : s.inHand subMG = [] := by
      rw [State.inHand, hpc]
      rfl
    have hnew : ({ s with control := .wait r (CtrlMsg.received long data) } : State).inHand subMG =
        if s.subMG r.i = subMG then [reply (CtrlMsg.received long data)] else [] := rfl
    have happlied : [Entry.received (s.subMG r.i) data].filterMap (Entry.applied? subMG) = [] := rfl
    have hreceived : [Entry.received (s.subMG r.i) data].filterMap (Entry.received? subMG) =
        if s.subMG r.i = subMG then [data] else [] := by
      by_cases hsub : s.subMG r.i = subMG <;> simp [Entry.received?, hsub]
    rw [List.filterMap_append, List.filterMap_append, List.map_append, h.pieces subMG, hold,
      happlied, hreceived, hnew, List.append_nil]
    split <;> rfl
  type := by
    intro subMG data' hdata'
    rw [List.filterMap_append] at hdata'
    rcases List.mem_append.1 hdata' with hdata' | hdata'
    · exact h.type subMG data' hdata'
    · obtain ⟨entry, hentry, hsome⟩ := List.mem_filterMap.1 hdata'
      obtain rfl := List.mem_singleton.1 hentry
      simp only [Entry.received?] at hsome
      split at hsome
      · rw [← Option.some.inj hsome]
        exact htype
      · cases hsome
  issued := by
    intro subMG a ha
    rw [List.filterMap_append] at ha
    rcases List.mem_append.1 ha with ha | ha
    · exact h.issued subMG a ha
    · cases ha
  applying := fun _ happlying => by cases happlying

/-- An answer is applied. -/
theorem taken_setSecond (h : Taken long s log) {r : Round} {msg : CtrlMsg}
    (hpc : s.control = .setSecond r msg) {addr : Nat → Bytes × UInt16} :
    Taken long { s with addr, control := .scan r.next }
      (log ++ [.applied (s.subMG r.i) msg.ID msg.port]) where
  pieces := by
    intro subMG
    have hold : s.inHand subMG = if s.subMG r.i = subMG then [reply msg] else [] := by
      rw [State.inHand, hpc]
      rfl
    have hnew : ({ s with addr, control := .scan r.next } : State).inHand subMG = [] := rfl
    have hreceived : [Entry.applied (s.subMG r.i) msg.ID msg.port].filterMap
        (Entry.received? subMG) = [] := rfl
    have happlied : [Entry.applied (s.subMG r.i) msg.ID msg.port].filterMap
        (Entry.applied? subMG) = if s.subMG r.i = subMG then [reply msg] else [] := by
      by_cases hsub : s.subMG r.i = subMG <;> simp [Entry.applied?, hsub, reply]
    rw [List.filterMap_append, List.filterMap_append, hreceived, happlied, List.append_nil,
      h.pieces subMG, hold, hnew, List.append_nil]
  type := by
    intro subMG data hdata
    rw [List.filterMap_append] at hdata
    rcases List.mem_append.1 hdata with hdata | hdata
    · exact h.type subMG data hdata
    · cases hdata
  issued := by
    intro subMG a ha
    rw [List.filterMap_append] at ha
    rcases List.mem_append.1 ha with ha | ha
    · exact h.issued subMG a ha
    · obtain ⟨entry, hentry, hsome⟩ := List.mem_filterMap.1 ha
      obtain rfl := List.mem_singleton.1 hentry
      simp only [Entry.applied?] at hsome
      split at hsome
      · rw [← Option.some.inj hsome]
        exact h.applying msg (by rw [hpc]; rfl)
      · cases hsome
  applying := fun _ happlying => by cases happlying

theorem taken_control (h : Taken cfg.long s log) {env : Outside}
    (ht : Trans cfg s (.control env) s' o) : Taken cfg.long s' (log ++ o) := by
  have hgrows := fun id (hid : s.curstate id ≠ 0) => curstate_grows ht hid
  have hquiet : ∀ subMG, ([] : List Entry).filterMap (Entry.received? subMG) = [] ∧
      ([] : List Entry).filterMap (Entry.applied? subMG) = [] := fun _ => ⟨rfl, rfl⟩
  have hempty : s.control.inHand? = none → s'.control.inHand? = none →
      ∀ subMG, s'.inHand subMG = s.inHand subMG := by
    intro hnone hnone' subMG
    simp only [State.inHand, hnone, hnone']
  cases ht with
  | @recv _ r hpc hlt hready hdata htype => exact taken_recv h hpc htype
  | @setSecond _ r msg hpc => exact taken_setSecond h hpc
  | wait hpc =>
    rw [List.append_nil]
    exact h
  | @waited _ r msg hpc hne =>
    apply h.frame hgrows hquiet (inHand_congr rfl (by rw [hpc]; rfl))
    intro msg' happlying
    cases happlying
    exact hne
  | @setState _ r msg hpc =>
    apply h.frame hgrows hquiet (inHand_congr rfl (by rw [hpc]; rfl))
    intro msg' happlying
    cases happlying
    exact hgrows msg.ID (h.applying msg (by rw [hpc]; rfl))
  | @setFirst _ r msg hpc =>
    apply h.frame hgrows hquiet (inHand_congr rfl (by rw [hpc]; rfl))
    intro msg' happlying
    cases happlying
    exact h.applying msg (by rw [hpc]; rfl)
  | @accept _ r hpc hge =>
    obtain ⟨avaSubMG, heq⟩ := accept_eq r _ s
    refine h.frame hgrows hquiet (hempty (by rw [hpc]; rfl) ?_) ?_
    · rw [heq]
      rfl
    · rw [heq]
      intro msg' happlying
      cases happlying
  | @select _ hpc =>
    exact h.frame hgrows hquiet (hempty (by rw [hpc]; rfl) rfl)
      (fun _ happlying => by cases happlying)
  | @skip _ r hpc hlt hready =>
    exact h.frame hgrows hquiet (hempty (by rw [hpc]; rfl) rfl)
      (fun _ happlying => by cases happlying)
  | @closed _ r hpc hlt hready hdata =>
    exact h.frame hgrows hquiet
      (hempty (by rw [hpc]; rfl) rfl) (fun _ happlying => by cases happlying)

theorem taken_step (h : Taken cfg.long s log) (hstep : (threads cfg).step s e = .ok (s', o)) :
    Taken cfg.long s' (log ++ o) := by
  have ht := step_ok hstep
  have hgrows := fun id (hid : s.curstate id ≠ 0) => curstate_grows ht hid
  cases e with
  | call type myRecvPort destPort pad =>
    obtain ⟨rfl, hcases⟩ := call_eq ht
    have hsame : s'.control = s.control ∧ s'.avaSubMG = s.avaSubMG := by
      rcases hcases with rfl | ⟨-, ⟨r, rfl⟩ | ⟨-, rfl⟩⟩ <;> exact ⟨rfl, rfl⟩
    obtain ⟨hcontrol, hava⟩ := hsame
    refine h.frame hgrows (fun _ => ⟨rfl, rfl⟩) (inHand_congr hava (by rw [hcontrol]))
      fun msg happlying => ?_
    rw [hcontrol] at happlying
    exact hgrows msg.ID (h.applying msg happlying)
  | requester env =>
    obtain ⟨hcontrol, hava, -, -⟩ := requester_curstate ht
    refine h.frame hgrows (entries_requester ht) (inHand_congr hava (by rw [hcontrol]))
      fun msg happlying => ?_
    rw [hcontrol] at happlying
    exact hgrows msg.ID (h.applying msg happlying)
  | control env => exact taken_control h ht

theorem taken_run (h : (threads cfg).run init es = .ok (s, log)) : Taken cfg.long s log :=
  Machine.run_inv (fun _ _ _ _ _ => taken_step) taken_init h

/-- Pieces of the right type, and what comes after them: an answer that is waited for
keeps it back. -/
theorem replies_append_of {xs ys : List (Nat × UInt16)} (rest : List Bytes)
    (htype : ∀ data ∈ pieces, (CtrlMsg.received long data).msgType = CTRLMSGTYPE.OK_FOR_START)
    (hmap : pieces.map (fun data => reply (CtrlMsg.received long data)) = xs ++ ys)
    (hxs : ∀ a ∈ xs, issued a.1 = true) (hys : ys.length ≤ 1) :
    replies long issued (pieces ++ rest) =
      xs ++ if ys.all fun a => issued a.1 then ys ++ replies long issued rest else [] := by
  induction pieces generalizing xs with
  | nil =>
    obtain ⟨rfl, rfl⟩ := List.append_eq_nil_iff.1 hmap.symm
    rfl
  | cons data pieces ih =>
    have hdata := htype data List.mem_cons_self
    have hlater : ∀ data ∈ pieces,
        (CtrlMsg.received long data).msgType = CTRLMSGTYPE.OK_FOR_START :=
      fun data' hdata' => htype data' (List.mem_cons_of_mem data hdata')
    rw [List.map_cons] at hmap
    cases xs with
    | cons a xs =>
      obtain ⟨rfl, hrest⟩ := List.cons.inj hmap
      rw [List.cons_append, replies_cons_of hdata (hxs _ List.mem_cons_self) rfl,
        ih hlater hrest fun a ha => hxs a (List.mem_cons_of_mem _ ha)]
      rfl
    | nil =>
      cases ys with
      | nil => cases hmap
      | cons a ys =>
        obtain rfl := List.length_eq_zero_iff.1 (Nat.le_zero.1 (Nat.le_of_succ_le_succ hys))
        obtain ⟨rfl, hrest⟩ := List.cons.inj hmap
        obtain rfl := List.map_eq_nil_iff.1 hrest
        by_cases hissued : issued (CtrlMsg.received long data).ID = true
        · rw [List.cons_append, replies_cons_of hdata hissued rfl]
          simp [reply, hissued]
        · simp [replies, reply, hdata, hissued]

theorem length_inHand (s : State) (subMG : Bytes × Nat) : (s.inHand subMG).length ≤ 1 := by
  unfold State.inHand
  split
  · split
    · exact Nat.le_refl 1
    · exact Nat.zero_le 1
  · exact Nat.zero_le 1

/-- The IDs in `curstate`. -/
def State.isIssued (s : State) (id : Nat) : Bool := decide (s.curstate id ≠ 0)

/-- In every run, the pieces that a sub-MG has sent so far give what was applied of it.
The answer in hand comes next, and then the pieces to come. -/
theorem applied_eq_replies (h : (threads cfg).run init es = .ok (s, log))
    (subMG : Bytes × Nat) (rest : List Bytes) :
    replies cfg.long s.isIssued (log.filterMap (Entry.received? subMG) ++ rest) =
      log.filterMap (Entry.applied? subMG) ++
        if (s.inHand subMG).all fun a => s.isIssued a.1 then
          s.inHand subMG ++ replies cfg.long s.isIssued rest
        else [] := by
  have hinv := taken_run h
  exact replies_append_of rest (hinv.type subMG) (hinv.pieces subMG)
    (fun a ha => decide_eq_true (hinv.issued subMG a ha)) (length_inHand s subMG)

/-- The thread has done with the pieces of a sub-MG: it has received them all and has no
answer in hand; or it waits for an ID that is not issued; or the assertion fails at the
next piece. -/
def Done (long : Long) (s : State) (log : List Entry) (subMG : Bytes × Nat)
    (pieces : List Bytes) : Prop :=
  ∃ rest, pieces = log.filterMap (Entry.received? subMG) ++ rest ∧
    (s.inHand subMG = [] ∧ rest = [] ∨
      (∃ a ∈ s.inHand subMG, s.curstate a.1 = 0) ∨
      s.inHand subMG = [] ∧
        ∃ data ∈ rest.head?, (CtrlMsg.received long data).msgType ≠ CTRLMSGTYPE.OK_FOR_START)

/-- It has applied what the pieces give. -/
theorem applied_of_done (h : (threads cfg).run init es = .ok (s, log)) {subMG : Bytes × Nat}
    (hdone : Done cfg.long s log subMG pieces) :
    log.filterMap (Entry.applied? subMG) = replies cfg.long s.isIssued pieces := by
  obtain ⟨rest, rfl, hcases⟩ := hdone
  rw [applied_eq_replies h]
  rcases hcases with ⟨hhand, rfl⟩ | ⟨a, ha, hzero⟩ | ⟨hhand, data, hnext, htype⟩
  · rw [hhand]
    exact (List.append_nil _).symm
  · rw [if_neg, List.append_nil]
    intro hall
    have hissued := List.all_eq_true.1 hall a ha
    exact of_decide_eq_true hissued hzero
  · obtain ⟨rest', rfl⟩ := List.head?_eq_some_iff.1 hnext
    rw [hhand, replies, if_neg htype]
    exact (List.append_nil _).symm

/-- For a stream of answers to issued requests, cut into any pieces: when the thread has
done with them, it has applied what `replies` says, and these are the answers of the
stream exactly when each comes in a piece of its own. -/
theorem replies_iff (cfg : Config) (es : List Event)
    (hrun : (threads cfg).run init es = .ok (s, log)) (records : List CtrlMsg)
    (hrecords : ∀ m ∈ records,
      m.msgType = CTRLMSGTYPE.OK_FOR_START ∧ s.curstate m.ID ≠ 0)
    (pieces : List Bytes) (hpieces : ∀ data ∈ pieces, data ≠ [])
    (hstream : pieces.flatten = records.flatMap (CtrlMsg.bytes cfg.long)) :
    (∀ subMG, Done cfg.long s log subMG pieces →
        log.filterMap (Entry.applied? subMG) = replies cfg.long s.isIssued pieces) ∧
      (replies cfg.long s.isIssued pieces = records.map reply ↔
        OnePieceEach cfg.long records pieces) := by
  constructor
  · intro subMG hdone
    exact applied_of_done hrun hdone
  · apply replies_eq_iff _ hpieces hstream
    intro m hm
    obtain ⟨htype, hne⟩ := hrecords m hm
    obtain ⟨⟨hpos, hlt⟩, -⟩ := (issued_run hrun).issued m.ID hne
    exact ⟨htype, decide_eq_true hne, hpos, by omega⟩

/-- The sub-MG of the small runs. -/
def firstSubMG : Bytes × Nat := (bytes "10.0.0.9", 7)

/-- What a run shows of a sub-MG. -/
structure Shown where
  pieces : List Bytes
  applied : List (Nat × UInt16)
  inHand : List (Nat × UInt16)
  deriving DecidableEq

def shown (subMG : Bytes × Nat) (r : State × List Entry) : Shown where
  pieces := r.2.filterMap (Entry.received? subMG)
  applied := r.2.filterMap (Entry.applied? subMG)
  inHand := r.1.inHand subMG

/-- One answer in one piece. -/
theorem replies_call : ∃ s log,
    (threads Config.main).run init
        (connects ++ asks ++ sends firstData ++ List.replicate 4 (.control .quiet)) =
      .ok (s, log) ∧
      log.filterMap (Entry.applied? firstSubMG) = [reply firstAnswer] := by
  obtain ⟨s, log, hrun, hend⟩ := Machine.exists_of_map
    (show ((threads Config.main).run init (connects ++ asks ++ sends firstData ++
        List.replicate 4 (.control .quiet))).toOption.map
          (fun r => (shown firstSubMG r, r.1.curstate 1)) =
      some (⟨[firstData], [reply firstAnswer], []⟩, 2) by decide +kernel)
  simp only [shown, Prod.mk.injEq, Shown.mk.injEq] at hend
  obtain ⟨⟨hpieces, -, hhand⟩, hone⟩ := hend
  have hrecords : ∀ m ∈ [firstAnswer],
      m.msgType = CTRLMSGTYPE.OK_FOR_START ∧ s.curstate m.ID ≠ 0 := by
    intro m hm
    obtain rfl := List.mem_singleton.1 hm
    have hID : firstAnswer.ID = 1 := rfl
    rw [hID, hone]
    decide
  obtain ⟨happlied, hiff⟩ := replies_iff Config.main _ hrun [firstAnswer] hrecords
    [firstData] (by decide) (by decide)
  refine ⟨s, log, hrun, ?_⟩
  rw [happlied firstSubMG ⟨[], by rw [hpieces]; rfl, .inl ⟨hhand, rfl⟩⟩]
  exact hiff.2 (.inl ⟨rfl, trivial⟩)

/-- An answer that is split in the middle of its ID, and two answers that come
together. -/
theorem not_replies :
    (∃ s log,
      (threads Config.main).run init
          (connects ++ asks ++ sends (firstData.take 10)) = .ok (s, log) ∧
        s.curstate firstAnswer.ID ≠ 0 ∧
          Done .bits64 s log firstSubMG
              [firstData.take 10, firstData.drop 10] ∧
            log.filterMap (Entry.applied? firstSubMG) ≠ [reply firstAnswer]) ∧
      ∃ s log,
        (threads Config.main).run init
            (connects ++ asks ++ sends (firstData ++ firstData) ++
              List.replicate 4 (.control .quiet)) = .ok (s, log) ∧
          s.curstate firstAnswer.ID ≠ 0 ∧
            Done .bits64 s log firstSubMG [firstData ++ firstData] ∧
              log.filterMap (Entry.applied? firstSubMG) ≠
                [reply firstAnswer, reply firstAnswer] := by
  have hID : firstAnswer.ID = 1 := rfl
  constructor
  · obtain ⟨s, log, hrun, hend⟩ := Machine.exists_of_map
      (show ((threads Config.main).run init
          (connects ++ asks ++ sends (firstData.take 10))).toOption.map
            (fun r => (shown firstSubMG r, r.1.curstate 0, r.1.curstate 1)) =
        some (⟨[firstData.take 10], [], [(0, 6000)]⟩, 0, 1) by decide +kernel)
    simp only [shown, Prod.mk.injEq, Shown.mk.injEq] at hend
    obtain ⟨⟨hpieces, happlied, hhand⟩, hzero, hone⟩ := hend
    refine ⟨s, log, hrun, ?_, ⟨[firstData.drop 10], ?_, ?_⟩, ?_⟩
    · rw [hID, hone]
      decide
    · rw [hpieces]
      rfl
    · exact .inr (.inl ⟨(0, 6000), by rw [hhand]; exact List.mem_singleton_self _, hzero⟩)
    · rw [happlied]
      decide
  · obtain ⟨s, log, hrun, hend⟩ := Machine.exists_of_map
      (show ((threads Config.main).run init
          (connects ++ asks ++ sends (firstData ++ firstData) ++
            List.replicate 4 (.control .quiet))).toOption.map
              (fun r => (shown firstSubMG r, r.1.curstate 1)) =
        some (⟨[firstData ++ firstData], [reply firstAnswer], []⟩, 2) by
        decide +kernel)
    simp only [shown, Prod.mk.injEq, Shown.mk.injEq] at hend
    obtain ⟨⟨hpieces, happlied, hhand⟩, hone⟩ := hend
    refine ⟨s, log, hrun, ?_, ⟨[], ?_, .inl ⟨hhand, rfl⟩⟩, ?_⟩
    · rw [hID, hone]
      decide
    · rw [hpieces]
      rfl
    · rw [happlied]
      decide

end SubMG

end MediaGateway
