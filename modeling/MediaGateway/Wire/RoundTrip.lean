import MediaGateway.Wire.Inbound

/-!
# What was sent is what is read

`sendPacket` writes frames and `readPacket` reads them, and neither knows of the
other.  Here the bytes of a list of messages go through both, cut up by `recv`
as it likes and with any number of interruptions: `readPackets_sendAll` says
that the messages come out again in order, and the end of the stream after them.

`readnLoop_settles` is the loop of `readn`, by induction on what `recv` returns.
`readPacket_settles` is one frame, which is the loop twice, and
`readPackets_settles` the list of them.
-/

namespace MediaGateway

open Lib

namespace Etcp

/-! ## One packet -/

theorem readnLoop_settles {len : Nat} {buf data rest : Bytes} {recvs : List Recv}
    (herror : .failed ∉ recvs) :
    Settles data.length rest ((len : Int), buf ++ data) recvs
      (readnLoop len buf data.length { stream := data ++ rest, recvs, conn := .up }) := by
  by_cases hdata : data = []
  · subst hdata
    rw [readnLoop, if_neg (by decide), List.append_nil]
    exact .returns recvs (List.suffix_refl recvs) (Nat.le_refl _)
  · have hlen := List.length_pos_iff.2 hdata
    induction recvs generalizing buf data with
    | nil =>
      rw [readnLoop, if_pos hlen]
      simp only [Socket.recv]
      exact .waits _ hlen
    | cons r recvs ih =>
      have hrest : .failed ∉ recvs := fun h => herror (List.mem_cons_of_mem r h)
      cases r with
      | interrupted =>
        rw [readnLoop, if_pos hlen]
        simp only [Socket.recv]
        exact (ih hrest hdata hlen).after (by rw [chunks_interrupted])
      | failed => exact absurd List.mem_cons_self herror
      | chunk k =>
        obtain ⟨got, missing, rfl, hgot, hrecv⟩ := Socket.recv_chunk hdata rest k recvs
        have hpos := List.length_pos_iff.2 hgot
        rw [readnLoop_of_recv hlen hgot hrecv, List.length_append, Nat.add_sub_cancel_left,
          ← List.append_assoc buf]
        by_cases hmissing : missing = []
        · subst hmissing
          rw [readnLoop, if_neg (by decide), List.append_nil, List.nil_append]
          apply Settles.returns recvs (List.suffix_cons _ recvs)
          rw [chunks_chunk]
          omega
        · apply (ih hrest hmissing (List.length_pos_iff.2 hmissing)).after
          rw [chunks_chunk]
          omega

theorem readn_settles (data rest : Bytes) {recvs : List Recv} (herror : .failed ∉ recvs) :
    Settles data.length rest ((data.length : Int), data) recvs
      (readn { stream := data ++ rest, recvs, conn := .up } data.length) := by
  have h := @readnLoop_settles data.length [] data rest recvs herror
  rwa [List.nil_append] at h

/-- A frame that fits into the buffer. -/
theorem readPacket_settles {payload : Bytes} (hlen : payload.length ≤ BUFFER_SIZE)
    (buf rest : Bytes) {recvs : List Recv} (herror : .failed ∉ recvs) :
    Settles (Framing.frame payload).length rest
      ((payload.length : Int), overwrite buf payload) recvs
      (readPacket { stream := Framing.frame payload ++ rest, recvs, conn := .up } buf
        BUFFER_SIZE) := by
  have hfits : payload.length < 2 ^ 32 := Nat.lt_of_le_of_lt hlen (by decide)
  rw [Framing.length_frame]
  unfold readPacket Framing.frame
  rw [List.append_assoc]
  have hheader := readn_settles (Framing.header payload.length) (payload ++ rest) herror
  rw [Framing.length_header] at hheader
  generalize readn _ 4 = c at hheader ⊢
  cases hheader with
  | waits s hfew => exact .waits s (by omega)
  | returns recvs₁ hsuffix hused =>
    dsimp only
    rw [if_neg (by decide), Framing.ofHeader_header hfits, if_neg (Nat.not_lt.2 hlen)]
    have hpayload := readn_settles payload rest fun h => herror (hsuffix.subset h)
    generalize readn _ payload.length = c at hpayload ⊢
    cases hpayload with
    | waits s hfew => exact .waits s (by omega)
    | returns recvs₂ hsuffix₂ hused₂ =>
      dsimp only
      rw [if_neg (not_not.2 rfl)]
      exact .returns recvs₂ (hsuffix₂.trans hsuffix) (by omega)

theorem readnLoop_end {len need : Nat} (hneed : 0 < need) (buf : Bytes) {recvs : List Recv}
    (herror : .failed ∉ recvs) :
    ((∃ s, readnLoop len buf need { stream := [], recvs, conn := .up } = .waits s) ∧
        chunks recvs = 0) ∨
      ∃ recvs', readnLoop len buf need { stream := [], recvs, conn := .up } =
        .returns ((len : Int) - need, buf) { stream := [], recvs := recvs', conn := .ended } := by
  induction recvs with
  | nil =>
    rw [readnLoop, if_pos hneed]
    exact .inl ⟨⟨_, rfl⟩, rfl⟩
  | cons r recvs ih =>
    rw [readnLoop, if_pos hneed]
    cases r with
    | interrupted =>
      rw [chunks_interrupted]
      exact ih fun h => herror (List.mem_cons_of_mem _ h)
    | failed => exact absurd List.mem_cons_self herror
    | chunk k => exact .inr ⟨recvs, rfl⟩

/-- The end of the stream where a frame would begin. -/
theorem readPacket_end (buf : Bytes) {recvs : List Recv} (herror : .failed ∉ recvs) :
    ((∃ s, readPacket { stream := [], recvs, conn := .up } buf BUFFER_SIZE = .waits s) ∧
        chunks recvs = 0) ∨
      ∃ recvs', readPacket { stream := [], recvs, conn := .up } buf BUFFER_SIZE =
        .returns (0, buf) { stream := [], recvs := recvs', conn := .ended } := by
  unfold readPacket readn
  rcases @readnLoop_end 4 4 (by decide) [] recvs herror with ⟨⟨s, heq⟩, hnone⟩ | ⟨recvs', heq⟩
  · rw [heq]
    exact .inl ⟨⟨s, rfl⟩, hnone⟩
  · rw [heq]
    exact .inr ⟨recvs', rfl⟩

/-! ## A list of messages -/

/-- Successive calls of `readPacket`, each with its buffer: what they return and
the buffers. -/
def readPackets : List Bytes → Socket → Call (List (Int × Bytes))
  | [], s => .returns [] s
  | buf :: bufs, s =>
    match readPacket s buf BUFFER_SIZE with
    | .waits s => .waits s
    | .returns v s =>
      match readPackets bufs s with
      | .waits s => .waits s
      | .returns vs s => .returns (v :: vs) s

/-- What a call of `readPacket` hands over: the length and as many bytes of the
buffer. -/
def handedOver (v : Int × Bytes) : Int × Bytes := (v.1, v.2.take v.1.toNat)

/-- What the peer may send. -/
structure Message where
  text : Bytes
  nonEmpty : text ≠ []
  nulFree : 0 ∉ text
  short : text.length < BUFFER_SIZE

/-- What reading a message is to return. -/
def Message.read (m : Message) : Int × Bytes := (m.text.length, m.text)

/-- `send` accepts each of the buffers as a whole. -/
def InFull (sends : Nat → Send) (msgs : List Message) : Prop :=
  ∀ i m, msgs[i]? = some m → ∃ k, sends i = .accepts k ∧ m.text.length + 4 ≤ k + 1

/-- The bytes that calls of `sendPacketToSG` put into the stream. -/
def written (sends : Nat → Send) (msgs : List Message) : Bytes :=
  (sendAll sends 0 (msgs.map Message.text)).flatMap fun sent => sent.2.bytes

theorem sendPacketToSG_of_accepts (m : Message) {k : Nat} (hk : m.text.length + 4 ≤ k + 1) :
    sendPacketToSG m.text (.accepts k) = .wrote (Framing.frame m.text) := by
  have hself := Bytes.cStr_eq_self m.nulFree
  have hpos : 1 ≤ (Bytes.cStr m.text).length := by
    rw [hself]
    exact List.length_pos_iff.2 m.nonEmpty
  have hlt : (Bytes.cStr m.text).length < BUFFER_SIZE := by
    rw [hself]
    exact m.short
  have hlength : (Framing.frame m.text).length ≤ k + 1 := by
    rwa [Framing.length_frame]
  rw [sendPacketToSG_of_fits hpos hlt, hself]
  dsimp only
  rw [List.take_of_length_le hlength]

/-- The stream is one frame after the other. -/
theorem written_eq {sends : Nat → Send} {msgs : List Message} (h : InFull sends msgs) :
    written sends msgs = Framing.stream (msgs.map Message.text) := by
  have hall : ∀ i, (∀ j m, msgs[j]? = some m →
      ∃ k, sends (i + j) = .accepts k ∧ m.text.length + 4 ≤ k + 1) →
      (sendAll sends i (msgs.map Message.text)).flatMap (fun sent => sent.2.bytes) =
        Framing.stream (msgs.map Message.text) := by
    clear h
    induction msgs with
    | nil => exact fun _ _ => rfl
    | cons m msgs ih =>
      intro i h
      obtain ⟨k, hsend, hk⟩ := h 0 m rfl
      rw [Nat.add_zero] at hsend
      have hwrote : sendPacketToSG m.text (sends i) = .wrote (Framing.frame m.text) := by
        rw [hsend]
        exact sendPacketToSG_of_accepts m hk
      rw [List.map_cons, sendAll_of_wrote hwrote, Framing.stream_cons, List.flatMap_cons,
        ih (i + 1) fun j m' hj => ?_]
      · rfl
      · rw [Nat.add_assoc, Nat.add_comm 1 j]
        exact h (j + 1) m' hj
  exact hall 0 fun j m hj => by
    rw [Nat.zero_add]
    exact h j m hj

theorem handedOver_overwrite (buf : Bytes) (m : Message) :
    handedOver ((m.text.length : Int), overwrite buf m.text) = m.read := by
  rw [handedOver, Message.read, overwrite, Int.toNat_natCast, List.take_left]

/-- Frames and the end of the stream behind them: the calls return, or one of
them waits, and then `recv` has returned too few pieces. -/
theorem readPackets_settles (msgs : List Message) {bufs : List Bytes}
    (hbufs : bufs.length = msgs.length + 1) {recvs : List Recv} (herror : .failed ∉ recvs) :
    ((∃ s, readPackets bufs
          { stream := Framing.stream (msgs.map Message.text), recvs, conn := .up } = .waits s) ∧
        chunks recvs ≤ (Framing.stream (msgs.map Message.text)).length) ∨
      ∃ vs s, readPackets bufs
          { stream := Framing.stream (msgs.map Message.text), recvs, conn := .up } =
            .returns vs s ∧
        vs.map handedOver = msgs.map Message.read ++ [(0, [])] ∧ s.conn = .ended := by
  induction msgs generalizing bufs recvs with
  | nil =>
    obtain ⟨buf, rfl⟩ := List.length_eq_one_iff.1 hbufs
    rcases readPacket_end buf herror with ⟨⟨s, heq⟩, hnone⟩ | ⟨recvs', heq⟩
    · refine .inl ⟨⟨s, ?_⟩, Nat.le_of_eq hnone⟩
      simp only [List.map_nil, Framing.stream_nil, readPackets, heq]
    · refine .inr ⟨[(0, buf)], { stream := [], recvs := recvs', conn := .ended }, ?_, rfl, rfl⟩
      simp only [List.map_nil, Framing.stream_nil, readPackets, heq]
  | cons m msgs ih =>
    cases bufs with
    | nil => cases hbufs
    | cons buf bufs =>
      have hpacket := readPacket_settles (Nat.le_of_lt m.short) buf
        (Framing.stream (msgs.map Message.text)) herror
      rw [List.map_cons, Framing.stream_cons, List.length_append]
      generalize hread : readPacket _ buf _ = c at hpacket
      cases hpacket with
      | waits s hfew =>
        refine .inl ⟨⟨s, ?_⟩, by omega⟩
        simp only [readPackets, hread]
      | returns recvs' hsuffix hused =>
        rcases ih (Nat.succ.inj hbufs) fun h => herror (hsuffix.subset h) with
            ⟨⟨s, heq⟩, hfew⟩ | ⟨vs, s, heq, hvs, hend⟩
        · refine .inl ⟨⟨s, ?_⟩, by omega⟩
          simp only [readPackets, hread, heq]
        · refine .inr ⟨((m.text.length : Int), overwrite buf m.text) :: vs, s, ?_, ?_, hend⟩
          · simp only [readPackets, hread, heq]
          · rw [List.map_cons, List.map_cons, handedOver_overwrite, hvs, List.cons_append]

/-- What `sendPacket` has written is read again, however `recv` cuts it up: one
call of `readPacket` after the other returns the messages in order and then `0`,
as soon as `recv` has returned often enough for that. -/
theorem readPackets_sendAll (msgs : List Message) {sends : Nat → Send}
    (hsends : InFull sends msgs) {bufs : List Bytes} (hbufs : bufs.length = msgs.length + 1)
    {recvs : List Recv} (herror : .failed ∉ recvs) :
    (∀ vs s, readPackets bufs { stream := written sends msgs, recvs, conn := .up } =
        .returns vs s →
      vs.map handedOver = msgs.map Message.read ++ [(0, [])] ∧ s.conn = .ended) ∧
    ((written sends msgs).length < chunks recvs →
      ∃ vs s, readPackets bufs { stream := written sends msgs, recvs, conn := .up } =
        .returns vs s) := by
  rw [written_eq hsends]
  rcases readPackets_settles msgs hbufs herror with ⟨⟨s, heq⟩, hfew⟩ | ⟨vs, s, heq, hvs, hend⟩
  · rw [heq]
    exact ⟨fun _ _ h => (by cases h), fun h => absurd hfew (Nat.not_le.2 h)⟩
  · rw [heq]
    refine ⟨fun vs' s' h => ?_, fun _ => ⟨vs, s, rfl⟩⟩
    obtain ⟨rfl, rfl⟩ := Call.returns.inj h
    exact ⟨hvs, hend⟩

/-- Two messages in pieces of one byte and of three, with interruptions. -/
theorem readPackets_pieces :
    let msgs : List Message :=
      [ ⟨bytes "offer", by decide, by decide, by decide⟩
      , ⟨bytes "ok", by decide, by decide, by decide⟩ ]
    let recvs := (List.replicate 16 [.chunk 0, .interrupted, .chunk 2]).flatten
    ∃ vs s,
      readPackets (List.replicate 3 (List.replicate BUFFER_SIZE 0))
          { stream := written (fun _ => .accepts BUFFER_SIZE) msgs, recvs, conn := .up } =
        .returns vs s ∧
      vs.map handedOver = [(5, bytes "offer"), (2, bytes "ok"), (0, [])] ∧ s.conn = .ended := by
  intro msgs recvs
  have hsends : InFull (fun _ => .accepts BUFFER_SIZE) msgs := by
    intro i m hm
    have hshort : ∀ m ∈ msgs, m.text.length + 4 ≤ BUFFER_SIZE + 1 := by decide
    exact ⟨BUFFER_SIZE, rfl, hshort m (List.mem_of_getElem? hm)⟩
  have hbufs : (List.replicate 3 (List.replicate BUFFER_SIZE (0 : UInt8))).length =
      msgs.length + 1 :=
    List.length_replicate
  have herror : .failed ∉ recvs := by decide
  have h := readPackets_sendAll msgs hsends hbufs herror
  obtain ⟨vs, s, hread⟩ := h.2 (by decide +kernel)
  exact ⟨vs, s, hread, h.1 vs s hread⟩

end Etcp

end MediaGateway
