import MediaGateway.Etcp

/-!
# Messages from the signalling gateway

The peer sends frames, and `messageLoop` is to hand each payload that fits into
the buffer to `handleSessionMessage`, whatever the pieces that `recv` returns.

`readn_comes` and `readPacket_comes` say what one call comes to on a frame that
fits, at every point at which the connection can break.  A frame of no bytes, or
one that is too long, makes `readPacket` return a value that the loop takes for
the end of the connection (`Prompt`), and one that fills the buffer leaves no
terminator; `serves_iff` is about all of these.
-/

namespace MediaGateway

open Lib

namespace Etcp

/-! ## Reading what is there -/

/-- A result that reports an error. -/
abbrev Failed (v : Int × Bytes) : Prop := v.1 = -1

theorem readnLoop_comes {len : Nat} {buf data rest : Bytes} {recvs : List Recv} :
    Comes data rest (fun v => v = ((len : Int), buf ++ data)) Failed
      (readnLoop len buf data.length { stream := data ++ rest, recvs, conn := .up }) := by
  by_cases hdata : data = []
  · subst hdata
    rw [readnLoop]
    exact .returns _ _ (by simp)
  · have hlen := List.length_pos_iff.2 hdata
    induction recvs generalizing buf data with
    | nil =>
      rw [readnLoop, if_pos hlen]
      simp only [Socket.recv]
      exact .waits [] [] data rfl hdata
    | cons r recvs ih =>
      cases r with
      | interrupted =>
        rw [readnLoop, if_pos hlen]
        simp only [Socket.recv]
        exact ih hdata hlen
      | failed =>
        rw [readnLoop, if_pos hlen]
        simp only [Socket.recv]
        exact .fails _ _ [] data rfl rfl hdata
      | chunk k =>
        obtain ⟨got, missing, rfl, hgot, hrecv⟩ := Socket.recv_chunk hdata rest k recvs
        rw [readnLoop_of_recv hlen hgot hrecv, List.length_append, Nat.add_sub_cancel_left]
        by_cases hmissing : missing = []
        · subst hmissing
          rw [readnLoop]
          exact .returns _ _ (by simp)
        · refine ((ih hmissing (List.length_pos_iff.2 hmissing)).prepend got).mono fun v hv => ?_
          rw [hv, List.append_assoc]

theorem readn_comes (data rest : Bytes) (recvs : List Recv) :
    Comes data rest (fun v => v = ((data.length : Int), data)) Failed
      (readn { stream := data ++ rest, recvs, conn := .up } data.length) := by
  have h := @readnLoop_comes data.length [] data rest recvs
  rwa [List.nil_append] at h

/-- A frame that fits into the buffer. -/
theorem readPacket_comes {payload : Bytes} {len : Nat} (hlen : payload.length ≤ len)
    (hfits : payload.length < 2 ^ 32) (buf rest : Bytes) (recvs : List Recv) :
    Comes (Framing.frame payload) rest
      (fun v => v = ((payload.length : Int), overwrite buf payload)) Failed
      (readPacket { stream := Framing.frame payload ++ rest, recvs, conn := .up } buf len) := by
  unfold readPacket Framing.frame
  rw [List.append_assoc]
  have hheader := readn_comes (Framing.header payload.length) (payload ++ rest) recvs
  rw [Framing.length_header] at hheader
  generalize readn _ 4 = c at hheader ⊢
  cases hheader with
  | waits recvs' got missing hdata hmissing =>
    rw [hdata, ← List.append_assoc missing, List.append_assoc got]
    exact .waits recvs' got (missing ++ payload) rfl (List.append_ne_nil_of_left_ne_nil hmissing _)
  | fails v recvs' got missing hv hdata hmissing =>
    have hne : v.1 ≠ 4 := by
      rw [hv]
      decide
    dsimp only
    rw [if_pos hne, hdata, ← List.append_assoc missing, List.append_assoc got]
    refine .fails _ recvs' got (missing ++ payload) ?_ rfl
      (List.append_ne_nil_of_left_ne_nil hmissing _)
    rw [Failed, hv]
    rfl
  | returns v recvs' hv =>
    subst hv
    have hlength : Framing.ofHeader (Framing.header payload.length) = payload.length :=
      Framing.ofHeader_header hfits
    simp only [hlength, Nat.not_lt.2 hlen, if_false]
    rw [if_neg (by decide)]
    refine Comes.prepend ?_ (Framing.header payload.length)
    have hpayload := readn_comes payload rest recvs'
    generalize readn _ payload.length = c at hpayload ⊢
    cases hpayload with
    | waits recvs' got missing hdata hmissing => exact .waits recvs' got missing hdata hmissing
    | fails v recvs' got missing hv hdata hmissing =>
      have hne : v.1 ≠ (payload.length : Int) := by
        rw [hv]
        omega
      dsimp only
      rw [if_pos hne]
      refine .fails _ recvs' got missing ?_ hdata hmissing
      rw [Failed, hv]
      rfl
    | returns v recvs' hv =>
      subst hv
      dsimp only
      rw [if_neg (not_not.2 rfl)]
      exact .returns _ recvs' rfl

/-- A read when no more bytes will come. -/
theorem readnLoop_nil {len need : Nat} (hneed : 0 < need) (buf : Bytes) (recvs : List Recv) :
    (∃ recvs', readnLoop len buf need { stream := [], recvs, conn := .up } =
        .waits { stream := [], recvs := recvs', conn := .up }) ∨
      ∃ v recvs' conn, (v.1 = -1 ∨ v.1 = (len : Int) - need) ∧ conn ≠ .up ∧
        readnLoop len buf need { stream := [], recvs, conn := .up } =
          .returns v { stream := [], recvs := recvs', conn } := by
  induction recvs with
  | nil =>
    rw [readnLoop, if_pos hneed]
    exact .inl ⟨[], rfl⟩
  | cons r recvs ih =>
    rw [readnLoop, if_pos hneed]
    cases r with
    | interrupted => exact ih
    | failed => exact .inr ⟨(-1, buf), recvs, .failed, .inl rfl, by decide, rfl⟩
    | chunk k => exact .inr ⟨(len - need, buf), recvs, .ended, .inr rfl, by decide, rfl⟩

/-- The end of the connection, or its failure, where a frame would begin. -/
theorem readPacket_nil (buf : Bytes) (len : Nat) (recvs : List Recv) :
    (∃ recvs', readPacket { stream := [], recvs, conn := .up } buf len =
        .waits { stream := [], recvs := recvs', conn := .up }) ∨
      ∃ v recvs' conn, v.1 ≤ 0 ∧ conn ≠ .up ∧
        readPacket { stream := [], recvs, conn := .up } buf len =
          .returns v { stream := [], recvs := recvs', conn } := by
  have hread := @readnLoop_nil 4 4 (by decide) [] recvs
  unfold readPacket readn
  rcases hread with ⟨recvs', heq⟩ | ⟨v, recvs', conn, hv, hconn, heq⟩
  · rw [heq]
    exact .inl ⟨recvs', rfl⟩
  · have hne : v.1 ≠ 4 := by omega
    rw [heq]
    dsimp only
    rw [if_pos hne]
    refine .inr ⟨_, recvs', conn, ?_, hconn, rfl⟩
    dsimp only
    split <;> omega

/-! ## The loop -/

section messageLoop

variable {beyond : Nat → Bytes} {i : Nat} {s s' : Socket} {v : Int × Bytes}

theorem messageLoop_waits
    (h : readPacket s (List.replicate BUFFER_SIZE 0) BUFFER_SIZE = .waits s') :
    messageLoop beyond i s = { messages := [], left := false, socket := s' } := by
  rw [messageLoop]
  split <;> simp_all

theorem messageLoop_leaves
    (h : readPacket s (List.replicate BUFFER_SIZE 0) BUFFER_SIZE = .returns v s')
    (hv : v.1 ≤ 0) :
    messageLoop beyond i s = { messages := [], left := true, socket := s' } := by
  rw [messageLoop]
  split
  · simp_all
  · rename_i heq
    rw [h] at heq
    obtain ⟨rfl, rfl⟩ := Call.returns.inj heq
    rw [if_pos hv]

theorem messageLoop_goesOn
    (h : readPacket s (List.replicate BUFFER_SIZE 0) BUFFER_SIZE = .returns v s')
    (hv : 0 < v.1) :
    messageLoop beyond i s =
      { messageLoop beyond (i + 1) s' with
        messages := Bytes.cStr (v.2 ++ beyond i) :: (messageLoop beyond (i + 1) s').messages } := by
  rw [messageLoop]
  split
  · simp_all
  · rename_i heq
    rw [h] at heq
    obtain ⟨rfl, rfl⟩ := Call.returns.inj heq
    rw [if_neg (Int.not_le.2 hv)]

end messageLoop

/-- A payload that fits and leaves room for a terminator comes out of the buffer
as it was sent. -/
theorem cStr_overwrite {payload : Bytes} (hnul : 0 ∉ payload) (hlen : payload.length < BUFFER_SIZE)
    (behind : Bytes) :
    Bytes.cStr (overwrite (List.replicate BUFFER_SIZE 0) payload ++ behind) = payload := by
  obtain ⟨k, hk⟩ : ∃ k, BUFFER_SIZE - payload.length = k + 1 :=
    ⟨BUFFER_SIZE - payload.length - 1, by omega⟩
  rw [overwrite, List.drop_replicate, hk, List.append_assoc, Bytes.cStr_append hnul,
    List.replicate_succ]
  exact List.append_nil payload

/-- The frames whose payload the gateway is to handle. -/
def wanted (payload : Bytes) : Bool :=
  decide (1 ≤ payload.length) && decide (payload.length ≤ BUFFER_SIZE)

/-- What the loop is to do with a stream of frames: it has read some of them
whole and a strict part of the next one, it has handed over those that it is to
handle, and it has not left before the connection ended or failed. -/
def Served (payloads : List Bytes) (r : Received) : Prop :=
  ∃ done rest part, payloads = done ++ rest ∧
    Framing.stream payloads = Framing.stream done ++ part ++ r.socket.stream ∧
    (∀ next ∈ rest.head?, part.length < (Framing.frame next).length) ∧
    r.messages = done.filter wanted ∧
    (r.left = true → r.socket.conn ≠ .up)

/-- A frame that is handled, in front of others. -/
theorem Served.cons {payload : Bytes} {payloads : List Bytes} {r : Received}
    (h : Served payloads r) (hwanted : wanted payload = true) :
    Served (payload :: payloads) { r with messages := payload :: r.messages } := by
  obtain ⟨done, rest, part, hsplit, hstream, hpart, hmessages, hleft⟩ := h
  refine ⟨payload :: done, rest, part, ?_, ?_, hpart, ?_, hleft⟩
  · rw [hsplit, List.cons_append]
  · rw [Framing.stream_cons, Framing.stream_cons, hstream, List.append_assoc, List.append_assoc,
      List.append_assoc]
  · rw [List.filter_cons_of_pos hwanted, hmessages]

theorem served_messageLoop (beyond : Nat → Bytes) {payloads : List Bytes}
    (hnul : ∀ p ∈ payloads, 0 ∉ p)
    (hlen : ∀ p ∈ payloads, 1 ≤ p.length ∧ p.length < BUFFER_SIZE) (i : Nat)
    (recvs : List Recv) :
    Served payloads
      (messageLoop beyond i { stream := Framing.stream payloads, recvs, conn := .up }) := by
  induction payloads generalizing i recvs with
  | nil =>
    rcases readPacket_nil (List.replicate BUFFER_SIZE 0) BUFFER_SIZE recvs with
        ⟨recvs', heq⟩ | ⟨v, recvs', conn, hv, hconn, heq⟩
    · rw [Framing.stream_nil, messageLoop_waits heq]
      exact ⟨[], [], [], rfl, rfl, by simp, rfl, fun h => by cases h⟩
    · rw [Framing.stream_nil, messageLoop_leaves heq hv]
      exact ⟨[], [], [], rfl, rfl, by simp, rfl, fun _ => hconn⟩
  | cons p ps ih =>
    obtain ⟨hpos, hroom⟩ := hlen p List.mem_cons_self
    have hfits : p.length < 2 ^ 32 := Nat.lt_trans hroom (by decide)
    have hpacket := readPacket_comes (Nat.le_of_lt hroom) hfits (List.replicate BUFFER_SIZE 0)
      (Framing.stream ps) recvs
    rw [Framing.stream_cons]
    generalize hread : readPacket _ _ _ = c at hpacket
    have hstrict : ∀ got missing, Framing.frame p = got ++ missing → missing ≠ [] →
        ∀ next ∈ (p :: ps).head?, got.length < (Framing.frame next).length := by
      intro got missing hdata hmissing next hnext
      obtain rfl : p = next := by simpa using hnext
      have hlength := List.length_pos_iff.2 hmissing
      rw [hdata, List.length_append]
      omega
    cases hpacket with
    | waits recvs' got missing hdata hmissing =>
      rw [messageLoop_waits hread]
      refine ⟨[], p :: ps, got, rfl, ?_, hstrict got missing hdata hmissing, rfl,
        fun h => by cases h⟩
      rw [Framing.stream_cons, hdata, List.append_assoc]
      rfl
    | fails v recvs' got missing hv hdata hmissing =>
      have hneg : v.1 ≤ 0 := by
        rw [hv]
        decide
      rw [messageLoop_leaves hread hneg]
      refine ⟨[], p :: ps, got, rfl, ?_, hstrict got missing hdata hmissing, rfl,
        fun _ => Conn.noConfusion⟩
      rw [Framing.stream_cons, hdata, List.append_assoc]
      rfl
    | returns v recvs' hv =>
      subst hv
      have hmore : (0 : Int) < p.length := Int.ofNat_lt.2 hpos
      rw [messageLoop_goesOn hread hmore, cStr_overwrite (hnul p List.mem_cons_self) hroom]
      have hrest := ih (fun q hq => hnul q (List.mem_cons_of_mem p hq))
        (fun q hq => hlen q (List.mem_cons_of_mem p hq)) (i + 1) recvs'
      apply hrest.cons
      rw [wanted, decide_eq_true hpos, decide_eq_true (Nat.le_of_lt hroom)]
      rfl

/-! ## A connection that is prompt

Every call of `recv` returns what is asked for, as far as the buffer goes. -/

/-- A socket on which `n` calls of `recv` return as much as they can. -/
def prompt (stream : Bytes) (n : Nat) : Socket where
  stream := stream
  recvs := List.replicate n (.chunk BUFFER_SIZE)
  conn := .up

theorem readn_prompt {data : Bytes} (hlen : data.length ≤ BUFFER_SIZE) (rest : Bytes) {n : Nat}
    (hn : data.length ≤ n) :
    ∃ m, n ≤ m + data.length ∧
      readn (prompt (data ++ rest) n) data.length =
        .returns ((data.length : Int), data) (prompt rest m) := by
  by_cases hdata : data = []
  · subst hdata
    refine ⟨n, Nat.le_refl n, ?_⟩
    rw [readn, readnLoop]
    rfl
  · have hpos := List.length_pos_iff.2 hdata
    obtain ⟨k, rfl⟩ : ∃ k, n = k + 1 := ⟨n - 1, by omega⟩
    have hrecv : (prompt (data ++ rest) (k + 1)).recv data.length =
        .returns (.data data) (prompt rest k) := by
      have hmin : min (BUFFER_SIZE + 1) data.length = data.length :=
        Nat.min_eq_right (Nat.le_succ_of_le hlen)
      have hsome : data ++ rest ≠ [] := List.append_ne_nil_of_left_ne_nil hdata rest
      simp only [Socket.recv, prompt, List.replicate_succ, if_neg hsome, hmin, List.take_left',
        List.drop_left']
    refine ⟨k, by omega, ?_⟩
    rw [readn, readnLoop_of_recv hpos hdata hrecv, Nat.sub_self, readnLoop]
    rfl

theorem drain_prompt (data rest buf : Bytes) (len n : Nat)
    (hlen : 0 < data.length → 0 < len ∧ len ≤ data.length) (hmax : len ≤ BUFFER_SIZE)
    (hn : data.length ≤ n) :
    ∃ buf' m, drain (prompt (data ++ rest) n) buf len data.length =
      .returns (-1, buf') (prompt rest m) := by
  induction hsize : data.length using Nat.strong_induction_on generalizing data buf len n with
  | _ size ih =>
    rw [drain]
    by_cases hpos : 0 < size
    · obtain ⟨hlen0, hle⟩ := hlen (by omega)
      have hgot : (data.take len).length = len := by
        rw [List.length_take, Nat.min_eq_left hle]
      have hmissing : (data.drop len).length = size - len := by
        rw [List.length_drop, hsize]
      obtain ⟨m, hm, hread⟩ := readn_prompt (n := n) (by rw [hgot]; exact hmax)
        (data.drop len ++ rest) (by omega)
      rw [← List.append_assoc, List.take_append_drop, hgot] at hread
      rw [if_pos hpos, if_pos hlen0, hread]
      dsimp only
      rw [if_neg (not_not.2 rfl)]
      obtain ⟨buf', m', hrest⟩ := ih (size - len) (by omega) (data.drop len)
        (overwrite buf (data.take len)) (if size - len < len then size - len else len) m
        (fun _ => by split <;> omega) (by split <;> omega) (by omega) hmissing
      exact ⟨buf', m', hrest⟩
    · have hnil : data = [] := List.length_eq_zero_iff.1 (by omega)
      rw [if_neg hpos, hnil]
      exact ⟨buf, n, rfl⟩

/-- What `readPacket` returns for a frame of any length. -/
theorem readPacket_prompt {payload : Bytes} (hfits : payload.length < 2 ^ 32) (rest : Bytes)
    {n : Nat} (hn : (Framing.frame payload).length ≤ n) (buf : Bytes) :
    ∃ v m, readPacket (prompt (Framing.frame payload ++ rest) n) buf BUFFER_SIZE =
        .returns v (prompt rest m) ∧
      if BUFFER_SIZE < payload.length then v.1 = -1
      else v = ((payload.length : Int), overwrite buf payload) ∧
        n ≤ m + (Framing.frame payload).length := by
  rw [Framing.length_frame] at hn
  have hfour : (Framing.header payload.length).length ≤ BUFFER_SIZE := by
    rw [Framing.length_header]
    decide
  obtain ⟨k, hk, hheader⟩ := readn_prompt hfour (payload ++ rest) (n := n)
    (by rw [Framing.length_header]; omega)
  rw [Framing.length_header] at hk hheader
  have hlength : Framing.ofHeader (Framing.header payload.length) = payload.length :=
    Framing.ofHeader_header hfits
  unfold readPacket Framing.frame
  rw [List.append_assoc, hheader]
  dsimp only
  rw [if_neg (by decide), hlength]
  split
  · rename_i hlong
    obtain ⟨buf', m, hdrain⟩ := drain_prompt payload rest buf BUFFER_SIZE k
      (fun _ => ⟨by decide, Nat.le_of_lt hlong⟩) (Nat.le_refl _) (by omega)
    exact ⟨(-1, buf'), m, hdrain, rfl⟩
  · rename_i hshort
    obtain ⟨m, hm, hread⟩ := readn_prompt (Nat.le_of_not_lt hshort) rest (n := k) (by omega)
    rw [hread]
    dsimp only
    rw [if_neg (not_not.2 rfl)]
    refine ⟨_, m, rfl, rfl, ?_⟩
    rw [List.length_append, Framing.length_header]
    omega

/-- A frame of no bytes, one that fills the buffer and one that is too long. -/
def Misread (payload : Bytes) : Prop := payload.length = 0 ∨ BUFFER_SIZE ≤ payload.length

/-- On a stream with such a frame the loop leaves while the connection is up, or
hands over a string that no frame can hold. -/
theorem messageLoop_misread (beyond : Nat → Bytes) (hbeyond : ∀ i, beyond i = [1])
    {payloads : List Bytes} (hnul : ∀ p ∈ payloads, 0 ∉ p)
    (hfits : ∀ p ∈ payloads, p.length < 2 ^ 32) (hbad : ∃ p ∈ payloads, Misread p) (i n : Nat)
    (hn : (Framing.stream payloads).length ≤ n) :
    (messageLoop beyond i (prompt (Framing.stream payloads) n)).left = true ∧
        (messageLoop beyond i (prompt (Framing.stream payloads) n)).socket.conn = .up ∨
      ∃ m ∈ (messageLoop beyond i (prompt (Framing.stream payloads) n)).messages,
        BUFFER_SIZE < m.length := by
  induction payloads generalizing i n with
  | nil =>
    obtain ⟨p, hp, -⟩ := hbad
    cases hp
  | cons p ps ih =>
    rw [Framing.stream_cons] at hn ⊢
    rw [List.length_append] at hn
    obtain ⟨v, m, hread, hv⟩ := readPacket_prompt (hfits p List.mem_cons_self)
      (Framing.stream ps) (n := n) (by omega) (List.replicate BUFFER_SIZE 0)
    by_cases hlong : BUFFER_SIZE < p.length
    · rw [if_pos hlong] at hv
      rw [messageLoop_leaves hread (by omega)]
      exact .inl ⟨rfl, rfl⟩
    · rw [if_neg hlong] at hv
      obtain ⟨rfl, hm⟩ := hv
      by_cases hempty : p.length = 0
      · have hzero : ((p.length : Int), overwrite (List.replicate BUFFER_SIZE 0) p).1 ≤ 0 := by
          dsimp only
          omega
        rw [messageLoop_leaves hread hzero]
        exact .inl ⟨rfl, rfl⟩
      · have hmore : 0 < ((p.length : Int), overwrite (List.replicate BUFFER_SIZE 0) p).1 := by
          dsimp only
          omega
        rw [messageLoop_goesOn hread hmore]
        by_cases hfull : BUFFER_SIZE ≤ p.length
        · refine .inr ⟨_, List.mem_cons_self, ?_⟩
          have hover : overwrite (List.replicate BUFFER_SIZE 0) p = p := by
            rw [overwrite, List.drop_of_length_le (by rw [List.length_replicate]; exact hfull),
              List.append_nil]
          rw [hover, hbeyond, Bytes.cStr_append (hnul p List.mem_cons_self), List.length_append]
          exact Nat.lt_succ_of_le hfull
        · have hbad' : ∃ q ∈ ps, Misread q := by
            obtain ⟨q, hq, hmis⟩ := hbad
            rcases List.mem_cons.1 hq with rfl | hq
            · exact absurd hmis (not_or.2 ⟨hempty, hfull⟩)
            · exact ⟨q, hq, hmis⟩
          rcases ih (fun q hq => hnul q (List.mem_cons_of_mem p hq))
              (fun q hq => hfits q (List.mem_cons_of_mem p hq)) hbad' (i + 1) m (by omega) with
              hleft | ⟨msg, hmsg, hlength⟩
          · exact .inl hleft
          · exact .inr ⟨msg, List.mem_cons_of_mem _ hmsg, hlength⟩

/-- The loop does not serve such a stream. -/
theorem not_served_of_misread {payloads : List Bytes} (hnul : ∀ p ∈ payloads, 0 ∉ p)
    (hfits : ∀ p ∈ payloads, p.length < 2 ^ 32) (hbad : ∃ p ∈ payloads, Misread p) :
    ¬ Served payloads
      (messageLoop (fun _ => [1]) 0
        (prompt (Framing.stream payloads) (Framing.stream payloads).length)) := by
  intro hex
  rcases hex with ⟨done, rest, part, -, -, -, hmessages, hleft⟩
  rcases messageLoop_misread (fun _ => [1]) (fun _ => rfl) hnul hfits hbad 0
      (Framing.stream payloads).length (Nat.le_refl _) with
      ⟨hout, hup⟩ | ⟨m, hm, hlength⟩
  · exact hleft hout hup
  · rw [hmessages] at hm
    have hwanted := (List.mem_filter.1 hm).2
    simp only [wanted, Bool.and_eq_true, decide_eq_true_eq] at hwanted
    omega

/-! ## Which streams are served -/

/-- What the peer may send in a frame. -/
structure Frame where
  payload : Bytes
  nulFree : 0 ∉ payload
  fits : payload.length < 2 ^ 32

/-- A stream of frames is served, whatever `recv` does and whatever is in the
memory behind the buffer, exactly when each frame has at least one byte and
fewer than the buffer. -/
theorem served_iff (frames : List Frame) :
    (∀ recvs beyond,
        Served (frames.map Frame.payload)
          (messageLoop beyond 0
            { stream := Framing.stream (frames.map Frame.payload), recvs, conn := .up })) ↔
      ∀ f ∈ frames, 1 ≤ f.payload.length ∧ f.payload.length < BUFFER_SIZE := by
  have hnul : ∀ p ∈ frames.map Frame.payload, 0 ∉ p := by
    intro p hp
    obtain ⟨f, -, rfl⟩ := List.mem_map.1 hp
    exact f.nulFree
  have hfits : ∀ p ∈ frames.map Frame.payload, p.length < 2 ^ 32 := by
    intro p hp
    obtain ⟨f, -, rfl⟩ := List.mem_map.1 hp
    exact f.fits
  constructor
  · intro hserved f hf
    by_contra hmis
    refine not_served_of_misread hnul hfits ⟨f.payload, List.mem_map_of_mem hf, ?_⟩
      (hserved _ _)
    unfold Misread
    omega
  · intro hlen recvs beyond
    refine served_messageLoop beyond hnul (fun p hp => ?_) 0 recvs
    obtain ⟨f, hf, rfl⟩ := List.mem_map.1 hp
    exact hlen f hf

/-- A frame of no bytes and one that is too long, each with another frame behind
it, and one that fills the buffer. -/
theorem not_served :
    ¬ Served [[], bytes "ok"]
        (messageLoop (fun _ => [1]) 0
          (prompt (Framing.stream [[], bytes "ok"]) (Framing.stream [[], bytes "ok"]).length)) ∧
      ¬ Served [List.replicate 10241 65, bytes "ok"]
        (messageLoop (fun _ => [1]) 0
          (prompt (Framing.stream [List.replicate 10241 65, bytes "ok"])
            (Framing.stream [List.replicate 10241 65, bytes "ok"]).length)) ∧
      ¬ Served [List.replicate 10240 65]
        (messageLoop (fun _ => [1]) 0
          (prompt (Framing.stream [List.replicate 10240 65])
            (Framing.stream [List.replicate 10240 65]).length)) := by
  have hok : ∀ p ∈ [bytes "ok"], (0 : UInt8) ∉ p ∧ p.length < 2 ^ 32 := by decide
  have hlong : ∀ n, (0 : UInt8) ∉ List.replicate n 65 := by
    intro n h
    exact absurd (List.eq_of_mem_replicate h) (by decide)
  have hsize : ∀ n, n < 2 ^ 32 → (List.replicate n (65 : UInt8)).length < 2 ^ 32 := by
    intro n hn
    rwa [List.length_replicate]
  have hmisread : ∀ n, BUFFER_SIZE ≤ n → Misread (List.replicate n 65) := by
    intro n hn
    rw [Misread, List.length_replicate]
    exact .inr hn
  refine ⟨not_served_of_misread ?_ ?_ ⟨_, List.mem_cons_self, .inl rfl⟩,
    not_served_of_misread ?_ ?_ ⟨_, List.mem_cons_self, hmisread _ (by decide)⟩,
    not_served_of_misread ?_ ?_ ⟨_, List.mem_cons_self, hmisread _ (by decide)⟩⟩
  · exact List.forall_mem_cons.2 ⟨by decide, fun p hp => (hok p hp).1⟩
  · exact List.forall_mem_cons.2 ⟨by decide, fun p hp => (hok p hp).2⟩
  · exact List.forall_mem_cons.2 ⟨hlong _, fun p hp => (hok p hp).1⟩
  · exact List.forall_mem_cons.2 ⟨hsize _ (by decide), fun p hp => (hok p hp).2⟩
  · exact List.forall_mem_singleton.2 (hlong _)
  · exact List.forall_mem_singleton.2 (hsize _ (by decide))

end Etcp

end MediaGateway
