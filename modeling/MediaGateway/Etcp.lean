import MediaGateway.Lib.Framing
import MediaGateway.Lib.Socket

/-!
# The connection to the signalling gateway

`etcp.cpp`: `readn`, `readPacket` and `sendPacket`, and the loop of
`connectToSignalingGateway` in `mediagateway.cpp` as far as it reads messages
and passes them on.

A buffer is the list of its bytes.  `string(message)` reads the buffer up to the
first NUL; where there is none it goes on behind the buffer, in memory that is a
parameter here.
-/

namespace MediaGateway

open Lib

def BUFFER_SIZE : Nat := 10240

namespace Etcp

/-! ## Receiving -/

/-- The loop of `readn`: what `readn` returns, and the bytes that are in the
buffer, `buf` being those that are there already. -/
def readnLoop (len : Nat) (buf : Bytes) (needToReceive : Nat) (s : Socket) : Call (Int × Bytes) :=
  if 0 < needToReceive then
    match hrecv : s.recv needToReceive with
    | .waits s => .waits s
    | .returns .eintr s => readnLoop len buf needToReceive s
    | .returns .error s => .returns (-1, buf) s
    | .returns (.data data) s =>
      if data = [] then
        .returns (len - needToReceive, buf) s
      else
        readnLoop len (buf ++ data) (needToReceive - data.length) s
  else
    .returns (len, buf) s
termination_by s.recvs.length
decreasing_by all_goals exact Socket.recv_lt hrecv

/-- A round of the loop in which `recv` returns some of the bytes. -/
theorem readnLoop_of_recv {len needToReceive : Nat} {buf data : Bytes} {s s' : Socket}
    (hneed : 0 < needToReceive) (hdata : data ≠ [])
    (h : s.recv needToReceive = .returns (.data data) s') :
    readnLoop len buf needToReceive s =
      readnLoop len (buf ++ data) (needToReceive - data.length) s' := by
  rw [readnLoop, if_pos hneed]
  split <;> simp_all

/-- `readn(s, buf, len)`. -/
def readn (s : Socket) (len : Nat) : Call (Int × Bytes) := readnLoop len [] len s

/-- The buffer after `data` was written to its beginning. -/
def overwrite (buf data : Bytes) : Bytes := data ++ buf.drop data.length

/-- The loop of `readPacket` that throws a packet away which is longer than the
buffer.  With a buffer of no bytes it would not end. -/
def drain (s : Socket) (buf : Bytes) (len packetlen : Nat) : Call (Int × Bytes) :=
  if 0 < packetlen then
    if 0 < len then
      match readn s len with
      | .waits s => .waits s
      | .returns (recvlen, data) s =>
        if recvlen ≠ len then
          .returns (if recvlen < 0 then recvlen else 0, overwrite buf data) s
        else
          drain s (overwrite buf data) (if packetlen - len < len then packetlen - len else len)
            (packetlen - len)
    else
      .waits s
  else
    .returns (-1, buf) s
termination_by packetlen

/-- `readPacket(s, buf, len)`: what it returns and the buffer. -/
def readPacket (s : Socket) (buf : Bytes) (len : Nat) : Call (Int × Bytes) :=
  match readn s 4 with
  | .waits s => .waits s
  | .returns (recvlen, header) s =>
    if recvlen ≠ 4 then
      .returns (if recvlen < 0 then recvlen else 0, buf) s
    else
      let packetlen := Framing.ofHeader header
      if len < packetlen then
        drain s buf len packetlen
      else
        match readn s packetlen with
        | .waits s => .waits s
        | .returns (recvlen, data) s =>
          if recvlen ≠ packetlen then
            .returns (if recvlen < 0 then recvlen else 0, overwrite buf data) s
          else
            .returns (recvlen, overwrite buf data) s

/-! ## Calls use up what `recv` returns -/

theorem readnLoop_le {len needToReceive : Nat} {buf : Bytes} {s s' : Socket} {v : Int × Bytes}
    (h : readnLoop len buf needToReceive s = .returns v s') :
    s'.recvs.length ≤ s.recvs.length ∧
      (0 < needToReceive → s'.recvs.length < s.recvs.length) := by
  fun_induction readnLoop len buf needToReceive s with
  | case1 => cases h
  | case2 buf need s hneed s₁ hrecv ih =>
    have hlt := Socket.recv_lt hrecv
    have hle := (ih h).1
    omega
  | case3 buf need s hneed s₁ hrecv =>
    obtain ⟨-, rfl⟩ := Call.returns.inj h
    have hlt := Socket.recv_lt hrecv
    omega
  | case4 buf need s hneed s₁ hrecv =>
    obtain ⟨-, rfl⟩ := Call.returns.inj h
    have hlt := Socket.recv_lt hrecv
    omega
  | case5 buf need s hneed data s₁ hrecv hdata ih =>
    have hlt := Socket.recv_lt hrecv
    have hle := (ih h).1
    omega
  | case6 buf need s hneed =>
    obtain ⟨-, rfl⟩ := Call.returns.inj h
    exact ⟨Nat.le_refl _, fun h => absurd h hneed⟩

theorem drain_le {len packetlen : Nat} {buf : Bytes} {s s' : Socket} {v : Int × Bytes}
    (h : drain s buf len packetlen = .returns v s') : s'.recvs.length ≤ s.recvs.length := by
  fun_induction drain s buf len packetlen with
  | case1 => cases h
  | case2 s buf len packetlen hpacket hlen recvlen data s₁ hread hne =>
    obtain ⟨-, rfl⟩ := Call.returns.inj h
    exact (readnLoop_le hread).1
  | case3 s buf len packetlen hpacket hlen recvlen data s₁ hread heq ih =>
    exact Nat.le_trans (ih h) (readnLoop_le hread).1
  | case4 => cases h
  | case5 =>
    obtain ⟨-, rfl⟩ := Call.returns.inj h
    exact Nat.le_refl _

/-- `readPacket` calls `recv` at least once. -/
theorem readPacket_lt {s s' : Socket} {buf : Bytes} {len : Nat} {v : Int × Bytes}
    (h : readPacket s buf len = .returns v s') : s'.recvs.length < s.recvs.length := by
  unfold readPacket at h
  split at h
  · cases h
  · rename_i recvlen header s₁ hread
    have hlt := (readnLoop_le hread).2 (Nat.succ_pos 3)
    split at h
    · obtain ⟨-, rfl⟩ := Call.returns.inj h
      exact hlt
    · dsimp only at h
      split at h
      · exact Nat.lt_of_le_of_lt (drain_le h) hlt
      · split at h
        · cases h
        · rename_i hread'
          have hle := (readnLoop_le hread').1
          split at h
          all_goals
            obtain ⟨-, rfl⟩ := Call.returns.inj h
            exact Nat.lt_of_le_of_lt hle hlt

/-! ## The loop -/

/-- What the loop has done when it has left or while it waits: the strings that
`handleSessionMessage` was called with, in order. -/
structure Received where
  messages : List Bytes
  /-- the loop was left -/
  left : Bool
  socket : Socket
  deriving DecidableEq, Repr

/-- `while(true)` in `connectToSignalingGateway`, from round `i` on.  `beyond i`
is the memory behind the buffer in round `i`. -/
def messageLoop (beyond : Nat → Bytes) (i : Nat) (s : Socket) : Received :=
  match hread : readPacket s (List.replicate BUFFER_SIZE 0) BUFFER_SIZE with
  | .waits s => { messages := [], left := false, socket := s }
  | .returns (recvlen, message) s =>
    if recvlen ≤ 0 then
      { messages := [], left := true, socket := s }
    else
      let r := messageLoop beyond (i + 1) s
      { r with messages := Bytes.cStr (message ++ beyond i) :: r.messages }
termination_by s.recvs.length
decreasing_by exact readPacket_lt hread

/-! ## Sending -/

/-- How one call of `send` ends. -/
inductive Send
  /-- at most `k + 1` of the bytes are accepted -/
  | accepts (k : Nat)
  /-- with an error -/
  | fails
  deriving DecidableEq, Repr

/-- What a call of `sendPacket` comes to. -/
inductive Sent
  /-- `strcpy` has written behind `packet.buf` -/
  | overflow
  /-- `error(1, 0, "send faild!")` has ended the process -/
  | exited
  /-- it has returned, and these bytes have reached the stream -/
  | wrote (bytes : Bytes)
  deriving DecidableEq, Repr

def Sent.bytes : Sent → Bytes
  | .wrote bytes => bytes
  | _ => []

/-- `sendPacket(s, buf)`.  `strcpy` copies the terminator too. -/
def sendPacket (buf : Bytes) (send : Send) : Sent :=
  let n := buf.length
  if 0 < n then
    if n < BUFFER_SIZE then
      match send with
      | .fails => .exited
      | .accepts k => .wrote ((Framing.header n ++ buf).take (k + 1))
    else
      .overflow
  else
    .wrote []

/-- `sendPacketToSG(msg)`. -/
def sendPacketToSG (msg : Bytes) (send : Send) : Sent := sendPacket (Bytes.cStr msg) send

/-- The calls of `sendPacketToSG` from the `i`-th one on, with what each came
to.  None follows one that has not returned. -/
def sendAll (sends : Nat → Send) (i : Nat) : List Bytes → List (Bytes × Sent)
  | [] => []
  | msg :: rest =>
    match sendPacketToSG msg (sends i) with
    | .wrote bytes => (msg, .wrote bytes) :: sendAll sends (i + 1) rest
    | stopped => [(msg, stopped)]

theorem sendAll_of_wrote {sends : Nat → Send} {i : Nat} {msg sent : Bytes} {rest : List Bytes}
    (h : sendPacketToSG msg (sends i) = .wrote sent) :
    sendAll sends i (msg :: rest) = (msg, .wrote sent) :: sendAll sends (i + 1) rest := by
  simp only [sendAll, h]

/-- A text that fits. -/
theorem sendPacketToSG_of_fits {msg : Bytes} (hpos : 1 ≤ (Bytes.cStr msg).length)
    (hlt : (Bytes.cStr msg).length < BUFFER_SIZE) (send : Send) :
    sendPacketToSG msg send =
      match send with
      | .fails => .exited
      | .accepts k => .wrote ((Framing.frame (Bytes.cStr msg)).take (k + 1)) := by
  have hpos' : 0 < (Bytes.cStr msg).length := hpos
  simp only [sendPacketToSG, sendPacket, if_pos hpos', if_pos hlt]
  rfl

end Etcp

end MediaGateway
