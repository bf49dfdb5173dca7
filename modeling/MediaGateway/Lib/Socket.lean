import MediaGateway.Lib.Text

/-!
# Receiving from a stream socket

The bytes that the peer sends arrive in pieces: `recv` returns as many of them
as it likes, at least one, or it fails.  A `Socket` carries the bytes that are
still to come and how the next calls of `recv` will end, so that a statement
about all sockets is one about every way in which the bytes can be cut up and
every point at which the connection can break.

The list of calls is finite.  Where it ends, the program is still waiting for
`recv` to return, and what is proved about all such lists holds at every moment
of a run that goes on for ever.
-/

namespace MediaGateway.Lib

/-- How one call of `recv` ends. -/
inductive Recv
  /-- with at most `k + 1` bytes, or with `0` when no more will come -/
  | chunk (k : Nat)
  /-- with an error, `errno` being `EINTR` -/
  | interrupted
  /-- with any other error -/
  | failed
  deriving DecidableEq, Repr

/-- What `recv` has reported about the connection. -/
inductive Conn
  | up
  /-- it has returned `0` -/
  | ended
  /-- it has failed -/
  | failed
  deriving DecidableEq, Repr

/-- One end of a connection. -/
structure Socket where
  /-- the bytes that are still to be received -/
  stream : Bytes
  /-- how the next calls of `recv` end -/
  recvs : List Recv
  conn : Conn
  deriving DecidableEq, Repr

/-- A call that has not returned, or the value that it returns. -/
inductive Call (α : Type)
  | waits (s : Socket)
  | returns (a : α) (s : Socket)
  deriving DecidableEq, Repr

/-- What `recv` returns: bytes, none of them at the end of the connection, or
`-1` with one of two kinds of `errno`. -/
inductive RecvValue
  | data (bytes : Bytes)
  | eintr
  | error
  deriving DecidableEq, Repr

/-- `recv(s, buf, n, 0)`. -/
def Socket.recv (s : Socket) (n : Nat) : Call RecvValue :=
  match s.recvs with
  | [] => .waits s
  | .interrupted :: recvs => .returns .eintr { s with recvs }
  | .failed :: recvs => .returns .error { s with recvs, conn := .failed }
  | .chunk k :: recvs =>
    if s.stream = [] then
      .returns (.data []) { s with recvs, conn := .ended }
    else
      .returns (.data (s.stream.take (min (k + 1) n)))
        { s with stream := s.stream.drop (min (k + 1) n), recvs }

theorem Socket.recv_lt {s s' : Socket} {n : Nat} {v : RecvValue}
    (h : s.recv n = .returns v s') : s'.recvs.length < s.recvs.length := by
  unfold recv at h
  split at h
  · cases h
  · rename_i recvs heq
    obtain ⟨-, rfl⟩ := Call.returns.inj h
    rw [heq]
    exact Nat.lt_succ_self _
  · rename_i recvs heq
    obtain ⟨-, rfl⟩ := Call.returns.inj h
    rw [heq]
    exact Nat.lt_succ_self _
  · rename_i k recvs heq
    split at h
    all_goals
      obtain ⟨-, rfl⟩ := Call.returns.inj h
      rw [heq]
      exact Nat.lt_succ_self _

/-- One piece of the bytes that were asked for. -/
theorem Socket.recv_chunk {data : Bytes} (hdata : data ≠ []) (rest : Bytes) (k : Nat)
    (recvs : List Recv) :
    ∃ got missing, data = got ++ missing ∧ got ≠ [] ∧
      Socket.recv { stream := data ++ rest, recvs := .chunk k :: recvs, conn := .up }
          data.length =
        .returns (.data got) { stream := missing ++ rest, recvs, conn := .up } := by
  have hlen : 0 < data.length := List.length_pos_iff.2 hdata
  have hle : min (k + 1) data.length ≤ data.length := Nat.min_le_right ..
  refine ⟨data.take (min (k + 1) data.length), data.drop (min (k + 1) data.length),
    (List.take_append_drop ..).symm, ?_, ?_⟩
  · apply List.length_pos_iff.1
    rw [List.length_take]
    omega
  · have hsome : data ++ rest ≠ [] := List.append_ne_nil_of_left_ne_nil hdata rest
    simp only [recv, if_neg hsome]
    rw [List.take_append_of_le_length hle, List.drop_append_of_le_length hle]

/-- What a call comes to that is to consume `data` and leaves `rest`: it
returns, or the connection breaks before it has everything and the call returns
an error, or it still waits. -/
inductive Comes {α : Type} (data rest : Bytes) (done error : α → Prop) : Call α → Prop
  | returns (a : α) (recvs : List Recv) (ha : done a) :
      Comes data rest done error (.returns a { stream := rest, recvs, conn := .up })
  | fails (a : α) (recvs : List Recv) (got missing : Bytes) (ha : error a)
      (hdata : data = got ++ missing) (hmissing : missing ≠ []) :
      Comes data rest done error
        (.returns a { stream := missing ++ rest, recvs, conn := .failed })
  | waits (recvs : List Recv) (got missing : Bytes) (hdata : data = got ++ missing)
      (hmissing : missing ≠ []) :
      Comes data rest done error (.waits { stream := missing ++ rest, recvs, conn := .up })

namespace Comes

variable {α : Type} {data rest : Bytes} {done error : α → Prop} {c : Call α}

/-- The bytes that a call consumed before count as well. -/
theorem prepend (h : Comes data rest done error c) (before : Bytes) :
    Comes (before ++ data) rest done error c := by
  cases h with
  | returns a recvs ha => exact .returns a recvs ha
  | fails a recvs got missing ha hdata hmissing =>
    exact .fails a recvs (before ++ got) missing ha (by rw [hdata, List.append_assoc]) hmissing
  | waits recvs got missing hdata hmissing =>
    exact .waits recvs (before ++ got) missing (by rw [hdata, List.append_assoc]) hmissing

theorem mono {done' : α → Prop} (h : Comes data rest done error c)
    (hdone : ∀ a, done a → done' a) : Comes data rest done' error c := by
  cases h with
  | returns a recvs ha => exact .returns a recvs (hdone a ha)
  | fails a recvs got missing ha hdata hmissing =>
    exact .fails a recvs got missing ha hdata hmissing
  | waits recvs got missing hdata hmissing => exact .waits recvs got missing hdata hmissing

end Comes

/-! ## Connections that do not fail -/

/-- How many calls of `recv` return bytes or the end of the connection. -/
def chunks (recvs : List Recv) : Nat := recvs.countP fun r => match r with
  | .chunk _ => true
  | _ => false

@[simp] theorem chunks_chunk (k : Nat) (recvs : List Recv) :
    chunks (.chunk k :: recvs) = chunks recvs + 1 :=
  List.countP_cons_of_pos rfl

@[simp] theorem chunks_interrupted (recvs : List Recv) :
    chunks (.interrupted :: recvs) = chunks recvs :=
  List.countP_cons_of_neg (by decide)

/-- What a call comes to that needs at most `n` pieces: it returns `a` and leaves
`rest`, or it waits, and then there were fewer pieces. -/
inductive Settles {α : Type} (n : Nat) (rest : Bytes) (a : α) (recvs : List Recv) :
    Call α → Prop
  | returns (recvs' : List Recv) (hsuffix : recvs' <:+ recvs)
      (hused : chunks recvs ≤ chunks recvs' + n) :
      Settles n rest a recvs (.returns a { stream := rest, recvs := recvs', conn := .up })
  | waits (s : Socket) (hfew : chunks recvs < n) : Settles n rest a recvs (.waits s)

/-- A call of `recv` that returned something in front. -/
theorem Settles.after {α : Type} {n m : Nat} {rest : Bytes} {a : α} {r : Recv}
    {recvs : List Recv} {c : Call α} (h : Settles n rest a recvs c)
    (hm : chunks (r :: recvs) + n ≤ chunks recvs + m) : Settles m rest a (r :: recvs) c := by
  cases h with
  | returns recvs' hsuffix hused =>
    exact .returns recvs' (hsuffix.trans (List.suffix_cons r recvs)) (by omega)
  | waits s hfew => exact .waits s (by omega)

end MediaGateway.Lib
