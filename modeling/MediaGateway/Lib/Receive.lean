import MediaGateway.Lib.Socket

/-!
# Calls that need a number of bytes

What a call comes to that needs `need` bytes of a stream, whatever the stream holds
and however the calls of `recv` end.  It has all of them and returns; the connection
has ended or failed before; or it waits, and then `recv` has reported no failure and
has returned with bytes fewer times than bytes were needed.

`Outcome.after` puts two such calls one behind the other.
-/

namespace MediaGateway.Lib

@[simp] theorem chunks_append (xs ys : List Recv) : chunks (xs ++ ys) = chunks xs + chunks ys :=
  List.countP_append

/-- Some of the bytes, and no more than were asked for. -/
theorem Socket.recv_some {stream : Bytes} {n : Nat} (hn : 0 < n) (hstream : stream ≠ []) (k : Nat)
    (recvs : List Recv) :
    ∃ got missing, stream = got ++ missing ∧ got ≠ [] ∧ got.length ≤ n ∧
      Socket.recv { stream, recvs := .chunk k :: recvs, conn := .up } n =
        .returns (.data got) { stream := missing, recvs, conn := .up } := by
  have hpos := List.length_pos_iff.2 hstream
  refine ⟨stream.take (min (k + 1) n), stream.drop (min (k + 1) n),
    (List.take_append_drop ..).symm, ?_, ?_, ?_⟩
  · apply List.length_pos_iff.1
    rw [List.length_take]
    omega
  · rw [List.length_take]
    omega
  · simp only [recv, if_neg hstream]

theorem Socket.recv_length_le {s s' : Socket} {n : Nat} {data : Bytes}
    (h : s.recv n = .returns (.data data) s') : data.length ≤ n := by
  unfold recv at h
  split at h
  · cases h
  · cases h
  · cases h
  · split at h
    · obtain ⟨hdata, -⟩ := Call.returns.inj h
      obtain rfl := RecvValue.data.inj hdata
      exact Nat.zero_le n
    · obtain ⟨hdata, -⟩ := Call.returns.inj h
      obtain rfl := RecvValue.data.inj hdata
      rw [List.length_take]
      omega

/-- `done`, `ended` and `failed` are what is returned in the three cases. -/
inductive Outcome {α : Type} (stream : Bytes) (need : Nat) (recvs : List Recv)
    (done ended failed : α → Prop) : Call α → Prop
  | done (a : α) (used rest : List Recv) (ha : done a) (henough : need ≤ stream.length)
      (hrecvs : recvs = used ++ rest) (hok : .failed ∉ used) (hused : chunks used ≤ need) :
      Outcome stream need recvs done ended failed
        (.returns a { stream := stream.drop need, recvs := rest, conn := .up })
  | ended (a : α) (rest : List Recv) (ha : ended a) (hfew : stream.length < need) :
      Outcome stream need recvs done ended failed
        (.returns a { stream := [], recvs := rest, conn := .ended })
  | failed (a : α) (got : Nat) (rest : List Recv) (ha : failed a) (hgot : got < need)
      (hfail : .failed ∈ recvs) :
      Outcome stream need recvs done ended failed
        (.returns a { stream := stream.drop got, recvs := rest, conn := .failed })
  | waits (got : Nat) (hgot : got < need) (hok : .failed ∉ recvs) (hused : chunks recvs ≤ got) :
      Outcome stream need recvs done ended failed
        (.waits { stream := stream.drop got, recvs := [], conn := .up })

namespace Outcome

variable {α : Type} {stream : Bytes} {need m : Nat} {recvs : List Recv}
  {done ended failed : α → Prop} {c : Call α}

theorem mono {done' ended' failed' : α → Prop} (h : Outcome stream need recvs done ended failed c)
    (hdone : need ≤ stream.length → ∀ a, done a → done' a) (hended : ∀ a, ended a → ended' a)
    (hfailed : ∀ a, failed a → failed' a) : Outcome stream need recvs done' ended' failed' c := by
  cases h with
  | done a used rest ha henough hrecvs hok hused =>
    exact .done a used rest (hdone henough a ha) henough hrecvs hok hused
  | ended a rest ha hfew => exact .ended a rest (hended a ha) hfew
  | failed a got rest ha hgot hfail => exact .failed a got rest (hfailed a ha) hgot hfail
  | waits got hgot hok hused => exact .waits got hgot hok hused

/-- A call that goes on where another one has had `m` bytes. -/
theorem after {used rest : List Recv} (henough : m ≤ stream.length) (hrecvs : recvs = used ++ rest)
    (hok : .failed ∉ used) (hused : chunks used ≤ m)
    (h : Outcome (stream.drop m) need rest done ended failed c) :
    Outcome stream (m + need) recvs done ended failed c := by
  have hlen : (stream.drop m).length = stream.length - m := List.length_drop
  cases h with
  | done a used' rest' ha henough' hrecvs' hok' hused' =>
    rw [List.drop_drop]
    refine .done a (used ++ used') rest' ha (by omega) ?_ ?_ ?_
    · rw [hrecvs, hrecvs', List.append_assoc]
    · rw [List.mem_append, not_or]
      exact ⟨hok, hok'⟩
    · rw [chunks_append]
      omega
  | ended a rest' ha hfew => exact .ended a rest' ha (by omega)
  | failed a got rest' ha hgot hfail =>
    rw [List.drop_drop]
    refine .failed a (m + got) rest' ha (by omega) ?_
    rw [hrecvs, List.mem_append]
    exact .inr hfail
  | waits got hgot hok' hused' =>
    rw [List.drop_drop]
    refine .waits (m + got) (by omega) ?_ ?_
    · rw [hrecvs, List.mem_append, not_or]
      exact ⟨hok, hok'⟩
    · rw [hrecvs, chunks_append]
      omega

/-- A call that was interrupted first. -/
theorem interrupted (h : Outcome stream need recvs done ended failed c) :
    Outcome stream need (.interrupted :: recvs) done ended failed c := by
  have hused : Recv.interrupted :: recvs = [.interrupted] ++ recvs := rfl
  have hafter := after (Nat.zero_le stream.length) hused (by simp) (Nat.le_refl 0)
    (by rwa [List.drop_zero])
  rwa [Nat.zero_add] at hafter

end Outcome

end MediaGateway.Lib
