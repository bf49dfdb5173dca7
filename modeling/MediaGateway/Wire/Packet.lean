import Mathlib.Algebra.GroupWithZero.Nat
import MediaGateway.Wire.Inbound
import MediaGateway.Lib.Receive

/-!
# One packet from any stream

What `readPacket` comes to on every stream: whether the bytes make up a frame that
fits, one that is too long or only a part of one, and however `recv` cuts them up.

A frame that is too long is read into the buffer piece by piece.  `reads` are the
lengths of the pieces, and `drain_eq` says that the loop is one `readn` for each.

The source compares an `int` with a `size_t` and with a `u_int32_t`.  For a buffer of
less than `2 ^ 31` bytes `-1` is equal to none of the lengths, as it is to none here.
-/

namespace MediaGateway

open Lib

namespace Etcp

/-! ## `readn` -/

/-- What the loop comes to that has `buf` and needs `need` more bytes. -/
theorem readnLoop_outcome (len need : Nat) (buf stream : Bytes) (recvs : List Recv) :
    Outcome stream need recvs
      (fun v => v = ((len : Int), buf ++ stream.take need))
      (fun v => v = ((len : Int) - need + stream.length, buf ++ stream))
      Failed
      (readnLoop len buf need { stream, recvs, conn := .up }) := by
  induction recvs generalizing buf stream need with
  | nil =>
    rw [readnLoop]
    by_cases hneed : 0 < need
    · rw [if_pos hneed]
      exact .waits 0 hneed (by simp) (Nat.le_refl 0)
    · obtain rfl : need = 0 := by omega
      rw [if_neg hneed]
      exact .done _ [] [] (by simp) (Nat.zero_le _) rfl (by simp) (Nat.zero_le _)
  | cons r recvs ih =>
    by_cases hneed : 0 < need
    · cases r with
      | interrupted =>
        rw [readnLoop, if_pos hneed]
        exact (ih need buf stream).interrupted
      | failed =>
        rw [readnLoop, if_pos hneed]
        exact .failed _ 0 recvs rfl hneed List.mem_cons_self
      | chunk k =>
        by_cases hstream : stream = []
        · subst hstream
          rw [readnLoop, if_pos hneed]
          exact .ended _ recvs (by simp) hneed
        · -- the bytes that `recv` returns, at least one and no more than are needed
          obtain ⟨got, missing, rfl, hgot, hle, hrecv⟩ := Socket.recv_some hneed hstream k recvs
          have hlen := List.length_pos_iff.2 hgot
          have hmissing : (got ++ missing).drop got.length = missing := List.drop_left
          have hused : Recv.chunk k :: recvs = [.chunk k] ++ recvs := rfl
          have hrest := ih (need - got.length) (buf ++ got) missing
          have henough : got.length ≤ (got ++ missing).length := by
            rw [List.length_append]
            omega
          have hafter := Outcome.after henough hused (by simp) hlen (by rwa [hmissing])
          have hneed' : got.length + (need - got.length) = need := by omega
          rw [hneed'] at hafter
          rw [readnLoop_of_recv hneed hgot hrecv]
          refine hafter.mono ?_ ?_ fun v hv => hv
          · intro _ v hv
            rw [hv, List.append_assoc, List.take_append, List.take_of_length_le hle]
          · intro v hv
            rw [hv, List.append_assoc, List.length_append]
            congr 1
            omega
    · obtain rfl : need = 0 := by omega
      rw [readnLoop, if_neg hneed]
      exact .done _ [] (r :: recvs) (by simp) (Nat.zero_le _) rfl (by simp) (Nat.zero_le _)

theorem readn_outcome (need : Nat) (stream : Bytes) (recvs : List Recv) :
    Outcome stream need recvs
      (fun v => v = ((need : Int), stream.take need))
      (fun v => v = ((stream.length : Int), stream))
      Failed
      (readn { stream, recvs, conn := .up } need) := by
  refine (readnLoop_outcome need need [] stream recvs).mono (fun _ v hv => ?_) (fun v hv => ?_)
    fun v hv => hv
  · rw [hv, List.nil_append]
  · rw [hv, List.nil_append]
    congr 1
    omega

theorem readnLoop_length {len need : Nat} {buf : Bytes} {s s' : Socket} {v : Int × Bytes}
    (h : readnLoop len buf need s = .returns v s') : v.2.length ≤ buf.length + need := by
  fun_induction readnLoop len buf need s with
  | case1 => cases h
  | case2 buf need s hneed s₁ hrecv ih => exact ih h
  | case3 buf need s hneed s₁ hrecv =>
    obtain ⟨rfl, -⟩ := Call.returns.inj h
    exact Nat.le_add_right ..
  | case4 buf need s hneed s₁ hrecv =>
    obtain ⟨rfl, -⟩ := Call.returns.inj h
    exact Nat.le_add_right ..
  | case5 buf need s hneed data s₁ hrecv hdata ih =>
    have hle := Socket.recv_length_le hrecv
    have hrest := ih h
    rw [List.length_append] at hrest
    omega
  | case6 buf need s hneed =>
    obtain ⟨rfl, -⟩ := Call.returns.inj h
    exact Nat.le_add_right ..

/-- `readn` writes to the beginning of the buffer, and not behind it. -/
theorem length_overwrite_readn {len : Nat} {buf : Bytes} {s s' : Socket} {v : Int × Bytes}
    (h : readn s len = .returns v s') (hle : len ≤ buf.length) :
    (overwrite buf v.2).length = buf.length := by
  have hread := readnLoop_length h
  simp only [List.length_nil] at hread
  rw [overwrite, List.length_append, List.length_drop]
  omega

/-- A call of `readn` for a part of a packet, and `next` when all of it is there. -/
def readPart (s : Socket) (n : Nat) (written : Bytes → Bytes)
    (next : Bytes → Socket → Call (Int × Bytes)) : Call (Int × Bytes) :=
  match readn s n with
  | .waits s => .waits s
  | .returns (recvlen, data) s =>
    if recvlen ≠ n then
      .returns (if recvlen < 0 then recvlen else 0, written data) s
    else
      next data s

theorem readPart_outcome {stream : Bytes} {n need : Nat} {done : Int × Bytes → Prop}
    {next : Bytes → Socket → Call (Int × Bytes)} (written : Bytes → Bytes) (recvs : List Recv)
    (hnext : n ≤ stream.length → ∀ rest,
      Outcome (stream.drop n) need rest done (fun v => v.1 = 0) Failed
        (next (stream.take n) { stream := stream.drop n, recvs := rest, conn := .up })) :
    Outcome stream (n + need) recvs done (fun v => v.1 = 0) Failed
      (readPart { stream, recvs, conn := .up } n written next) := by
  have hread := readn_outcome n stream recvs
  unfold readPart
  generalize readn _ n = c at hread ⊢
  cases hread with
  | done v used rest hv henough hrecvs hok hused =>
    subst hv
    dsimp only
    rw [if_neg (not_not.2 rfl)]
    exact (hnext henough rest).after henough hrecvs hok hused
  | ended v rest hv hfew =>
    subst hv
    have hne : (stream.length : Int) ≠ n := by omega
    have hnonneg : ¬ (stream.length : Int) < 0 := by omega
    dsimp only
    rw [if_pos hne, if_neg hnonneg]
    exact .ended _ rest rfl (by omega)
  | failed v got rest hv hgot hfail =>
    have hne : v.1 ≠ (n : Int) := by
      rw [hv]
      omega
    dsimp only
    rw [if_pos hne]
    refine .failed _ got rest ?_ (by omega) hfail
    rw [Failed, hv]
    rfl
  | waits got hgot hok hused => exact .waits got (by omega) hok hused

theorem length_readPart {s s' : Socket} {n len : Nat} {written : Bytes → Bytes}
    {next : Bytes → Socket → Call (Int × Bytes)} {v : Int × Bytes}
    (h : readPart s n written next = .returns v s')
    (hwritten : ∀ data s₁ r, readn s n = .returns (r, data) s₁ → (written data).length = len)
    (hnext : ∀ data s₁ r, readn s n = .returns (r, data) s₁ →
      next data s₁ = .returns v s' → v.2.length = len) : v.2.length = len := by
  unfold readPart at h
  split at h
  · cases h
  · rename_i recvlen data s₁ hread
    split at h
    · obtain ⟨rfl, -⟩ := Call.returns.inj h
      exact hwritten data s₁ recvlen hread
    · exact hnext data s₁ recvlen hread h

/-! ## The pieces of a frame that is too long -/

/-- The lengths that `readn` is called with. -/
def reads (len packetlen : Nat) : List Nat :=
  if 0 < packetlen ∧ 0 < len then
    len :: reads (min len (packetlen - len)) (packetlen - len)
  else
    []
termination_by packetlen

theorem reads_of_pos {len packetlen : Nat} (hpacket : 0 < packetlen) (hlen : 0 < len) :
    reads len packetlen = len :: reads (min len (packetlen - len)) (packetlen - len) := by
  rw [reads, if_pos ⟨hpacket, hlen⟩]

/-- A call of `readn` for each length. -/
def drainAll (s : Socket) (buf : Bytes) : List Nat → Call (Int × Bytes)
  | [] => .returns (-1, buf) s
  | n :: ns => readPart s n (overwrite buf) fun data s => drainAll s (overwrite buf data) ns

/-- What the loop keeps: a piece is not longer than what is left of the frame, and
none is empty before the end. -/
def Fits (len packetlen : Nat) : Prop := 0 < packetlen → 0 < len ∧ len ≤ packetlen

theorem Fits.next {len packetlen : Nat} (h : Fits len packetlen) :
    Fits (min len (packetlen - len)) (packetlen - len) := by
  intro hpos
  have hlen := h (by omega)
  omega

theorem drain_eq {len packetlen : Nat} (h : Fits len packetlen) (s : Socket) (buf : Bytes) :
    drain s buf len packetlen = drainAll s buf (reads len packetlen) := by
  fun_induction drain s buf len packetlen with
  | case1 s buf len packetlen hpacket hlen s₁ hread =>
    rw [reads_of_pos hpacket hlen, drainAll, readPart, hread]
  | case2 s buf len packetlen hpacket hlen recvlen data s₁ hread hne =>
    rw [reads_of_pos hpacket hlen, drainAll, readPart, hread]
    dsimp only
    rw [if_pos hne]
  | case3 s buf len packetlen hpacket hlen recvlen data s₁ hread heq ih =>
    rw [reads_of_pos hpacket hlen, drainAll, readPart, hread]
    dsimp only
    rw [if_neg heq]
    have hmin : (if packetlen - len < len then packetlen - len else len) =
        min len (packetlen - len) := by
      split <;> omega
    rw [dite_eq_ite, hmin] at ih
    rw [hmin]
    exact ih h.next
  | case4 s buf len packetlen hpacket hlen => exact absurd (h hpacket).1 hlen
  | case5 s buf len packetlen hpacket =>
    rw [reads, if_neg (not_and.2 fun h => absurd h hpacket), drainAll]

theorem reads_le {len packetlen : Nat} : ∀ n ∈ reads len packetlen, 0 < n ∧ n ≤ len := by
  fun_induction reads len packetlen with
  | case1 len packetlen h ih =>
    intro n hn
    rcases List.mem_cons.1 hn with rfl | hn
    · exact ⟨h.2, Nat.le_refl _⟩
    · have hle := ih n hn
      omega
  | case2 => simp

theorem sum_reads {len packetlen : Nat} (h : Fits len packetlen) :
    (reads len packetlen).sum = packetlen := by
  fun_induction reads len packetlen with
  | case1 len packetlen hpos ih =>
    rw [List.sum_cons, ih h.next]
    have hle := h hpos.1
    omega
  | case2 len packetlen hnot =>
    by_cases hpos : 0 < packetlen
    · exact absurd ⟨hpos, (h hpos).1⟩ hnot
    · rw [List.sum_nil]
      omega

theorem drainAll_outcome (ns : List Nat) (buf stream : Bytes) (recvs : List Recv) :
    Outcome stream ns.sum recvs Failed (fun v => v.1 = 0) Failed
      (drainAll { stream, recvs, conn := .up } buf ns) := by
  induction ns generalizing buf stream recvs with
  | nil => exact .done _ [] recvs rfl (Nat.zero_le _) rfl (by simp) (Nat.zero_le _)
  | cons n ns ih => exact readPart_outcome _ recvs fun _ rest => ih _ _ rest

theorem length_drainAll {ns : List Nat} {buf : Bytes} {s s' : Socket} {v : Int × Bytes}
    (hns : ∀ n ∈ ns, n ≤ buf.length) (h : drainAll s buf ns = .returns v s') :
    v.2.length = buf.length := by
  induction ns generalizing buf s with
  | nil =>
    obtain ⟨rfl, -⟩ := Call.returns.inj h
    rfl
  | cons n ns ih =>
    have hn := hns n List.mem_cons_self
    refine length_readPart h (fun data s₁ r hread => length_overwrite_readn hread hn) ?_
    intro data s₁ r hread hnext
    have hlen : (overwrite buf data).length = buf.length := length_overwrite_readn hread hn
    rw [← hlen]
    exact ih (fun m hm => by rw [hlen]; exact hns m (List.mem_cons_of_mem n hm)) hnext

/-! ## A frame -/

/-- How many bytes `readPacket` needs: the header, and what it announces. -/
def needed (stream : Bytes) : Nat :=
  4 + if stream.length < 4 then 0 else Framing.ofHeader (stream.take 4)

theorem readPacket_eq (s : Socket) (buf : Bytes) (len : Nat) :
    readPacket s buf len =
      readPart s 4 (fun _ => buf) fun header s =>
        if len < Framing.ofHeader header then
          drain s buf len (Framing.ofHeader header)
        else
          readPart s (Framing.ofHeader header) (overwrite buf) fun data s =>
            .returns (Framing.ofHeader header, overwrite buf data) s := by
  unfold readPacket readPart
  cases readn s 4 with
  | waits s => rfl
  | returns v s =>
    dsimp only
    have hfour : ((4 : Nat) : Int) = 4 := rfl
    rw [hfour]
    by_cases hv : v.1 = 4
    · rw [if_neg (not_not.2 hv), if_neg (not_not.2 hv)]
      by_cases hlong : len < Framing.ofHeader v.2
      · rw [if_pos hlong, if_pos hlong]
      · rw [if_neg hlong, if_neg hlong]
        cases readn s (Framing.ofHeader v.2) with
        | waits s => rfl
        | returns w s =>
          dsimp only
          by_cases hw : w.1 = Framing.ofHeader v.2
          · rw [if_neg (not_not.2 hw), if_neg (not_not.2 hw), hw]
          · rw [if_pos hw, if_pos hw]
    · rw [if_pos hv, if_pos hv]

/-- Nothing is written behind the buffer. -/
theorem length_readPacket {buf : Bytes} {s s' : Socket} {v : Int × Bytes}
    (h : readPacket s buf buf.length = .returns v s') : v.2.length = buf.length := by
  rw [readPacket_eq] at h
  refine length_readPart h (fun _ _ _ _ => rfl) ?_
  intro header s₁ r _ hnext
  split at hnext
  · rename_i hlong
    by_cases hbuf : 0 < buf.length
    · rw [drain_eq fun _ => ⟨hbuf, Nat.le_of_lt hlong⟩] at hnext
      exact length_drainAll (fun n hn => (reads_le n hn).2) hnext
    · rw [drain, if_pos (by omega), if_neg hbuf] at hnext
      cases hnext
  · rename_i hfits
    refine length_readPart hnext ?_ ?_
    · intro data s₂ r hread
      exact length_overwrite_readn hread (Nat.le_of_not_lt hfits)
    · intro data s₂ r hread hv
      obtain ⟨rfl, -⟩ := Call.returns.inj hv
      exact length_overwrite_readn hread (Nat.le_of_not_lt hfits)

/-- What is returned when the frame is complete: its length, with the payload in the
buffer, or an error where it does not fit. -/
def ReadsFrame (buf stream : Bytes) (v : Int × Bytes) : Prop :=
  let packetlen := Framing.ofHeader (stream.take 4)
  if packetlen ≤ buf.length then
    v = ((packetlen : Int), overwrite buf ((stream.drop 4).take packetlen))
  else
    v.1 = -1

/-- Every stream, and every way in which the calls of `recv` can end.  A frame that is
too long goes through the buffer in pieces, none of them longer than the buffer. -/
theorem readPacket_outcome {buf : Bytes} (hbuf : 0 < buf.length) (stream : Bytes)
    (recvs : List Recv) :
    Outcome stream (needed stream) recvs (ReadsFrame buf stream) (fun v => v.1 = 0) Failed
        (readPacket { stream, recvs, conn := .up } buf buf.length) ∧
      (∀ v s, readPacket { stream, recvs, conn := .up } buf buf.length = .returns v s →
        v.2.length = buf.length) ∧
      ∀ packetlen, buf.length < packetlen →
        (reads buf.length packetlen).sum = packetlen ∧
          (∀ n ∈ reads buf.length packetlen, 0 < n ∧ n ≤ buf.length) ∧
          ∀ s, drain s buf buf.length packetlen = drainAll s buf (reads buf.length packetlen) := by
  have hfits : ∀ packetlen, buf.length < packetlen → Fits buf.length packetlen :=
    fun packetlen hlong _ => ⟨hbuf, Nat.le_of_lt hlong⟩
  refine ⟨?_, fun v s h => length_readPacket h, fun packetlen hlong =>
    ⟨sum_reads (hfits packetlen hlong), reads_le, fun s => drain_eq (hfits packetlen hlong) s buf⟩⟩
  rw [readPacket_eq]
  refine readPart_outcome _ recvs fun henough rest => ?_
  rw [if_neg (Nat.not_lt.2 henough)]
  by_cases hlong : buf.length < Framing.ofHeader (stream.take 4)
  · have hdrain := drainAll_outcome (reads buf.length (Framing.ofHeader (stream.take 4))) buf
      (stream.drop 4) rest
    rw [sum_reads (hfits _ hlong)] at hdrain
    rw [if_pos hlong, drain_eq (hfits _ hlong)]
    refine hdrain.mono (fun _ v hv => ?_) (fun v hv => hv) fun v hv => hv
    rw [ReadsFrame, if_neg (Nat.not_le.2 hlong)]
    exact hv
  · rw [if_neg hlong]
    show Outcome _ (Framing.ofHeader (stream.take 4) + 0) rest _ _ _ _
    refine readPart_outcome _ rest
      fun _ rest => .done _ [] rest ?_ (Nat.zero_le _) rfl (by simp) (Nat.zero_le _)
    rw [ReadsFrame, if_pos (Nat.le_of_not_lt hlong)]

/-- A frame of four bytes and a buffer of two, with the next frame behind it. -/
theorem readPacket_outcome_tooLong :
    Outcome [0, 0, 0, 4, 1, 2, 3, 4, 0] (needed [0, 0, 0, 4, 1, 2, 3, 4, 0])
        [.chunk 0, .interrupted, .chunk 9]
        (ReadsFrame [0, 0] [0, 0, 0, 4, 1, 2, 3, 4, 0]) (fun v => v.1 = 0) Failed
        (readPacket
          { stream := [0, 0, 0, 4, 1, 2, 3, 4, 0], recvs := [.chunk 0, .interrupted, .chunk 9]
            conn := .up } [0, 0] 2) ∧
      needed [0, 0, 0, 4, 1, 2, 3, 4, 0] = 8 ∧ reads 2 4 = [2, 2] :=
  ⟨(readPacket_outcome (by decide) _ _).1, by decide, by simp [reads]⟩

end Etcp

end MediaGateway
