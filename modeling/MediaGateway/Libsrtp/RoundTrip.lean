import MediaGateway.Libsrtp.Channel

/-!
# Protecting and unprotecting a packet

Two sessions with one master key, after any calls on either side.  `unprotect_protect` says that a
packet the one protects is restored octet by octet by the other one, if its database estimates
the index that the sender has used and takes it.
-/

namespace MediaGateway.Libsrtp

open Lib

variable {pkt out : Bytes} {ks : Nat → UInt8} {n i : Nat}

/-! ## Headers -/

theorem octet_of_take (h : out.take n = pkt.take n) (hi : i < n) : octet out i = octet pkt i := by
  have hget : ∀ l : Bytes, (l.take n).getD i 0 = l.getD i 0 := by
    intro l
    rw [List.getD_eq_getElem?_getD, List.getElem?_take, if_pos hi, List.getD_eq_getElem?_getD]
  unfold octet
  rw [← hget out, ← hget pkt, h]

theorem octetsInRtpHeader_le_encStart (pkt : Bytes) : octetsInRtpHeader ≤ encStart pkt := by
  unfold encStart
  dsimp only
  split_ifs
  · omega
  · omega

/-- The octets in front of the encrypted part say where it begins. -/
theorem encStart_of_take (h : out.take (encStart pkt) = pkt.take (encStart pkt)) :
    encStart out = encStart pkt := by
  have hpos : 0 < encStart pkt :=
    Nat.lt_of_lt_of_le (show 0 < octetsInRtpHeader by decide) (octetsInRtpHeader_le_encStart pkt)
  have hfirst := octet_of_take h hpos
  by_cases hx : octet pkt 0 / 16 % 2 = 1
  · have hstart : encStart pkt = octetsInRtpHeader + 4 * (octet pkt 0 % 16) +
        4 * (256 * octet pkt (octetsInRtpHeader + 4 * (octet pkt 0 % 16) + 2) +
          octet pkt (octetsInRtpHeader + 4 * (octet pkt 0 % 16) + 3) + 1) := if_pos hx
    have h2 : octet out (octetsInRtpHeader + 4 * (octet pkt 0 % 16) + 2) = _ :=
      octet_of_take h (by omega)
    have h3 : octet out (octetsInRtpHeader + 4 * (octet pkt 0 % 16) + 3) = _ :=
      octet_of_take h (by omega)
    unfold encStart
    dsimp only
    rw [hfirst, h2, h3]
  · unfold encStart
    dsimp only
    rw [hfirst, if_neg hx, if_neg hx]

theorem rtpSeq_of_take (h : out.take (encStart pkt) = pkt.take (encStart pkt)) :
    rtpSeq out = rtpSeq pkt := by
  have hle := octetsInRtpHeader_le_encStart pkt
  unfold octetsInRtpHeader at hle
  unfold rtpSeq
  rw [octet_of_take h (show 2 < encStart pkt by omega),
    octet_of_take h (show 3 < encStart pkt by omega)]

theorem rtpSsrc_of_take (h : out.take (encStart pkt) = pkt.take (encStart pkt)) :
    rtpSsrc out = rtpSsrc pkt := by
  have hle := octetsInRtpHeader_le_encStart pkt
  unfold octetsInRtpHeader at hle
  have hcut : ∀ l : Bytes, (l.drop 8).take 4 = ((l.take (encStart pkt)).take 12).drop 8 := by
    intro l
    rw [List.take_take, Nat.min_eq_left hle, List.drop_take]
  unfold rtpSsrc
  rw [hcut out, hcut pkt, h]

/-! ## One packet -/

/-- What `srtp_protect` takes: the header is whole and the rest is not too long. -/
structure Sendable (pkt : Bytes) : Prop where
  header : encStart pkt ≤ pkt.length
  payload : pkt.length - encStart pkt ≤ 0xffff

/-- The packet with its payload encrypted. -/
def encrypted (ks : Nat → UInt8) (pkt : Bytes) : Bytes :=
  pkt.take (encStart pkt) ++ Keystream.xorAt ks 0 (pkt.drop (encStart pkt))

theorem Sendable.length_encrypted (h : Sendable pkt) (ks : Nat → UInt8) :
    (encrypted ks pkt).length = pkt.length := by
  have hheader := h.header
  rw [encrypted, List.length_append, Keystream.length_xorAt, List.length_take, List.length_drop]
  omega

theorem Sendable.take_encrypted (h : Sendable pkt) (ks : Nat → UInt8) (tag : Bytes) :
    (encrypted ks pkt ++ tag).take (encStart pkt) = pkt.take (encStart pkt) := by
  have hlen : (pkt.take (encStart pkt)).length = encStart pkt := by
    rw [List.length_take]
    exact Nat.min_eq_left h.header
  rw [encrypted, List.append_assoc, List.take_left' hlen]

theorem Sendable.xorPart_protect (h : Sendable pkt) (ks : Nat → UInt8) :
    xorPart ks pkt (encStart pkt) pkt.length = some (encrypted ks pkt) := by
  have hheader := h.header
  have hpayload := h.payload
  unfold xorPart encrypted
  rw [List.take_length, List.drop_length, List.append_nil, List.length_drop, if_neg (by omega)]

theorem Sendable.xorPart_unprotect (h : Sendable pkt) (ks : Nat → UInt8) (tag : Bytes) :
    xorPart ks (encrypted ks pkt ++ tag) (encStart pkt) pkt.length = some (pkt ++ tag) := by
  have hheader := h.header
  have hpayload := h.payload
  have hlen := h.length_encrypted ks
  have hfront : (pkt.take (encStart pkt)).length = encStart pkt := by
    rw [List.length_take]
    exact Nat.min_eq_left hheader
  have hrest : (encrypted ks pkt).drop (encStart pkt) =
      Keystream.xorAt ks 0 (pkt.drop (encStart pkt)) := List.drop_left' hfront
  unfold xorPart
  rw [List.take_left' hlen, List.drop_left' hlen, hrest, Keystream.length_xorAt, List.length_drop,
    if_neg (by omega), h.take_encrypted, Keystream.xorAt_xorAt, List.take_append_drop]

variable {s t : Streams} {est : Nat} {delta : Int}

theorem Sendable.protect (h : Sendable pkt) (crypt : Crypt) (hout : (s.outgoing pkt).1 = .ok est) :
    (s.protect crypt pkt).1.status = .ok ∧
      (s.protect crypt pkt).1.pkt = encrypted (crypt.rtp (rtpSsrc pkt) est) pkt ++
        crypt.rtpTag (encrypted (crypt.rtp (rtpSsrc pkt) est) pkt ++ roc est) ∧
      (s.protect crypt pkt).2 = (s.outgoing pkt).2.2 := by
  have hheader := Nat.le_trans (octetsInRtpHeader_le_encStart pkt) h.header
  unfold Streams.protect
  rw [if_neg (Nat.not_lt.2 hheader)]
  generalize s.outgoing pkt = sent at hout ⊢
  obtain ⟨result, events, next⟩ := sent
  dsimp only at hout ⊢
  rw [hout]
  dsimp only
  rw [h.xorPart_protect]
  exact ⟨rfl, rfl, rfl⟩

theorem incoming_of_take (h : out.take (encStart pkt) = pkt.take (encStart pkt)) :
    t.incoming out = t.incoming pkt := by
  unfold Streams.incoming
  rw [rtpSsrc_of_take h, rtpSeq_of_take h]

theorem Sendable.unprotect (h : Sendable pkt) (crypt : Crypt)
    (htag : ∀ msg, (crypt.rtpTag msg).length = authTagLen)
    (hin : t.incoming pkt = .ok (delta, est)) (hlimit : t.updateLimit.1 ≠ .hardLimit) :
    let sent := encrypted (crypt.rtp (rtpSsrc pkt) est) pkt ++
      crypt.rtpTag (encrypted (crypt.rtp (rtpSsrc pkt) est) pkt ++ roc est)
    (t.unprotect crypt sent).1.status = .ok ∧ (t.unprotect crypt sent).1.pkt = pkt ∧
      (t.unprotect crypt sent).2 = (t.updateLimit.2.2.accept pkt delta).2 := by
  have hheader := Nat.le_trans (octetsInRtpHeader_le_encStart pkt) h.header
  have henc := h.length_encrypted (crypt.rtp (rtpSsrc pkt) est)
  have htake := h.take_encrypted (crypt.rtp (rtpSsrc pkt) est)
    (crypt.rtpTag (encrypted (crypt.rtp (rtpSsrc pkt) est) pkt ++ roc est))
  have hpart := h.xorPart_unprotect (crypt.rtp (rtpSsrc pkt) est)
    (crypt.rtpTag (encrypted (crypt.rtp (rtpSsrc pkt) est) pkt ++ roc est))
  have htaglen := htag (encrypted (crypt.rtp (rtpSsrc pkt) est) pkt ++ roc est)
  have hstop : (encrypted (crypt.rtp (rtpSsrc pkt) est) pkt ++
      crypt.rtpTag (encrypted (crypt.rtp (rtpSsrc pkt) est) pkt ++ roc est)).length - authTagLen =
        pkt.length := by
    rw [List.length_append, henc, htaglen, Nat.add_sub_cancel]
  intro sent
  unfold Streams.unprotect
  rw [if_neg (by rw [List.length_append, henc]; omega), incoming_of_take htake, hin]
  generalize t.updateLimit = limited at hlimit ⊢
  obtain ⟨event, limits, next⟩ := limited
  have haccept : next.accept sent delta = next.accept pkt delta := by
    unfold Streams.accept
    rw [rtpSsrc_of_take htake]
  dsimp only at hlimit ⊢
  rw [hstop, List.take_left' henc, List.drop_left' henc, if_neg (by simp), if_neg hlimit,
    encStart_of_take htake, rtpSsrc_of_take htake, hpart]
  exact ⟨rfl, List.take_left' rfl, congrArg Prod.snd haccept⟩

/-! ## Two sessions -/

variable {aes : Bytes → Block → Block} {keys : Keys} {ctx ctx' : SrtpCtx}

theorem keyed_run (h : Keyed ctx keys) {calls : List Call} (hfits : ∀ c ∈ calls, c.Fits) :
    Keyed ((srtpCalls aes).run ctx calls).1 keys := by
  induction calls generalizing ctx with
  | nil => exact h
  | cons c calls ih =>
    obtain ⟨hnext, -⟩ := calls_step aes h (hfits c List.mem_cons_self)
    exact ih hnext fun c' hc' => hfits c' (List.mem_cons_of_mem c hc')

theorem length_rtpTag (keys : Keys) (msg : Bytes) :
    ((keys.crypt aes).rtpTag msg).length = authTagLen := by
  rw [crypt_rtpTag, List.length_take, Sha1.length_hmac]
  rfl

/-- Two sessions with one master key, and their streams. -/
structure Sides (keys : Keys) (ctx ctx' : SrtpCtx) (s t : Streams) : Prop where
  sender : Keyed ctx keys
  receiver : Keyed ctx' keys
  sent : ctx.streams = s
  got : ctx'.streams = t

/-- What the one side sends is the packet with its payload encrypted and a tag. -/
theorem Sides.protect (h : Sides keys ctx ctx' s t) (hsend : Sendable pkt)
    (hlen : pkt.length < 2 ^ 27) (hout : (s.outgoing pkt).1 = .ok est) :
    (srtpProtect aes ctx pkt).status = .ok ∧
      (srtpProtect aes ctx pkt).pkt = encrypted ((keys.crypt aes).rtp (rtpSsrc pkt) est) pkt ++
        (keys.crypt aes).rtpTag (encrypted ((keys.crypt aes).rtp (rtpSsrc pkt) est) pkt ++
          roc est) ∧
      (srtpProtect aes ctx pkt).pkt.length < 2 ^ 28 ∧
      Sides keys (srtpProtect aes ctx pkt).ctx ctx' (s.outgoing pkt).2.2 t := by
  obtain ⟨hkeyed, hstreams, hreply⟩ :=
    agree_protect aes h.sender (show pkt.length < 2 ^ 28 by omega)
  rw [h.sent] at hstreams hreply
  obtain ⟨hstatus, hpkt, hnext⟩ := hsend.protect (keys.crypt aes) hout
  rw [← hreply] at hstatus hpkt
  dsimp only at hstatus hpkt
  refine ⟨hstatus, hpkt, ?_, hkeyed, h.receiver, hstreams.trans hnext, h.got⟩
  rw [hpkt, List.length_append, hsend.length_encrypted, length_rtpTag]
  unfold authTagLen
  omega

/-- A packet that the other side takes is restored. -/
theorem Sides.deliver (h : Sides keys ctx ctx' s t) (hsend : Sendable pkt)
    (hlen : pkt.length < 2 ^ 27) (hout : (s.outgoing pkt).1 = .ok est)
    (hin : t.incoming pkt = .ok (delta, est)) (hlimit : t.updateLimit.1 ≠ .hardLimit) :
    (srtpUnprotect aes ctx' (srtpProtect aes ctx pkt).pkt).status = .ok ∧
      (srtpUnprotect aes ctx' (srtpProtect aes ctx pkt).pkt).pkt = pkt ∧
      Sides keys (srtpProtect aes ctx pkt).ctx
        (srtpUnprotect aes ctx' (srtpProtect aes ctx pkt).pkt).ctx
        (s.outgoing pkt).2.2 (t.updateLimit.2.2.accept pkt delta).2 := by
  obtain ⟨-, hpkt, hshort, hnext⟩ := h.protect hsend hlen hout
  obtain ⟨hkeyed, hstreams, hreply⟩ := agree_unprotect aes h.receiver hshort
  rw [h.got] at hstreams hreply
  obtain ⟨hstatus, hsame, haccepted⟩ :=
    hsend.unprotect (keys.crypt aes) (length_rtpTag keys) hin hlimit
  rw [← hpkt, ← hreply] at hstatus hsame
  rw [← hpkt, ← hstreams] at haccepted
  exact ⟨hstatus, hsame, hnext.sender, hkeyed, hnext.sent, haccepted⟩

/-- A packet that its database does not take is refused. -/
theorem Sides.refuse (h : Sides keys ctx ctx' s t) (hsend : Sendable pkt)
    (hlen : pkt.length < 2 ^ 27) (hout : (s.outgoing pkt).1 = .ok est) {status : ErrStatus}
    (hin : t.incoming pkt = .error status) :
    (srtpUnprotect aes ctx' (srtpProtect aes ctx pkt).pkt).status = status ∧
      Sides keys ctx (srtpUnprotect aes ctx' (srtpProtect aes ctx pkt).pkt).ctx s t := by
  obtain ⟨-, hpkt, hshort, -⟩ := h.protect hsend hlen hout
  obtain ⟨hkeyed, hstreams, hreply⟩ := agree_unprotect aes h.receiver hshort
  rw [h.got] at hstreams hreply
  have hstatus := congrArg Reply.status hreply
  have hheader := Nat.le_trans (octetsInRtpHeader_le_encStart pkt) hsend.header
  have hlong : ¬ (srtpProtect aes ctx pkt).pkt.length < octetsInRtpHeader := by
    rw [hpkt, List.length_append, hsend.length_encrypted]
    omega
  have hsame : t.incoming (srtpProtect aes ctx pkt).pkt = .error status := by
    rw [hpkt, incoming_of_take (hsend.take_encrypted _ _), hin]
  unfold Streams.unprotect at hstatus hstreams
  rw [if_neg hlong, hsame] at hstatus hstreams
  exact ⟨hstatus, h.sender, hkeyed, h.sent, hstreams⟩

/-- After any calls on two sessions with one master key, the one restores what the other one
protects, if it takes the index that the other one has used. -/
theorem unprotect_protect {mem mem' : Memory} {policy policy' : SrtpPolicy}
    {before before' : List Call} (hcreate : srtpCreate aes mem policy = .ok ctx)
    (hcreate' : srtpCreate aes mem' policy' = .ok ctx') (hkey : policy.key = policy'.key)
    (hfits : ∀ c ∈ before, c.Fits) (hfits' : ∀ c ∈ before', c.Fits) (h : Sendable pkt)
    (hlen : pkt.length < 2 ^ 27)
    (hout : (((srtpCalls aes).run ctx before).1.streams.outgoing pkt).1 = .ok est)
    (hin : ((srtpCalls aes).run ctx' before').1.streams.incoming pkt = .ok (delta, est))
    (hlimit : ((srtpCalls aes).run ctx' before').1.streams.updateLimit.1 ≠ .hardLimit) :
    let sent := srtpProtect aes ((srtpCalls aes).run ctx before).1 pkt
    let got := srtpUnprotect aes ((srtpCalls aes).run ctx' before').1 sent.pkt
    sent.status = .ok ∧ got.status = .ok ∧ got.pkt = pkt := by
  have hkeyed := (keyed_create hcreate).1
  rw [hkey] at hkeyed
  have hsides : Sides (keysOf aes policy'.key) ((srtpCalls aes).run ctx before).1
      ((srtpCalls aes).run ctx' before').1 _ _ :=
    ⟨keyed_run hkeyed hfits, keyed_run (keyed_create hcreate').1 hfits', rfl, rfl⟩
  obtain ⟨hstatus, -, -⟩ := hsides.protect h hlen hout
  obtain ⟨hstatus', hsame, -⟩ := hsides.deliver h hlen hout hin hlimit
  exact ⟨hstatus, hstatus', hsame⟩

/-! ### Two packets -/

/-- The converter's policy for what goes out, with some key. -/
def outgoingPolicy : SrtpPolicy := ⟨.sender, List.replicate 30 7, 1024, 1⟩

/-- Its policy for what comes in, with the same key. -/
def incomingPolicy : SrtpPolicy := ⟨.receiver, List.replicate 30 7, 1024, 1⟩

def zeroMemory : Memory := ⟨Block.ofOctets [], List.replicate 64 0, rfl⟩

/-- A packet of 20 octets, and one of 41 octets from the same source. -/
def firstPkt : Bytes := [0x80, 8, 0, 5] ++ List.replicate 16 9

def secondPkt : Bytes := [0x80, 8, 0, 6] ++ List.replicate 37 9

theorem eq_ok_of_toOption {ε α : Type} {r : Except ε α} {a : α} (h : r.toOption = some a) :
    r = .ok a := by
  cases r with
  | error e => cases h
  | ok b => exact congrArg Except.ok (Option.some.inj h)

/-- New sessions. -/
theorem sides_create (hcreate : srtpCreate aes zeroMemory outgoingPolicy = .ok ctx)
    (hcreate' : srtpCreate aes zeroMemory incomingPolicy = .ok ctx') :
    Sides (keysOf aes incomingPolicy.key) ctx ctx' (newStreams outgoingPolicy)
      (newStreams incomingPolicy) :=
  ⟨(keyed_create hcreate).1, (keyed_create hcreate').1, (keyed_create hcreate).2,
    (keyed_create hcreate').2⟩

theorem firstPkt_sendable : Sendable firstPkt := ⟨by decide, by decide⟩

theorem secondPkt_sendable : Sendable secondPkt := ⟨by decide, by decide⟩

/-- The streams of the sender behind the first packet. -/
def sentFirst : Streams := ((newStreams outgoingPolicy).outgoing firstPkt).2.2

/-- The streams of the receiver behind it. -/
def gotFirst : Streams := ((newStreams incomingPolicy).updateLimit.2.2.accept firstPkt 5).2

theorem outgoing_firstPkt : ((newStreams outgoingPolicy).outgoing firstPkt).1 = .ok 5 :=
  eq_ok_of_toOption (by decide +kernel)

theorem outgoing_secondPkt : (sentFirst.outgoing secondPkt).1 = .ok 6 :=
  eq_ok_of_toOption (by decide +kernel)

theorem incoming_secondPkt : gotFirst.incoming secondPkt = .ok (1, 6) :=
  eq_ok_of_toOption (by decide +kernel)

/-- The first packet between new sessions. -/
theorem deliver_firstPkt (aes : Bytes → Block → Block)
    (h : Sides keys ctx ctx' (newStreams outgoingPolicy) (newStreams incomingPolicy)) :
    (srtpUnprotect aes ctx' (srtpProtect aes ctx firstPkt).pkt).status = .ok ∧
      (srtpProtect aes ctx firstPkt).pkt.length < 2 ^ 28 ∧
      Sides keys (srtpProtect aes ctx firstPkt).ctx
        (srtpUnprotect aes ctx' (srtpProtect aes ctx firstPkt).pkt).ctx sentFirst gotFirst := by
  have hin : (newStreams incomingPolicy).incoming firstPkt = .ok (5, 5) :=
    eq_ok_of_toOption (by decide +kernel)
  obtain ⟨-, -, hshort, -⟩ := h.protect firstPkt_sendable (by decide) outgoing_firstPkt
  obtain ⟨hstatus, -, hnext⟩ :=
    h.deliver firstPkt_sendable (by decide) outgoing_firstPkt hin (by decide +kernel)
  exact ⟨hstatus, hshort, hnext⟩

theorem run_protect (aes : Bytes → Block → Block) (ctx : SrtpCtx) (pkt : Bytes) :
    ((srtpCalls aes).run ctx [.protect pkt]).1 = (srtpProtect aes ctx pkt).ctx :=
  rfl

theorem run_unprotect (aes : Bytes → Block → Block) (ctx : SrtpCtx) (pkt : Bytes) :
    ((srtpCalls aes).run ctx [.unprotect pkt]).1 = (srtpUnprotect aes ctx pkt).ctx :=
  rfl

/-- The second packet of a source, between sessions that have used their ciphers, hash contexts
and databases for the first one. -/
theorem unprotect_protect_second :
    outgoingPolicy.key = incomingPolicy.key ∧ ∀ aes, ∃ ctx ctx',
      srtpCreate aes zeroMemory outgoingPolicy = .ok ctx ∧
      srtpCreate aes zeroMemory incomingPolicy = .ok ctx' ∧
      (srtpUnprotect aes
        ((srtpCalls aes).run ctx' [.unprotect (srtpProtect aes ctx firstPkt).pkt]).1
        (srtpProtect aes ((srtpCalls aes).run ctx [.protect firstPkt]).1 secondPkt).pkt).pkt =
          secondPkt := by
  refine ⟨rfl, fun aes => ?_⟩
  obtain ⟨ctx, hctx⟩ := create_of_valid aes zeroMemory (show outgoingPolicy.Valid by decide)
  obtain ⟨ctx', hctx'⟩ := create_of_valid aes zeroMemory (show incomingPolicy.Valid by decide)
  obtain ⟨-, hshort, hnext⟩ := deliver_firstPkt aes (sides_create hctx hctx')
  have hbefore : ∀ c ∈ [Call.protect firstPkt], c.Fits := by
    simp [Call.Fits, firstPkt]
  have hbefore' : ∀ c ∈ [Call.unprotect (srtpProtect aes ctx firstPkt).pkt], c.Fits := by
    intro c hc
    rw [List.mem_singleton.1 hc]
    exact hshort
  have hout : (((srtpCalls aes).run ctx [.protect firstPkt]).1.streams.outgoing secondPkt).1 =
      .ok 6 := by
    rw [run_protect, hnext.sent]
    exact outgoing_secondPkt
  have hin : ((srtpCalls aes).run ctx'
      [.unprotect (srtpProtect aes ctx firstPkt).pkt]).1.streams.incoming secondPkt =
        .ok (1, 6) := by
    rw [run_unprotect, hnext.got]
    exact incoming_secondPkt
  have hlimit : ((srtpCalls aes).run ctx'
      [.unprotect (srtpProtect aes ctx firstPkt).pkt]).1.streams.updateLimit.1 ≠ .hardLimit := by
    rw [run_unprotect, hnext.got]
    decide +kernel
  exact ⟨ctx, ctx', hctx, hctx', (unprotect_protect hctx hctx' rfl hbefore hbefore'
    secondPkt_sendable (by decide) hout hin hlimit).2.2⟩

end MediaGateway.Libsrtp
