import MediaGateway.Libsrtp.RoundTrip

/-!
# The inputs of the block cipher

A keystream is what the block cipher makes of counters, so two packets whose counters meet would
be encrypted with the same octets.  A counter is the salt xored with the source, the index of the
packet and the number of the block.

* `Enciphered.encrypt` says that `aes_icm_encrypt` xors a packet with the block cipher at the
  counters of the packet, and `protect_enciphered` and `protectRtcp_enciphered` that this is what
  a session sends.
* `nodup_counters` says that the counters of all packets of a session differ as long as no index
  of a source is used twice.
-/

namespace MediaGateway.Libsrtp

open Lib

/-- A packet as the cipher sees it: its source, its index and the number of its octets that are
encrypted, which is at most the one that `aes_icm_encrypt` takes. -/
structure Enciphered where
  ssrc : Bytes
  index : Nat
  octets : Nat
  four : ssrc.length = 4
  index_lt : index < 2 ^ 48
  octets_le : octets ≤ 0xffff

/-- The counters for a packet under a salt. -/
def Enciphered.counters (salt : Block) (p : Enciphered) : List Block :=
  (List.range ((p.octets + 15) / 16)).map fun i =>
    (salt.xor (packetIv p.ssrc p.index)).withCtr ((salt.xor (packetIv p.ssrc p.index)).ctr + i)

/-! ## The keystream of a packet -/

/-- The block cipher at the counters of a packet. -/
def Enciphered.keystream (aes : Bytes → Block → Block) (key : Bytes) (salt : Block)
    (p : Enciphered) : Bytes :=
  (p.counters salt).flatMap fun counter => (aes key counter).v8

variable {aes : Bytes → Block → Block} {key buf pkt : Bytes}

/-- A text as long as the packet, xored with the keystream that begins at its IV. -/
theorem Enciphered.xorAt_keystream (p : Enciphered) (salt : Block) (hlen : buf.length = p.octets) :
    Keystream.xorAt (AesIcm.keystream aes key (salt.xor (packetIv p.ssrc p.index))) 0 buf =
      Keystream.xor buf (p.keystream aes key salt) := by
  have hblocks : p.keystream aes key salt = (List.range ((p.octets + 15) / 16)).flatMap
      (AesIcm.block aes key (salt.xor (packetIv p.ssrc p.index))) := by
    rw [Enciphered.keystream, Enciphered.counters, List.flatMap_map]
    rfl
  rw [hblocks]
  exact Keystream.xorAt_blocks (fun _ => Block.sixteen _) (by omega)

/-- What `aes_icm_encrypt` does after `aes_icm_set_iv` for a packet. -/
theorem Enciphered.encrypt (aes : Bytes → Block → Block) {c : AesIcm} (hctr : c.offset.ctr = 0)
    (p : Enciphered) (hlen : buf.length = p.octets) :
    ((c.setIv (packetIv p.ssrc p.index)).encrypt aes buf).1 = .ok ∧
      ((c.setIv (packetIv p.ssrc p.index)).encrypt aes buf).2.2 =
        Keystream.xor buf (p.keystream aes c.expandedKey c.offset) := by
  have hle : buf.length ≤ 0xffff := by
    rw [hlen]
    exact p.octets_le
  obtain ⟨hstatus, hout⟩ := AesIcm.encrypt_setIv aes (ctr_packetIv p.index p.four hctr)
    (show buf.length < 2 ^ 31 by omega)
  rw [hstatus, if_pos hle, hout hle, p.xorAt_keystream c.offset hlen]
  exact ⟨rfl, rfl⟩

/-! ## What a session sends -/

/-- An index that the database estimates has 48 bits. -/
theorem estimateIndex_lt (r : Rdbx) {s : Nat} (hs : s < 2 ^ 16) :
    (r.estimateIndex s).2 < 2 ^ 48 := by
  unfold Rdbx.estimateIndex indexGuess seqNumMax seqNumMedian
  dsimp only
  split_ifs <;> dsimp only <;> omega

theorem rtpSeq_lt (pkt : Bytes) : rtpSeq pkt < 2 ^ 16 := by
  have hhigh := (pkt.getD 2 0).toNat_lt
  have hlow := (pkt.getD 3 0).toNat_lt
  unfold rtpSeq octet
  omega

variable {s : Streams} {est seqNum : Nat}

theorem outgoing_lt (h : (s.outgoing pkt).1 = .ok est) : est < 2 ^ 48 := by
  have hlt := fun r : Rdbx => estimateIndex_lt r (rtpSeq_lt pkt)
  revert h
  fun_cases Streams.outgoing s pkt with
  | case1 => exact fun h => by cases h
  | case2 original stream collision _ event limits next _ _ delta est' hest =>
    intro h
    rw [← Except.ok.inj h]
    have hr := hlt stream.rtpRdbx
    rwa [hest] at hr
  | case3 original stream collision _ event limits next _ _ delta est' hest =>
    intro h
    rw [← Except.ok.inj h]
    have hr := hlt stream.rtpRdbx
    rwa [hest] at hr
  | case4 => exact fun h => by cases h

theorem outgoingRtcp_lt (h : (s.outgoingRtcp pkt).1 = .ok seqNum) : seqNum < 2 ^ 48 := by
  revert h
  fun_cases Streams.outgoingRtcp s pkt with
  | case1 original stream collision _ status rtcpRdb hincrement =>
    intro h
    dsimp only at h
    split_ifs at h
    rw [← Except.ok.inj h]
    have hvalue : rtcpRdb.getValue = (stream.rtcpRdb.windowStart + 1) % 2 ^ 32 :=
      congrArg (fun r => r.2.windowStart) hincrement.symm
    rw [hvalue]
    omega

/-- A packet that `srtp_protect` enciphers with the index `est`. -/
def Enciphered.ofRtp (hsend : Sendable pkt) (hest : est < 2 ^ 48) : Enciphered where
  ssrc := rtpSsrc pkt
  index := est
  octets := pkt.length - encStart pkt
  four := length_rtpSsrc (Nat.le_trans (octetsInRtpHeader_le_encStart pkt) hsend.header)
  index_lt := hest
  octets_le := hsend.payload

/-- A packet that `srtp_protect_rtcp` enciphers with the number `seqNum`. -/
def Enciphered.ofRtcp (hheader : octetsInRtcpHeader ≤ pkt.length)
    (hfits : pkt.length - octetsInRtcpHeader ≤ 0xffff) (hseq : seqNum < 2 ^ 48) : Enciphered where
  ssrc := rtcpSsrc pkt
  index := seqNum
  octets := pkt.length - octetsInRtcpHeader
  four := length_rtcpSsrc hheader
  index_lt := hseq
  octets_le := hfits

variable {ctx : SrtpCtx} {keys : Keys}

/-- `srtp_protect` sends the payload xored with the block cipher at the counters of the packet. -/
theorem protect_enciphered (hkeyed : Keyed ctx keys) (hsend : Sendable pkt)
    (hlen : pkt.length < 2 ^ 28) (hout : (ctx.streams.outgoing pkt).1 = .ok est) :
    (srtpProtect aes ctx pkt).pkt.take pkt.length =
      pkt.take (encStart pkt) ++ Keystream.xor (pkt.drop (encStart pkt))
        ((Enciphered.ofRtp hsend (outgoing_lt hout)).keystream aes keys.rtpKey keys.rtpSalt) := by
  have hxor : Keystream.xorAt ((keys.crypt aes).rtp (rtpSsrc pkt) est) 0 (pkt.drop (encStart pkt)) =
      Keystream.xor (pkt.drop (encStart pkt))
        ((Enciphered.ofRtp hsend (outgoing_lt hout)).keystream aes keys.rtpKey keys.rtpSalt) :=
    (Enciphered.ofRtp hsend (outgoing_lt hout)).xorAt_keystream keys.rtpSalt List.length_drop
  have hwhole := hsend.length_encrypted ((keys.crypt aes).rtp (rtpSsrc pkt) est)
  obtain ⟨-, -, hreply⟩ := agree_protect aes hkeyed hlen
  obtain ⟨-, hpkt, -⟩ := hsend.protect (keys.crypt aes) hout
  rw [← hreply] at hpkt
  dsimp only at hpkt
  rw [hpkt, List.take_left' hwhole, encrypted, hxor]

theorem protectRtcp_pkt (crypt : Crypt) {enc : Bytes}
    (hpart : xorPart (crypt.rtcp (rtcpSsrc pkt) seqNum) pkt octetsInRtcpHeader pkt.length =
      some enc) (hout : (s.outgoingRtcp pkt).1 = .ok seqNum) :
    (s.protectRtcp crypt pkt).1.pkt = enc ++ (Framing.header (srtcpEBit ||| seqNum) ++
      crypt.rtcpTag (enc ++ Framing.header (srtcpEBit ||| seqNum))) := by
  unfold Streams.protectRtcp
  generalize s.outgoingRtcp pkt = sent at hout ⊢
  obtain ⟨result, events, next⟩ := sent
  dsimp only at hout ⊢
  rw [hout]
  dsimp only
  rw [hpart, ← List.append_assoc]

/-- And so does `srtp_protect_rtcp`. -/
theorem protectRtcp_enciphered (hkeyed : Keyed ctx keys)
    (hheader : octetsInRtcpHeader ≤ pkt.length) (hfits : pkt.length - octetsInRtcpHeader ≤ 0xffff)
    (hout : (ctx.streams.outgoingRtcp pkt).1 = .ok seqNum) :
    (srtpProtectRtcp aes ctx pkt).pkt.take pkt.length =
      pkt.take octetsInRtcpHeader ++ Keystream.xor (pkt.drop octetsInRtcpHeader)
        ((Enciphered.ofRtcp hheader hfits (outgoingRtcp_lt hout)).keystream aes keys.rtcpKey
          keys.rtcpSalt) := by
  have hxor : Keystream.xorAt ((keys.crypt aes).rtcp (rtcpSsrc pkt) seqNum) 0
      (pkt.drop octetsInRtcpHeader) = Keystream.xor (pkt.drop octetsInRtcpHeader)
        ((Enciphered.ofRtcp hheader hfits (outgoingRtcp_lt hout)).keystream aes keys.rtcpKey
          keys.rtcpSalt) :=
    (Enciphered.ofRtcp hheader hfits (outgoingRtcp_lt hout)).xorAt_keystream keys.rtcpSalt
      List.length_drop
  have hpart : xorPart ((keys.crypt aes).rtcp (rtcpSsrc pkt) seqNum) pkt octetsInRtcpHeader
      pkt.length = some (pkt.take octetsInRtcpHeader ++ Keystream.xor (pkt.drop octetsInRtcpHeader)
        ((Enciphered.ofRtcp hheader hfits (outgoingRtcp_lt hout)).keystream aes keys.rtcpKey
          keys.rtcpSalt)) := by
    unfold xorPart
    rw [List.take_length, List.drop_length, List.append_nil, List.length_drop,
      if_neg (by omega), hxor]
  have hwhole := length_xorPart hpart
  obtain ⟨-, -, hreply⟩ := agree_protectRtcp aes hkeyed (by
    unfold octetsInRtcpHeader at hfits
    omega) hheader
  have hpkt := protectRtcp_pkt (keys.crypt aes) hpart hout
  rw [← hreply] at hpkt
  dsimp only at hpkt
  rw [hpkt, List.take_left' hwhole]

/-! ## No counter twice -/

variable {salt : Block} {ssrc ssrc' : Bytes} {est' i j : Nat}

/-- The octets in front of the number of the block tell the source and the index. -/
theorem packetIv_inj (hssrc : ssrc.length = 4) (hssrc' : ssrc'.length = 4) (hest : est < 2 ^ 48)
    (hest' : est' < 2 ^ 48)
    (h : ∀ k < 14, (packetIv ssrc est).octet k = (packetIv ssrc' est').octet k) :
    ssrc = ssrc' ∧ est = est' := by
  obtain ⟨a, b, c, d, rfl⟩ := exists_four hssrc
  obtain ⟨a', b', c', d', rfl⟩ := exists_four hssrc'
  have ha : a = a' := h 4 (by decide)
  have hb : b = b' := h 5 (by decide)
  have hc : c = c' := h 6 (by decide)
  have hd : d = d' := h 7 (by decide)
  have h8 : UInt8.ofNat (est * 2 ^ 16 / 2 ^ 32 / 2 ^ 24) =
    UInt8.ofNat (est' * 2 ^ 16 / 2 ^ 32 / 2 ^ 24) := h 8 (by decide)
  have h9 : UInt8.ofNat (est * 2 ^ 16 / 2 ^ 32 / 2 ^ 16) =
    UInt8.ofNat (est' * 2 ^ 16 / 2 ^ 32 / 2 ^ 16) := h 9 (by decide)
  have h10 : UInt8.ofNat (est * 2 ^ 16 / 2 ^ 32 / 2 ^ 8) =
    UInt8.ofNat (est' * 2 ^ 16 / 2 ^ 32 / 2 ^ 8) := h 10 (by decide)
  have h11 : UInt8.ofNat (est * 2 ^ 16 / 2 ^ 32) =
    UInt8.ofNat (est' * 2 ^ 16 / 2 ^ 32) := h 11 (by decide)
  have h12 : UInt8.ofNat (est * 2 ^ 16 / 2 ^ 24) =
    UInt8.ofNat (est' * 2 ^ 16 / 2 ^ 24) := h 12 (by decide)
  have h13 : UInt8.ofNat (est * 2 ^ 16 / 2 ^ 16) =
    UInt8.ofNat (est' * 2 ^ 16 / 2 ^ 16) := h 13 (by decide)
  rw [← UInt8.toNat_inj, UInt8.toNat_ofNat', UInt8.toNat_ofNat'] at h8 h9 h10 h11 h12 h13
  refine ⟨by rw [ha, hb, hc, hd], ?_⟩
  omega

/-- A counter tells the source, the index and the block. -/
theorem counter_inj (hsalt : salt.ctr = 0) (hssrc : ssrc.length = 4) (hssrc' : ssrc'.length = 4)
    (hest : est < 2 ^ 48) (hest' : est' < 2 ^ 48) (hi : i < 2 ^ 16) (hj : j < 2 ^ 16)
    (h : (salt.xor (packetIv ssrc est)).withCtr ((salt.xor (packetIv ssrc est)).ctr + i) =
      (salt.xor (packetIv ssrc' est')).withCtr ((salt.xor (packetIv ssrc' est')).ctr + j)) :
    (ssrc = ssrc' ∧ est = est') ∧ i = j := by
  rw [ctr_packetIv est hssrc hsalt, ctr_packetIv est' hssrc' hsalt, Nat.zero_add,
    Nat.zero_add] at h
  have hctr := congrArg Block.ctr h
  rw [Block.ctr_withCtr hi, Block.ctr_withCtr hj] at hctr
  have hfront := congrArg (fun b : Block => b.v8.take 14) h
  rw [Block.take_withCtr, Block.take_withCtr] at hfront
  refine ⟨packetIv_inj hssrc hssrc' hest hest' fun k hk => ?_, hctr⟩
  have hoctet : (salt.xor (packetIv ssrc est)).octet k =
      (salt.xor (packetIv ssrc' est')).octet k := by
    have hget := congrArg (fun l : Bytes => l.getD k 0) hfront
    simpa [Block.octet, List.getD_eq_getElem?_getD, List.getElem?_take, hk] using hget
  rw [Block.octet_xor, Block.octet_xor] at hoctet
  have hcancel := congrArg (salt.octet k ^^^ ·) hoctet
  rwa [← UInt8.xor_assoc, ← UInt8.xor_assoc, UInt8.xor_self, UInt8.zero_xor,
    UInt8.zero_xor] at hcancel

/-- No counter of a session is used twice while no index of a source is. -/
theorem nodup_counters (salt : Bytes) {packets : List Enciphered}
    (hdistinct : (packets.map fun p => (p.ssrc, p.index)).Nodup) :
    (packets.flatMap (Enciphered.counters (saltBlock salt))).Nodup := by
  have hblocks : ∀ {p : Enciphered} {i : Nat}, i ∈ List.range ((p.octets + 15) / 16) →
      i < 2 ^ 16 := by
    intro p i hi
    have hle := p.octets_le
    have hlt := List.mem_range.1 hi
    omega
  have hsalt := ctr_saltBlock salt
  rw [List.nodup_flatMap]
  refine ⟨fun p _ => ?_, ?_⟩
  · refine List.Nodup.map_on (fun i hi j hj h => ?_) List.nodup_range
    exact (counter_inj hsalt p.four p.four p.index_lt p.index_lt (hblocks hi) (hblocks hj) h).2
  · refine (List.pairwise_map.1 hdistinct).imp fun {p q} hne => ?_
    show List.Disjoint (p.counters _) (q.counters _)
    intro b hp hq
    obtain ⟨i, hi, rfl⟩ := List.mem_map.1 hp
    obtain ⟨j, hj, heq⟩ := List.mem_map.1 hq
    obtain ⟨⟨hssrc, hindex⟩, -⟩ := counter_inj hsalt q.four p.four q.index_lt p.index_lt
      (hblocks hj) (hblocks hi) heq
    exact hne (by rw [hssrc, hindex])

theorem nodup_counters_neighbours :
    ([⟨[0, 0, 0, 7], 65535, 200, rfl, by decide, by decide⟩,
      ⟨[0, 0, 0, 7], 65536, 65535, rfl, by decide, by decide⟩,
      ⟨[0, 0, 0, 8], 65535, 16, rfl, by decide, by decide⟩].flatMap
        (Enciphered.counters (saltBlock (List.replicate 14 3)))).Nodup :=
  nodup_counters _ (by decide)

end MediaGateway.Libsrtp
