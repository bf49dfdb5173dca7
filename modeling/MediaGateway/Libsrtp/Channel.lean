import MediaGateway.Libsrtp.Srtp

/-!
# SRTP without cipher contexts

The packet functions of a session over the plain functions that a keystream and a tag are
(`Crypt`): what is left of the session is its streams.  `calls_refine` says that the code's
session, whose contexts keep counters, buffers and half-finished hashes, answers every sequence
of calls as this one does, with the keys that `keysOf` derives from the master key.
-/

namespace MediaGateway.Libsrtp

open Lib

/-- The keystreams for a source and an index, and the tags. -/
structure Crypt where
  rtp : Bytes → Nat → Nat → UInt8
  rtpTag : Bytes → Bytes
  rtcp : Bytes → Nat → Nat → UInt8
  rtcpTag : Bytes → Bytes

/-- A call of a packet function. -/
inductive Call
  | protect (pkt : Bytes)
  | unprotect (pkt : Bytes)
  | protectRtcp (pkt : Bytes)
  | unprotectRtcp (pkt : Bytes)
  deriving DecidableEq, Repr

/-- What the caller sees of a call. -/
structure Reply where
  status : ErrStatus
  pkt : Bytes
  events : List SrtpEvent
  deriving DecidableEq, Repr

/-- The octets of a packet from `start` up to `stop` xored with a keystream, which is long enough
for 65535 octets. -/
def xorPart (ks : Nat → UInt8) (pkt : Bytes) (start stop : Nat) : Option Bytes :=
  if stop < start ∨ 0xffff < ((pkt.take stop).drop start).length then none
  else some (pkt.take start ++ Keystream.xorAt ks 0 ((pkt.take stop).drop start) ++ pkt.drop stop)

namespace Streams

section Crypt

variable (crypt : Crypt)

def protect (s : Streams) (pkt : Bytes) : Reply × Streams :=
  if pkt.length < octetsInRtpHeader then (⟨.badParam, pkt, []⟩, s)
  else
    match s.outgoing pkt with
    | (.error status, events, s) => (⟨status, pkt, events⟩, s)
    | (.ok est, events, s) =>
      match xorPart (crypt.rtp (rtpSsrc pkt) est) pkt (encStart pkt) pkt.length with
      | some enc => (⟨.ok, enc ++ crypt.rtpTag (enc ++ roc est), events⟩, s)
      | none => (⟨.cipherFail, pkt, events⟩, s)

def unprotect (s : Streams) (pkt : Bytes) : Reply × Streams :=
  if pkt.length < octetsInRtpHeader then (⟨.badParam, pkt, []⟩, s)
  else
    match s.incoming pkt with
    | .error status => (⟨status, pkt, []⟩, s)
    | .ok (delta, est) =>
      let stop := pkt.length - authTagLen
      if crypt.rtpTag (pkt.take stop ++ roc est) ≠ pkt.drop stop then (⟨.authFail, pkt, []⟩, s)
      else
        let (event, limits, s) := s.updateLimit
        if event = .hardLimit then (⟨.keyExpired, pkt, limits⟩, s)
        else
          match xorPart (crypt.rtp (rtpSsrc pkt) est) pkt (encStart pkt) stop with
          | some dec =>
            let (collision, s) := s.accept pkt delta
            (⟨.ok, dec.take stop, limits ++ collision⟩, s)
          | none => (⟨.cipherFail, pkt, limits⟩, s)

def protectRtcp (s : Streams) (pkt : Bytes) : Reply × Streams :=
  match s.outgoingRtcp pkt with
  | (.error status, events, s) => (⟨status, pkt, events⟩, s)
  | (.ok seqNum, events, s) =>
    match xorPart (crypt.rtcp (rtcpSsrc pkt) seqNum) pkt octetsInRtcpHeader pkt.length with
    | some enc =>
      let whole := enc ++ Framing.header (srtcpEBit ||| seqNum)
      (⟨.ok, whole ++ crypt.rtcpTag whole, events⟩, s)
    | none => (⟨.cipherFail, pkt, events⟩, s)

def unprotectRtcp (s : Streams) (pkt : Bytes) : Reply × Streams :=
  let authLen := pkt.length - authTagLen
  let stop := authLen - srtcpTrailerLen
  let trailer := Framing.ofHeader ((pkt.drop stop).take srtcpTrailerLen)
  let seqNum := trailer &&& srtcpIndexMask
  match s.checkRtcp pkt seqNum with
  | .ok =>
    if crypt.rtcpTag (pkt.take authLen) ≠ pkt.drop authLen then (⟨.authFail, pkt, []⟩, s)
    else
      let dec := if trailer &&& srtcpEBit = 0 then some pkt
        else xorPart (crypt.rtcp (rtcpSsrc pkt) seqNum) pkt octetsInRtcpHeader stop
      match dec with
      | some dec =>
        let (events, s) := s.acceptRtcp pkt seqNum
        (⟨.ok, dec.take stop, events⟩, s)
      | none => (⟨.cipherFail, pkt, []⟩, s)
  | status => (⟨status, pkt, []⟩, s)

/-- One call. -/
def call (s : Streams) : Call → Reply × Streams
  | .protect pkt => s.protect crypt pkt
  | .unprotect pkt => s.unprotect crypt pkt
  | .protectRtcp pkt => s.protectRtcp crypt pkt
  | .unprotectRtcp pkt => s.unprotectRtcp crypt pkt

end Crypt

end Streams

/-- A session as a machine over the calls. -/
def srtpSession (crypt : Crypt) : Transducer Streams Call Reply where
  step := fun s c => ((s.call crypt c).2, [(s.call crypt c).1])

/-- The code's session as a machine over the calls. -/
def srtpCalls (aes : Bytes → Block → Block) : Transducer SrtpCtx Call Reply where
  step := fun ctx c =>
    let r := match c with
      | .protect pkt => srtpProtect aes ctx pkt
      | .unprotect pkt => srtpUnprotect aes ctx pkt
      | .protectRtcp pkt => srtpProtectRtcp aes ctx pkt
      | .unprotectRtcp pkt => srtpUnprotectRtcp aes ctx pkt
    (r.ctx, [⟨r.status, r.pkt, r.events⟩])

/-! ## Keys -/

/-- The keys of a session. -/
structure Keys where
  rtpKey : Bytes
  rtpSalt : Block
  rtpAuthKey : Bytes
  rtcpKey : Bytes
  rtcpSalt : Block
  rtcpAuthKey : Bytes

/-- The functions that keys give. -/
def Keys.crypt (aes : Bytes → Block → Block) (keys : Keys) : Crypt where
  rtp := fun ssrc est => AesIcm.keystream aes keys.rtpKey (keys.rtpSalt.xor (packetIv ssrc est))
  rtpTag := fun msg => (Sha1.hmac keys.rtpAuthKey msg).take authTagLen
  rtcp := fun ssrc est => AesIcm.keystream aes keys.rtcpKey (keys.rtcpSalt.xor (packetIv ssrc est))
  rtcpTag := fun msg => (Sha1.hmac keys.rtcpAuthKey msg).take authTagLen

section

variable (aes : Bytes → Block → Block) (keys : Keys)

theorem crypt_rtp (ssrc : Bytes) (est : Nat) :
    (keys.crypt aes).rtp ssrc est =
      AesIcm.keystream aes keys.rtpKey (keys.rtpSalt.xor (packetIv ssrc est)) :=
  rfl

theorem crypt_rtpTag (msg : Bytes) :
    (keys.crypt aes).rtpTag msg = (Sha1.hmac keys.rtpAuthKey msg).take authTagLen :=
  rfl

theorem crypt_rtcp (ssrc : Bytes) (est : Nat) :
    (keys.crypt aes).rtcp ssrc est =
      AesIcm.keystream aes keys.rtcpKey (keys.rtcpSalt.xor (packetIv ssrc est)) :=
  rfl

theorem crypt_rtcpTag (msg : Bytes) :
    (keys.crypt aes).rtcpTag msg = (Sha1.hmac keys.rtcpAuthKey msg).take authTagLen :=
  rfl

end

/-- A cipher has a key and a salt, whose place for the block number is empty. -/
structure CipherKeyed (cipher : AesIcm) (key : Bytes) (salt : Block) : Prop where
  expandedKey : cipher.expandedKey = key
  offset : cipher.offset = salt
  ctr : salt.ctr = 0

/-- The contexts of a session have the keys. -/
structure Keyed (ctx : SrtpCtx) (keys : Keys) : Prop where
  rtpCipher : CipherKeyed ctx.rtpCipher keys.rtpKey keys.rtpSalt
  rtpAuth : ctx.rtpAuth.Keyed keys.rtpAuthKey
  rtcpCipher : CipherKeyed ctx.rtcpCipher keys.rtcpKey keys.rtcpSalt
  rtcpAuth : ctx.rtcpAuth.Keyed keys.rtcpAuthKey

variable {aes : Bytes → Block → Block} {cipher : AesIcm} {key : Bytes} {salt : Block}
  {ctx : SrtpCtx} {keys : Keys} {pkt ssrc : Bytes} {est : Nat}

theorem length_roc (est : Nat) : (roc est).length = 4 := rfl

/-- A source in its four octets. -/
theorem exists_four (h : ssrc.length = 4) : ∃ a b c d, ssrc = [a, b, c, d] := by
  match ssrc, h with
  | [a, b, c, d], _ => exact ⟨a, b, c, d, rfl⟩

/-- The IV leaves the place for the block number empty. -/
theorem ctr_packetIv (est : Nat) (hssrc : ssrc.length = 4) (hsalt : salt.ctr = 0) :
    (salt.xor (packetIv ssrc est)).ctr = 0 := by
  obtain ⟨a, b, c, d, rfl⟩ := exists_four hssrc
  have h14 : (packetIv [a, b, c, d] est).octet 14 = 0 := by
    show UInt8.ofNat (est * 2 ^ 16 / 2 ^ 8) = 0
    rw [← UInt8.toNat_inj, UInt8.toNat_ofNat']
    show _ = 0
    omega
  have h15 : (packetIv [a, b, c, d] est).octet 15 = 0 := by
    show UInt8.ofNat (est * 2 ^ 16) = 0
    rw [← UInt8.toNat_inj, UInt8.toNat_ofNat']
    show _ = 0
    omega
  obtain ⟨hs14, hs15⟩ := (Block.ctr_eq_zero salt).1 hsalt
  rw [Block.ctr_eq_zero, Block.octet_xor, Block.octet_xor, h14, h15, hs14, hs15]
  exact ⟨rfl, rfl⟩

/-- One pass over a part of a packet with a new IV. -/
theorem CipherKeyed.cipherPart (h : CipherKeyed cipher key salt) (aes : Bytes → Block → Block)
    (hssrc : ssrc.length = 4) (est : Nat) (hlen : pkt.length < 2 ^ 28) (start stop : Nat) :
    ∃ next out, CipherKeyed next key salt ∧
      cipherPart aes (cipher.setIv (packetIv ssrc est)) pkt start stop =
        match xorPart (AesIcm.keystream aes key (salt.xor (packetIv ssrc est))) pkt start stop with
        | some enc => (.ok, next, enc)
        | none => (.terminus, next, out) := by
  obtain ⟨rfl, rfl, hctr⟩ := h
  have hpart : ((pkt.take stop).drop start).length < 2 ^ 31 := by
    rw [List.length_drop, List.length_take]
    omega
  obtain ⟨hstatus, hout⟩ := AesIcm.encrypt_setIv aes (ctr_packetIv est hssrc hctr) hpart
  obtain ⟨hoffset, hkey⟩ := AesIcm.key_encrypt aes (cipher.setIv (packetIv ssrc est))
    ((pkt.take stop).drop start)
  unfold Libsrtp.cipherPart xorPart
  by_cases hneg : stop < start
  · rw [if_pos hneg, if_pos (Or.inl hneg)]
    exact ⟨cipher.setIv (packetIv ssrc est), pkt, ⟨rfl, rfl, hctr⟩, rfl⟩
  · rw [if_neg hneg]
    generalize (cipher.setIv (packetIv ssrc est)).encrypt aes ((pkt.take stop).drop start) = r at *
    obtain ⟨status, next, buf⟩ := r
    refine ⟨next, pkt.take start ++ buf ++ pkt.drop stop, ⟨hkey, hoffset, hctr⟩, ?_⟩
    dsimp only at hstatus hout ⊢
    by_cases hfits : ((pkt.take stop).drop start).length ≤ 0xffff
    · rw [if_pos hfits] at hstatus
      rw [if_neg (by omega), hstatus, hout hfits]
    · rw [if_neg hfits] at hstatus
      rw [if_pos (by omega), hstatus]

theorem length_xorPart {ks : Nat → UInt8} {start stop : Nat} {out : Bytes}
    (h : xorPart ks pkt start stop = some out) : out.length = pkt.length := by
  unfold xorPart at h
  split at h
  · cases h
  · obtain rfl := Option.some.inj h
    rw [List.length_append, List.length_append, Keystream.length_xorAt, List.length_drop,
      List.length_drop, List.length_take, List.length_take]
    omega

/-- The tag of a message in one piece. -/
theorem tag_eq {auth : HmacCtx} (h : auth.Keyed key) (msg last : Bytes)
    (hlen : (msg ++ last).length + 64 < 2 ^ 29) :
    ∃ next, (auth.start.update msg).compute last authTagLen =
        .ok ((Sha1.hmac key (msg ++ last)).take authTagLen, next) ∧ next.Keyed key :=
  (h.start.update msg).compute (by decide) hlen

/-- A call of the code answers and moves the streams as the plain call does. -/
structure Agree (o : Outcome) (r : Reply × Streams) (keys : Keys) : Prop where
  keyed : Keyed o.ctx keys
  streams : o.ctx.streams = r.2
  reply : ⟨o.status, o.pkt, o.events⟩ = r.1

theorem length_rtpSsrc (h : octetsInRtpHeader ≤ pkt.length) : (rtpSsrc pkt).length = 4 := by
  unfold octetsInRtpHeader at h
  rw [rtpSsrc, List.length_take, List.length_drop]
  omega

theorem length_rtcpSsrc (h : octetsInRtcpHeader ≤ pkt.length) : (rtcpSsrc pkt).length = 4 := by
  unfold octetsInRtcpHeader at h
  rw [rtcpSsrc, List.length_take, List.length_drop]
  omega

theorem agree_protect (aes : Bytes → Block → Block) (h : Keyed ctx keys)
    (hlen : pkt.length < 2 ^ 28) :
    Agree (srtpProtect aes ctx pkt) (ctx.streams.protect (keys.crypt aes) pkt) keys := by
  unfold srtpProtect Streams.protect
  split_ifs with hshort
  · exact ⟨h, rfl, rfl⟩
  · obtain ⟨result, events, streams⟩ := ctx.streams.outgoing pkt
    cases result with
    | error status => exact ⟨⟨h.rtpCipher, h.rtpAuth, h.rtcpCipher, h.rtcpAuth⟩, rfl, rfl⟩
    | ok est =>
      obtain ⟨next, out, hnext, hpart⟩ := h.rtpCipher.cipherPart aes
        (length_rtpSsrc (Nat.le_of_not_lt hshort)) est hlen (encStart pkt) pkt.length
      dsimp only
      rw [hpart, crypt_rtp]
      cases henc : xorPart (AesIcm.keystream aes keys.rtpKey
          (keys.rtpSalt.xor (packetIv (rtpSsrc pkt) est))) pkt (encStart pkt) pkt.length with
      | none => exact ⟨⟨hnext, h.rtpAuth, h.rtcpCipher, h.rtcpAuth⟩, rfl, rfl⟩
      | some enc =>
        have henclen := length_xorPart henc
        obtain ⟨auth, htag, hauth⟩ := tag_eq h.rtpAuth enc (roc est)
          (by rw [List.length_append, henclen, length_roc]; omega)
        dsimp only
        rw [htag]
        exact ⟨⟨hnext, hauth, h.rtcpCipher, h.rtcpAuth⟩, rfl, rfl⟩

theorem agree_unprotect (aes : Bytes → Block → Block) (h : Keyed ctx keys)
    (hlen : pkt.length < 2 ^ 28) :
    Agree (srtpUnprotect aes ctx pkt) (ctx.streams.unprotect (keys.crypt aes) pkt) keys := by
  unfold srtpUnprotect Streams.unprotect
  split_ifs with hshort
  · exact ⟨h, rfl, rfl⟩
  · cases ctx.streams.incoming pkt with
    | error status => exact ⟨h, rfl, rfl⟩
    | ok r =>
      obtain ⟨delta, est⟩ := r
      obtain ⟨next, out, hnext, hpart⟩ := h.rtpCipher.cipherPart aes
        (length_rtpSsrc (Nat.le_of_not_lt hshort)) est hlen (encStart pkt) (pkt.length - authTagLen)
      obtain ⟨auth, htag, hauth⟩ := tag_eq h.rtpAuth
        (pkt.take (pkt.length - authTagLen)) (roc est) (by
          rw [List.length_append, List.length_take, length_roc]
          omega)
      have hset : CipherKeyed (ctx.rtpCipher.setIv (packetIv (rtpSsrc pkt) est)) keys.rtpKey
          keys.rtpSalt := ⟨h.rtpCipher.expandedKey, h.rtpCipher.offset, h.rtpCipher.ctr⟩
      generalize ctx.streams.updateLimit = limited
      obtain ⟨event, limits, streams⟩ := limited
      dsimp only
      rw [htag, crypt_rtpTag, crypt_rtp]
      dsimp only
      by_cases hforged : (Sha1.hmac keys.rtpAuthKey
          (pkt.take (pkt.length - authTagLen) ++ roc est)).take authTagLen ≠
            pkt.drop (pkt.length - authTagLen)
      · rw [if_pos hforged, if_pos hforged]
        exact ⟨⟨hset, hauth, h.rtcpCipher, h.rtcpAuth⟩, rfl, rfl⟩
      · rw [if_neg hforged, if_neg hforged]
        by_cases hhard : event = .hardLimit
        · rw [if_pos hhard, if_pos hhard]
          exact ⟨⟨hset, hauth, h.rtcpCipher, h.rtcpAuth⟩, rfl, rfl⟩
        · rw [if_neg hhard, if_neg hhard, hpart]
          generalize xorPart _ pkt (encStart pkt) (pkt.length - authTagLen) = part
          cases part with
          | none => exact ⟨⟨hnext, hauth, h.rtcpCipher, h.rtcpAuth⟩, rfl, rfl⟩
          | some dec =>
            generalize streams.accept pkt delta = accepted
            exact ⟨⟨hnext, hauth, h.rtcpCipher, h.rtcpAuth⟩, rfl, rfl⟩

theorem tagWhole_eq {auth : HmacCtx} (h : auth.Keyed key) (msg : Bytes)
    (hlen : msg.length + 64 < 2 ^ 29) :
    ∃ next, auth.start.compute msg authTagLen =
        .ok ((Sha1.hmac key msg).take authTagLen, next) ∧ next.Keyed key :=
  h.start.compute (by decide) (show ([] ++ msg).length + 64 < 2 ^ 29 from hlen)

theorem agree_protectRtcp (aes : Bytes → Block → Block) (h : Keyed ctx keys)
    (hlen : pkt.length < 2 ^ 28) (hheader : octetsInRtcpHeader ≤ pkt.length) :
    Agree (srtpProtectRtcp aes ctx pkt) (ctx.streams.protectRtcp (keys.crypt aes) pkt) keys := by
  unfold srtpProtectRtcp Streams.protectRtcp
  obtain ⟨result, events, streams⟩ := ctx.streams.outgoingRtcp pkt
  cases result with
  | error status => exact ⟨⟨h.rtpCipher, h.rtpAuth, h.rtcpCipher, h.rtcpAuth⟩, rfl, rfl⟩
  | ok seqNum =>
    obtain ⟨next, out, hnext, hpart⟩ := h.rtcpCipher.cipherPart aes
      (length_rtcpSsrc hheader) seqNum hlen octetsInRtcpHeader pkt.length
    dsimp only
    rw [hpart, crypt_rtcp]
    cases henc : xorPart (AesIcm.keystream aes keys.rtcpKey
        (keys.rtcpSalt.xor (packetIv (rtcpSsrc pkt) seqNum))) pkt octetsInRtcpHeader pkt.length with
    | none => exact ⟨⟨h.rtpCipher, h.rtpAuth, hnext, h.rtcpAuth⟩, rfl, rfl⟩
    | some enc =>
      have henclen := length_xorPart henc
      obtain ⟨auth, htag, hauth⟩ := tagWhole_eq h.rtcpAuth
        (enc ++ Framing.header (srtcpEBit ||| seqNum))
        (by rw [List.length_append, henclen, Framing.length_header]; omega)
      dsimp only
      rw [htag, crypt_rtcpTag]
      exact ⟨⟨h.rtpCipher, h.rtpAuth, hnext, hauth⟩, rfl, rfl⟩

theorem agree_unprotectRtcp (aes : Bytes → Block → Block) (h : Keyed ctx keys)
    (hlen : pkt.length < 2 ^ 28) (hheader : octetsInRtcpHeader ≤ pkt.length) :
    Agree (srtpUnprotectRtcp aes ctx pkt) (ctx.streams.unprotectRtcp (keys.crypt aes) pkt)
      keys := by
  unfold srtpUnprotectRtcp Streams.unprotectRtcp
  dsimp only
  generalize Framing.ofHeader _ = trailer
  cases ctx.streams.checkRtcp pkt (trailer &&& Streams.srtcpIndexMask) with
  | ok =>
    obtain ⟨next, out, hnext, hpart⟩ := h.rtcpCipher.cipherPart aes
      (length_rtcpSsrc hheader) (trailer &&& Streams.srtcpIndexMask) hlen octetsInRtcpHeader
      (pkt.length - authTagLen - srtcpTrailerLen)
    obtain ⟨auth, htag, hauth⟩ := tagWhole_eq h.rtcpAuth
      (pkt.take (pkt.length - authTagLen)) (by rw [List.length_take]; omega)
    have hset : CipherKeyed (ctx.rtcpCipher.setIv (packetIv (rtcpSsrc pkt)
        (trailer &&& Streams.srtcpIndexMask))) keys.rtcpKey keys.rtcpSalt :=
      ⟨h.rtcpCipher.expandedKey, h.rtcpCipher.offset, h.rtcpCipher.ctr⟩
    dsimp only
    rw [htag, crypt_rtcpTag, crypt_rtcp, hpart]
    dsimp only
    generalize ctx.streams.acceptRtcp pkt (trailer &&& Streams.srtcpIndexMask) = accepted
    by_cases hforged : (Sha1.hmac keys.rtcpAuthKey (pkt.take (pkt.length - authTagLen))).take
        authTagLen ≠ pkt.drop (pkt.length - authTagLen)
    · rw [if_pos hforged, if_pos hforged]
      exact ⟨⟨h.rtpCipher, h.rtpAuth, hset, hauth⟩, rfl, rfl⟩
    · rw [if_neg hforged, if_neg hforged]
      by_cases hclear : trailer &&& srtcpEBit = 0
      · rw [if_pos hclear, if_pos hclear]
        exact ⟨⟨h.rtpCipher, h.rtpAuth, hset, hauth⟩, rfl, rfl⟩
      · rw [if_neg hclear, if_neg hclear]
        generalize xorPart _ pkt octetsInRtcpHeader _ = part
        cases part with
        | none => exact ⟨⟨h.rtpCipher, h.rtpAuth, hnext, hauth⟩, rfl, rfl⟩
        | some dec => exact ⟨⟨h.rtpCipher, h.rtpAuth, hnext, hauth⟩, rfl, rfl⟩
  | _ => exact ⟨h, rfl, rfl⟩

/-! ## The keys of a session -/

/-- The salt of a cipher: a salt of 14 octets, before the place for the block number. -/
def saltBlock (salt : Bytes) : Block := ((Block.ofOctets salt).set 14 0).set 15 0

/-- The nonce of a label. -/
def labelNonce (label : SrtpPrfLabel) : Block := (Block.ofOctets []).set 7 label.toOctet

/-- The key of a label: the beginning of the keystream under the master key, with the label in
the IV. -/
def labelKey (aes : Bytes → Block → Block) (master : Bytes) (label : SrtpPrfLabel) (length : Nat) :
    Bytes :=
  Keystream.xorAt (AesIcm.keystream aes (master.take 16)
    ((saltBlock (master.drop 16)).xor (labelNonce label))) 0 (List.replicate length 0)

/-- The keys that a master key gives. -/
def keysOf (aes : Bytes → Block → Block) (master : Bytes) : Keys where
  rtpKey := labelKey aes master .rtpEncryption 16
  rtpSalt := saltBlock (labelKey aes master .rtpSalt 14)
  rtpAuthKey := labelKey aes master .rtpMsgAuth authKeyLen
  rtcpKey := labelKey aes master .rtcpEncryption 16
  rtcpSalt := saltBlock (labelKey aes master .rtcpSalt 14)
  rtcpAuthKey := labelKey aes master .rtcpMsgAuth authKeyLen

section

variable {mem : Memory} {master : Bytes} {kdf : AesIcm}

theorem ctr_saltBlock (salt : Bytes) : (saltBlock salt).ctr = 0 := by
  rw [Block.ctr_eq_zero, saltBlock, Block.octet_set (by decide), Block.octet_set (by decide),
    Block.octet_set (by decide)]
  exact ⟨rfl, rfl⟩

theorem ctr_labelNonce (salt : Bytes) (label : SrtpPrfLabel) :
    ((saltBlock salt).xor (labelNonce label)).ctr = 0 := by
  obtain ⟨h14, h15⟩ := (Block.ctr_eq_zero _).1 (ctr_saltBlock salt)
  rw [Block.ctr_eq_zero, Block.octet_xor, Block.octet_xor, h14, h15, labelNonce,
    Block.octet_set (by decide), Block.octet_set (by decide), if_neg (by decide),
    if_neg (by decide)]
  exact ⟨rfl, rfl⟩

theorem length_labelKey (aes : Bytes → Block → Block) (master : Bytes) (label : SrtpPrfLabel)
    (length : Nat) :
    (labelKey aes master label length).length = length := by
  rw [labelKey, Keystream.length_xorAt, List.length_replicate]

/-- A new cipher has its key and its salt. -/
theorem cipherKeyed_contextInit (old : Block) (key : Bytes) :
    ∃ cipher, AesIcm.contextInit old key 30 = .ok cipher ∧
      CipherKeyed cipher (key.take 16) (saltBlock (key.drop 16)) :=
  ⟨_, rfl, rfl, rfl, ctr_saltBlock _⟩

theorem CipherKeyed.srtpKdfGenerate
    (h : CipherKeyed kdf (master.take 16) (saltBlock (master.drop 16)))
    (aes : Bytes → Block → Block) (label : SrtpPrfLabel) (length : Nat) (hlen : length ≤ 0xffff) :
    ∃ next, srtpKdfGenerate aes kdf label length = .ok (labelKey aes master label length, next) ∧
      CipherKeyed next (master.take 16) (saltBlock (master.drop 16)) := by
  obtain ⟨hkey, hoffset, hctr⟩ := h
  have hzeros : (List.replicate length (0 : UInt8)).length = length := List.length_replicate
  have hnonce : (kdf.offset.xor (labelNonce label)).ctr = 0 := by
    rw [hoffset]
    exact ctr_labelNonce _ label
  have hshort : (List.replicate length (0 : UInt8)).length < 2 ^ 31 := by
    rw [hzeros]
    omega
  obtain ⟨hstatus, hout⟩ := AesIcm.encrypt_setIv aes hnonce hshort
  obtain ⟨hoffset', hkey'⟩ := AesIcm.key_encrypt aes (kdf.setIv (labelNonce label))
    (List.replicate length 0)
  rw [hzeros, if_pos hlen] at hstatus
  rw [hzeros, hkey, hoffset] at hout
  unfold Libsrtp.srtpKdfGenerate
  dsimp only
  unfold labelNonce at hstatus hout hoffset' hkey'
  generalize (kdf.setIv ((Block.ofOctets []).set 7 label.toOctet)).encrypt aes
    (List.replicate length 0) = r at *
  obtain ⟨status, next, out⟩ := r
  dsimp only at hstatus hout hoffset' hkey' ⊢
  rw [hstatus, hout hlen]
  exact ⟨next, rfl, hkey'.trans hkey, hoffset'.trans hoffset, hctr⟩

/-- The cipher and the authentication function for one kind of packet. -/
theorem CipherKeyed.initKeys
    (h : CipherKeyed kdf (master.take 16) (saltBlock (master.drop 16)))
    (aes : Bytes → Block → Block) (mem : Memory) (encryption salt msgAuth : SrtpPrfLabel) :
    ∃ cipher auth next, initKeys aes mem kdf encryption salt msgAuth = .ok (cipher, auth, next) ∧
      CipherKeyed cipher (labelKey aes master encryption 16)
        (saltBlock (labelKey aes master salt 14)) ∧
      auth.Keyed (labelKey aes master msgAuth authKeyLen) ∧
      CipherKeyed next (master.take 16) (saltBlock (master.drop 16)) := by
  obtain ⟨kdf₁, hkey, h₁⟩ := h.srtpKdfGenerate aes encryption 16 (by decide)
  obtain ⟨kdf₂, hsalt, h₂⟩ := h₁.srtpKdfGenerate aes salt 14 (by decide)
  obtain ⟨kdf₃, hmac, h₃⟩ := h₂.srtpKdfGenerate aes msgAuth authKeyLen (by decide)
  obtain ⟨cipher, hcipher, hkeyed⟩ := cipherKeyed_contextInit mem.block
    (labelKey aes master encryption 16 ++ labelKey aes master salt 14)
  have hkeylen := length_labelKey aes master encryption 16
  rw [List.take_left' hkeylen, List.drop_left' hkeylen] at hkeyed
  obtain ⟨auth, hauth⟩ : ∃ auth, HmacCtx.init mem.m mem.size
      (labelKey aes master msgAuth authKeyLen) = .ok auth := by
    unfold HmacCtx.init
    rw [if_neg (by rw [length_labelKey]; decide)]
    exact ⟨_, rfl⟩
  refine ⟨cipher, auth, kdf₃, ?_, hkeyed, HmacCtx.keyed_init hauth, h₃⟩
  unfold Libsrtp.initKeys
  rw [hkey]
  dsimp only [bind, Except.bind]
  rw [hsalt]
  dsimp only [bind, Except.bind]
  rw [hcipher]
  dsimp only [bind, Except.bind]
  rw [hmac]
  dsimp only [bind, Except.bind]
  rw [hauth]
  rfl

theorem srtpStreamInitKeys_ok (aes : Bytes → Block → Block) (mem : Memory) (master : Bytes) :
    ∃ rtpCipher rtpAuth rtcpCipher rtcpAuth,
      srtpStreamInitKeys aes mem master = .ok (rtpCipher, rtpAuth, rtcpCipher, rtcpAuth) ∧
        ∀ streams, Keyed ⟨streams, rtpCipher, rtpAuth, rtcpCipher, rtcpAuth⟩
          (keysOf aes master) := by
  obtain ⟨kdf, hkdf, hkeyed⟩ := cipherKeyed_contextInit mem.block master
  obtain ⟨rtpCipher, rtpAuth, kdf₁, hrtp, hrtpCipher, hrtpAuth, hkeyed₁⟩ :=
    hkeyed.initKeys aes mem .rtpEncryption .rtpSalt .rtpMsgAuth
  obtain ⟨rtcpCipher, rtcpAuth, kdf₂, hrtcp, hrtcpCipher, hrtcpAuth, -⟩ :=
    hkeyed₁.initKeys aes mem .rtcpEncryption .rtcpSalt .rtcpMsgAuth
  refine ⟨rtpCipher, rtpAuth, rtcpCipher, rtcpAuth, ?_,
    fun _ => ⟨hrtpCipher, hrtpAuth, hrtcpCipher, hrtcpAuth⟩⟩
  unfold srtpStreamInitKeys
  rw [hkdf]
  dsimp only [bind, Except.bind]
  rw [hrtp]
  dsimp only
  rw [hrtcp]
  rfl

/-- A policy that `srtp_create` takes. -/
def SrtpPolicy.Valid (policy : SrtpPolicy) : Prop :=
  ¬ (policy.windowSize ≠ 0 ∧ (policy.windowSize < 64 ∨ policy.windowSize ≥ 0x8000)) ∧
    ¬ (policy.allowRepeatTx ≠ 0 ∧ policy.allowRepeatTx ≠ 1)

instance (policy : SrtpPolicy) : Decidable policy.Valid := inferInstanceAs (Decidable (_ ∧ _))

/-- The streams of a new session. -/
def newStreams (policy : SrtpPolicy) : Streams where
  streamTemplate :=
    { ssrc := List.replicate 4 0
      rtpRdbx := Rdbx.init (if policy.windowSize ≠ 0 then policy.windowSize else 128)
      rtcpRdb := Rdb.init
      direction := policy.direction
      allowRepeatTx := policy.allowRepeatTx = 1 }
  streamList := []
  limit := { numLeft := 0xffffffffffff, state := .normal }

theorem create_of_valid (aes : Bytes → Block → Block) (mem : Memory) {policy : SrtpPolicy}
    (h : policy.Valid) : ∃ ctx, srtpCreate aes mem policy = .ok ctx := by
  obtain ⟨rtpCipher, rtpAuth, rtcpCipher, rtcpAuth, hkeys, -⟩ :=
    srtpStreamInitKeys_ok aes mem policy.key
  unfold srtpCreate
  rw [hkeys]
  rw [show KeyLimit.set 0xffffffffffff = .ok { numLeft := 0xffffffffffff, state := .normal } from
    rfl]
  dsimp only [bind, Except.bind]
  rw [if_neg h.1, if_neg h.2]
  exact ⟨_, rfl⟩

/-- A new session has the keys of its master key, and no streams yet. -/
theorem keyed_create {policy : SrtpPolicy} (h : srtpCreate aes mem policy = .ok ctx) :
    Keyed ctx (keysOf aes policy.key) ∧ ctx.streams = newStreams policy := by
  obtain ⟨rtpCipher, rtpAuth, rtcpCipher, rtcpAuth, hkeys, hkeyed⟩ :=
    srtpStreamInitKeys_ok aes mem policy.key
  have hlimit : KeyLimit.set 0xffffffffffff =
      .ok { numLeft := 0xffffffffffff, state := .normal } := rfl
  unfold srtpCreate at h
  rw [hkeys, hlimit] at h
  dsimp only [bind, Except.bind, throw, throwThe, MonadExceptOf.throw, pure, Except.pure] at h
  split at h
  · cases h
  · split at h
    · cases h
    · obtain rfl := Except.ok.inj h
      exact ⟨hkeyed _, rfl⟩

end

/-! ## Sessions -/

/-- What the caller takes care of: packets are no longer than memory may be, and an RTCP packet
has its header, and the trailer and the tag if it is to be unprotected. -/
def Call.Fits : Call → Prop
  | protect pkt => pkt.length < 2 ^ 28
  | unprotect pkt => pkt.length < 2 ^ 28
  | protectRtcp pkt => pkt.length < 2 ^ 28 ∧ octetsInRtcpHeader ≤ pkt.length
  | unprotectRtcp pkt => pkt.length < 2 ^ 28 ∧
      octetsInRtcpHeader + srtcpTrailerLen + authTagLen ≤ pkt.length

theorem calls_step (aes : Bytes → Block → Block) (h : Keyed ctx keys) {c : Call}
    (hfits : c.Fits) :
    Keyed ((srtpCalls aes).step ctx c).1 keys ∧
      ((srtpCalls aes).step ctx c).1.streams = (ctx.streams.call (keys.crypt aes) c).2 ∧
      ((srtpCalls aes).step ctx c).2 = [(ctx.streams.call (keys.crypt aes) c).1] := by
  cases c with
  | protect pkt =>
    obtain ⟨hkeyed, hstreams, hreply⟩ := agree_protect aes h hfits
    exact ⟨hkeyed, hstreams, congrArg (fun r => [r]) hreply⟩
  | unprotect pkt =>
    obtain ⟨hkeyed, hstreams, hreply⟩ := agree_unprotect aes h hfits
    exact ⟨hkeyed, hstreams, congrArg (fun r => [r]) hreply⟩
  | protectRtcp pkt =>
    obtain ⟨hkeyed, hstreams, hreply⟩ := agree_protectRtcp aes h hfits.1 hfits.2
    exact ⟨hkeyed, hstreams, congrArg (fun r => [r]) hreply⟩
  | unprotectRtcp pkt =>
    obtain ⟨hkeyed, hstreams, hreply⟩ := agree_unprotectRtcp aes h hfits.1 (by
      have := hfits.2
      omega)
    exact ⟨hkeyed, hstreams, congrArg (fun r => [r]) hreply⟩

/-- The code's session answers every sequence of calls as the plain one does. -/
theorem calls_refine {mem : Memory} {policy : SrtpPolicy} {calls : List Call}
    (hcreate : srtpCreate aes mem policy = .ok ctx) (hfits : ∀ c ∈ calls, c.Fits) :
    ((srtpCalls aes).run ctx calls).1.streams =
        ((srtpSession ((keysOf aes policy.key).crypt aes)).run ctx.streams calls).1 ∧
      ((srtpCalls aes).run ctx calls).2 =
        ((srtpSession ((keysOf aes policy.key).crypt aes)).run ctx.streams calls).2 := by
  obtain ⟨⟨-, hstreams⟩, hreplies⟩ := Transducer.run_refines (T := srtpCalls aes)
    (A := srtpSession ((keysOf aes policy.key).crypt aes)) (P := fun _ c => c.Fits) (f := id)
    (R := fun ctx s => Keyed ctx (keysOf aes policy.key) ∧ ctx.streams = s)
    (fun ctx s c hr hc => by
      obtain ⟨hkeyed, rfl⟩ := hr
      obtain ⟨hkeyed', hstreams, hreply⟩ := calls_step aes hkeyed hc
      exact ⟨⟨hkeyed', hstreams⟩, by rw [hreply]; rfl⟩)
    ⟨(keyed_create hcreate).1, rfl⟩ (Transducer.meets_of_forall hfits)
  rw [hstreams, hreplies, List.map_id]
  exact ⟨rfl, rfl⟩

/-- A session of the converter's policy for what goes out.  Every packet behind the short one
finds the cipher and the hash context as the packet before it has left them. -/
theorem calls_refine_outgoing :
    let policy := SrtpPolicy.mk .sender (List.replicate 30 7) 1024 1
    let mem := Memory.mk (Block.ofOctets []) (List.replicate 64 0) rfl
    let calls := [Call.unprotect [0x80], .protect ([0x80, 8, 0, 5] ++ List.replicate 16 9),
      .protect ([0x80, 8, 0, 6] ++ List.replicate 37 9), .protectRtcp (List.replicate 30 9),
      .protectRtcp (List.replicate 47 9)]
    ∀ aes, ∃ ctx, srtpCreate aes mem policy = .ok ctx ∧
      ((srtpCalls aes).run ctx calls).1.streams =
        ((srtpSession ((keysOf aes policy.key).crypt aes)).run ctx.streams calls).1 ∧
      ((srtpCalls aes).run ctx calls).2 =
        ((srtpSession ((keysOf aes policy.key).crypt aes)).run ctx.streams calls).2 := by
  intro policy mem calls aes
  obtain ⟨ctx, hctx⟩ := create_of_valid aes mem (show policy.Valid by decide)
  have hfits : ∀ c ∈ calls, c.Fits := by
    simp [calls, Call.Fits, octetsInRtcpHeader]
  exact ⟨ctx, hctx, calls_refine hctx hfits⟩

end MediaGateway.Libsrtp
