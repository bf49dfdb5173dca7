import MediaGateway.Libsrtp.AesIcm
import MediaGateway.Libsrtp.Hmac
import MediaGateway.Libsrtp.Stream

/-!
# SRTP sessions

`srtp_create` and the packet functions of `srtp.c` for the policies of the converter: one
template, AES in counter mode with a key of 30 octets, HMAC-SHA1 with tags of ten octets,
confidentiality and authentication for both RTP and RTCP.

A packet is the list of its octets.  The functions write behind the packet (the tag, and for
RTCP the trailer) and so return the packet they leave behind.
-/

namespace MediaGateway.Libsrtp

open Lib

/-- `srtp_ctx_t`: the streams, and the ciphers and authentication functions of the template,
which its clones share. -/
structure SrtpCtx where
  streams : Streams
  rtpCipher : AesIcm
  rtpAuth : HmacCtx
  rtcpCipher : AesIcm
  rtcpAuth : HmacCtx

/-! ## Keys -/

/-- `srtp_prf_label`. -/
inductive SrtpPrfLabel
  | rtpEncryption
  | rtpMsgAuth
  | rtpSalt
  | rtcpEncryption
  | rtcpMsgAuth
  | rtcpSalt
  deriving DecidableEq, Repr

/-- The number of a label. -/
def SrtpPrfLabel.toOctet : SrtpPrfLabel → UInt8
  | rtpEncryption => 0x00
  | rtpMsgAuth => 0x01
  | rtpSalt => 0x02
  | rtcpEncryption => 0x03
  | rtcpMsgAuth => 0x04
  | rtcpSalt => 0x05

/-- `srtp_policy_t`, as far as the converter fills it in. -/
structure SrtpPolicy where
  direction : Direction
  key : Bytes
  windowSize : Nat
  allowRepeatTx : Nat
  deriving DecidableEq, Repr

/-- What the memory for new contexts holds. -/
structure Memory where
  block : Block
  m : Bytes
  size : m.length = 64

/-- `auth_tag_len` of the policies. -/
def authTagLen : Nat := 10

/-- `auth_key_len` of the policies. -/
def authKeyLen : Nat := 20

section Cipher

variable (aes : Bytes → Block → Block)

/-- `srtp_kdf_generate`: the key for a label, and the cipher after it. -/
def srtpKdfGenerate (kdf : AesIcm) (label : SrtpPrfLabel) (length : Nat) :
    Except ErrStatus (Bytes × AesIcm) :=
  let nonce := (Block.ofOctets []).set 7 label.toOctet
  match (kdf.setIv nonce).encrypt aes (List.replicate length 0) with
  | (.ok, kdf, key) => .ok (key, kdf)
  | (status, _, _) => .error status

/-- The keys for one kind of packet in `srtp_stream_init_keys`. -/
def initKeys (mem : Memory) (kdf : AesIcm) (encryption salt msgAuth : SrtpPrfLabel) :
    Except ErrStatus (AesIcm × HmacCtx × AesIcm) := do
  let (cipherKey, kdf) ← srtpKdfGenerate aes kdf encryption 16
  let (cipherSalt, kdf) ← srtpKdfGenerate aes kdf salt 14
  let cipher ← AesIcm.contextInit mem.block (cipherKey ++ cipherSalt) 30
  let (authKey, kdf) ← srtpKdfGenerate aes kdf msgAuth authKeyLen
  let auth ← HmacCtx.init mem.m mem.size authKey
  return (cipher, auth, kdf)

/-- `srtp_stream_init_keys`, in which every failure is `init_fail`. -/
def srtpStreamInitKeys (mem : Memory) (key : Bytes) :
    Except ErrStatus (AesIcm × HmacCtx × AesIcm × HmacCtx) :=
  let keys := do
    let kdf ← AesIcm.contextInit mem.block key 30
    let (rtpCipher, rtpAuth, kdf) ←
      initKeys aes mem kdf .rtpEncryption .rtpSalt .rtpMsgAuth
    let (rtcpCipher, rtcpAuth, _) ←
      initKeys aes mem kdf .rtcpEncryption .rtcpSalt .rtcpMsgAuth
    return (rtpCipher, rtpAuth, rtcpCipher, rtcpAuth)
  match keys with
  | .ok keys => .ok keys
  | .error _ => .error .initFail

/-- `srtp_create` with one policy for all sources, `srtp_add_stream` and `srtp_stream_init`. -/
def srtpCreate (mem : Memory) (policy : SrtpPolicy) : Except ErrStatus SrtpCtx := do
  if policy.windowSize ≠ 0 ∧ (policy.windowSize < 64 ∨ policy.windowSize ≥ 0x8000) then
    throw .badParam
  let windowSize := if policy.windowSize ≠ 0 then policy.windowSize else 128
  let limit ← KeyLimit.set 0xffffffffffff
  if policy.allowRepeatTx ≠ 0 ∧ policy.allowRepeatTx ≠ 1 then
    throw .badParam
  let (rtpCipher, rtpAuth, rtcpCipher, rtcpAuth) ← srtpStreamInitKeys aes mem policy.key
  let streamTemplate : SrtpStream :=
    { ssrc := List.replicate 4 0
      rtpRdbx := Rdbx.init windowSize
      rtcpRdb := Rdb.init
      direction := policy.direction
      allowRepeatTx := policy.allowRepeatTx = 1 }
  return { streams := { streamTemplate, streamList := [], limit }
           rtpCipher, rtpAuth, rtcpCipher, rtcpAuth }

/-! ## Packets -/

/-- The index in network byte order, shifted as the IV and the tag take it. -/
def shiftedIndex (est : Nat) : Bytes :=
  Framing.header (est * 2 ^ 16 / 2 ^ 32) ++ Framing.header (est * 2 ^ 16)

/-- The IV for a source and an index. -/
def packetIv (ssrc : Bytes) (est : Nat) : Block :=
  Block.ofOctets (List.replicate 4 0 ++ ssrc ++ shiftedIndex est)

/-- The first four octets of the shifted index, the rollover counter. -/
def roc (est : Nat) : Bytes := (shiftedIndex est).take 4

/-- The call of `cipher_encrypt` or `cipher_decrypt` on the octets of a packet from `start` up to
`stop`.  A number of octets below zero is one of almost `2 ^ 32`, which `aes_icm_encrypt`
refuses. -/
def cipherPart (cipher : AesIcm) (pkt : Bytes) (start stop : Nat) : ErrStatus × AesIcm × Bytes :=
  if stop < start then (.terminus, cipher, pkt)
  else
    let (status, cipher, buf) := cipher.encrypt aes ((pkt.take stop).drop start)
    (status, cipher, pkt.take start ++ buf ++ pkt.drop stop)

/-- What a packet function leaves behind. -/
structure Outcome where
  status : ErrStatus
  pkt : Bytes
  events : List SrtpEvent
  ctx : SrtpCtx

/-- `srtp_protect`. -/
def srtpProtect (ctx : SrtpCtx) (pkt : Bytes) : Outcome :=
  if pkt.length < octetsInRtpHeader then ⟨.badParam, pkt, [], ctx⟩
  else
    match ctx.streams.outgoing pkt with
    | (.error status, events, streams) => ⟨status, pkt, events, { ctx with streams }⟩
    | (.ok est, events, streams) =>
      let cipher := ctx.rtpCipher.setIv (packetIv (rtpSsrc pkt) est)
      match cipherPart aes cipher pkt (encStart pkt) pkt.length with
      | (.ok, rtpCipher, enc) =>
        match (ctx.rtpAuth.start.update enc).compute (roc est) authTagLen with
        | .ok (tag, rtpAuth) =>
          ⟨.ok, enc ++ tag, events, { ctx with streams, rtpCipher, rtpAuth }⟩
        | .error _ => ⟨.authFail, enc, events, { ctx with streams, rtpCipher }⟩
      | (_, rtpCipher, _) => ⟨.cipherFail, pkt, events, { ctx with streams, rtpCipher }⟩

/-- `srtp_unprotect`. -/
def srtpUnprotect (ctx : SrtpCtx) (pkt : Bytes) : Outcome :=
  if pkt.length < octetsInRtpHeader then ⟨.badParam, pkt, [], ctx⟩
  else
    match ctx.streams.incoming pkt with
    | .error status => ⟨status, pkt, [], ctx⟩
    | .ok (delta, est) =>
      let stop := pkt.length - authTagLen
      let rtpCipher := ctx.rtpCipher.setIv (packetIv (rtpSsrc pkt) est)
      match (ctx.rtpAuth.start.update (pkt.take stop)).compute (roc est) authTagLen with
      | .error _ => ⟨.authFail, pkt, [], { ctx with rtpCipher }⟩
      | .ok (tag, rtpAuth) =>
        if tag ≠ pkt.drop stop then ⟨.authFail, pkt, [], { ctx with rtpCipher, rtpAuth }⟩
        else
          let (event, limits, streams) := ctx.streams.updateLimit
          if event = .hardLimit then
            ⟨.keyExpired, pkt, limits, { ctx with streams, rtpCipher, rtpAuth }⟩
          else
            match cipherPart aes rtpCipher pkt (encStart pkt) stop with
            | (.ok, rtpCipher, dec) =>
              let (collision, streams) := streams.accept pkt delta
              ⟨.ok, dec.take stop, limits ++ collision, { ctx with streams, rtpCipher, rtpAuth }⟩
            | (_, rtpCipher, _) =>
              ⟨.cipherFail, pkt, limits, { ctx with streams, rtpCipher, rtpAuth }⟩

/-- `sizeof(srtcp_trailer_t)`. -/
def srtcpTrailerLen : Nat := 4

/-- `SRTCP_E_BIT`. -/
def srtcpEBit : Nat := 0x80000000

/-- `srtp_protect_rtcp` of a packet with a header.  The keystream prefix that it has written into
the tag has no octets. -/
def srtpProtectRtcp (ctx : SrtpCtx) (pkt : Bytes) : Outcome :=
  match ctx.streams.outgoingRtcp pkt with
  | (.error status, events, streams) => ⟨status, pkt, events, { ctx with streams }⟩
  | (.ok seqNum, events, streams) =>
    let trailer := Framing.header (srtcpEBit ||| seqNum)
    let cipher := ctx.rtcpCipher.setIv (packetIv (rtcpSsrc pkt) seqNum)
    match cipherPart aes cipher pkt octetsInRtcpHeader pkt.length with
    | (.ok, rtcpCipher, enc) =>
      match ctx.rtcpAuth.start.compute (enc ++ trailer) authTagLen with
      | .ok (tag, rtcpAuth) =>
        ⟨.ok, enc ++ trailer ++ tag, events, { ctx with streams, rtcpCipher, rtcpAuth }⟩
      | .error _ => ⟨.authFail, enc, events, { ctx with streams, rtcpCipher }⟩
    | (_, rtcpCipher, _) => ⟨.cipherFail, pkt, events, { ctx with streams, rtcpCipher }⟩

/-- `srtp_unprotect_rtcp` of a packet with a trailer and a tag. -/
def srtpUnprotectRtcp (ctx : SrtpCtx) (pkt : Bytes) : Outcome :=
  let authLen := pkt.length - authTagLen
  let stop := authLen - srtcpTrailerLen
  let trailer := Framing.ofHeader ((pkt.drop stop).take srtcpTrailerLen)
  let seqNum := trailer &&& Streams.srtcpIndexMask
  match ctx.streams.checkRtcp pkt seqNum with
  | .ok =>
    let rtcpCipher := ctx.rtcpCipher.setIv (packetIv (rtcpSsrc pkt) seqNum)
    match ctx.rtcpAuth.start.compute (pkt.take authLen) authTagLen with
    | .error _ => ⟨.authFail, pkt, [], { ctx with rtcpCipher }⟩
    | .ok (tag, rtcpAuth) =>
      if tag ≠ pkt.drop authLen then ⟨.authFail, pkt, [], { ctx with rtcpCipher, rtcpAuth }⟩
      else
        let (status, rtcpCipher, dec) :=
          if trailer &&& srtcpEBit = 0 then (ErrStatus.ok, rtcpCipher, pkt)
          else cipherPart aes rtcpCipher pkt octetsInRtcpHeader stop
        if status ≠ .ok then ⟨.cipherFail, pkt, [], { ctx with rtcpCipher, rtcpAuth }⟩
        else
          let (events, streams) := ctx.streams.acceptRtcp pkt seqNum
          ⟨.ok, dec.take stop, events, { ctx with streams, rtcpCipher, rtcpAuth }⟩
  | status => ⟨status, pkt, [], ctx⟩

end Cipher

end MediaGateway.Libsrtp
