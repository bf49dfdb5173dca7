import MediaGateway.Libsrtp.Key
import MediaGateway.Libsrtp.Rdb
import MediaGateway.Libsrtp.Rdbx

/-!
# The streams of a session

What `srtp.c` keeps for each synchronisation source, and the steps of its packet functions that
work on nothing else: finding a stream or cloning the template for a new one, the check of the
direction, the key limit and the replay databases.  Ciphers and authentication are in
`Libsrtp.Srtp`.

The converter makes sessions with one policy for all sources, so every stream is a clone of the
template, and the template and its clones share the key limit.
-/

namespace MediaGateway.Libsrtp

open Lib

/-- `direction_t`. -/
inductive Direction
  | unknown
  | sender
  | receiver
  deriving DecidableEq, Repr

/-- `srtp_event_t`. -/
inductive SrtpEvent
  | ssrcCollision
  | keySoftLimit
  | keyHardLimit
  deriving DecidableEq, Repr

/-- `srtp_stream_ctx_t`, without the parts that a clone shares with the template.  The source is
kept as its four octets. -/
structure SrtpStream where
  ssrc : Bytes
  rtpRdbx : Rdbx
  rtcpRdb : Rdb
  direction : Direction
  allowRepeatTx : Bool
  deriving DecidableEq, Repr

/-- `srtp_ctx_t`, with the key limit of the template. -/
structure Streams where
  streamTemplate : SrtpStream
  streamList : List SrtpStream
  limit : KeyLimit
  deriving DecidableEq, Repr

/-! ## RTP and RTCP headers -/

/-- Octet `i` of a packet. -/
def octet (pkt : Bytes) (i : Nat) : Nat := (pkt.getD i 0).toNat

/-- `octets_in_rtp_header`. -/
def octetsInRtpHeader : Nat := 12

/-- `octets_in_rtcp_header`. -/
def octetsInRtcpHeader : Nat := 8

/-- `ntohs(hdr->seq)`. -/
def rtpSeq (pkt : Bytes) : Nat := 256 * octet pkt 2 + octet pkt 3

/-- `hdr->ssrc` of an RTP packet. -/
def rtpSsrc (pkt : Bytes) : Bytes := (pkt.drop 8).take 4

/-- `hdr->ssrc` of an RTCP packet. -/
def rtcpSsrc (pkt : Bytes) : Bytes := (pkt.drop 4).take 4

/-- The distance from the header to `enc_start`: the fixed header, the contributing sources and
the extension.  An extension that lies behind the packet is not read in here, since
`enc_octet_len` is below zero for any length it may have. -/
def encStart (pkt : Bytes) : Nat :=
  let csrcs := octetsInRtpHeader + 4 * (octet pkt 0 % 16)
  if octet pkt 0 / 16 % 2 = 1 then
    csrcs + 4 * (256 * octet pkt (csrcs + 2) + octet pkt (csrcs + 3) + 1)
  else csrcs

namespace SrtpStream

/-- `srtp_stream_clone`. -/
def clone (template : SrtpStream) (ssrc : Bytes) : SrtpStream :=
  { template with
    ssrc
    rtpRdbx := Rdbx.init template.rtpRdbx.windowSize
    rtcpRdb := Rdb.init }

/-- The check of the direction, in the packet functions for `direction`. -/
def verify (stream : SrtpStream) (direction : Direction) : SrtpStream × List SrtpEvent :=
  if stream.direction = direction then (stream, [])
  else if stream.direction = .unknown then ({ stream with direction }, [])
  else (stream, [.ssrcCollision])

end SrtpStream

namespace Streams

/-- `srtp_get_stream`. -/
def getStream (s : Streams) (ssrc : Bytes) : Option SrtpStream :=
  s.streamList.find? fun stream => stream.ssrc = ssrc

/-- The list with a stream changed, or with a new one at its head. -/
def put (stream : SrtpStream) (s : Streams) : Streams :=
  if (s.getStream stream.ssrc).isSome then
    { s with streamList := s.streamList.map fun other =>
        if other.ssrc = stream.ssrc then stream else other }
  else
    { s with streamList := stream :: s.streamList }

/-- The update of the key limit in `srtp_protect` and `srtp_unprotect`. -/
def updateLimit (s : Streams) : KeyEvent × List SrtpEvent × Streams :=
  let events := match s.limit.update.1 with
    | .normal => []
    | .softLimit => [.keySoftLimit]
    | .hardLimit => [.keyHardLimit]
  (s.limit.update.1, events, { s with limit := s.limit.update.2 })

/-- `srtp_protect` up to the index of the packet. -/
def outgoing (s : Streams) (pkt : Bytes) : Except ErrStatus Nat × List SrtpEvent × Streams :=
  let stream := match s.getStream (rtpSsrc pkt) with
    | some stream => stream
    | none => { s.streamTemplate.clone (rtpSsrc pkt) with direction := .sender }
  let (stream, collision) := stream.verify .sender
  let (event, limits, s) := (s.put stream).updateLimit
  if event = .hardLimit then (.error .keyExpired, collision ++ limits, s)
  else
    let (delta, est) := stream.rtpRdbx.estimateIndex (rtpSeq pkt)
    let status := stream.rtpRdbx.check delta
    if status = .ok then
      (.ok est, collision ++ limits,
        s.put { stream with rtpRdbx := stream.rtpRdbx.addIndex delta })
    else if status = .replayFail ∧ stream.allowRepeatTx = true then
      (.ok est, collision ++ limits, s)
    else (.error status, collision ++ limits, s)

/-- `srtp_unprotect` up to the index of the packet: the difference and the estimate. -/
def incoming (s : Streams) (pkt : Bytes) : Except ErrStatus (Int × Nat) :=
  match s.getStream (rtpSsrc pkt) with
  | none => .ok (rtpSeq pkt, rtpSeq pkt)
  | some stream =>
    let (delta, est) := stream.rtpRdbx.estimateIndex (rtpSeq pkt)
    match stream.rtpRdbx.check delta with
    | .ok => .ok (delta, est)
    | status => .error status

/-- The direction of a stream and, for a source that is new, the clone of the template, behind
the authentication in `srtp_unprotect` and `srtp_unprotect_rtcp`. -/
def settle (s : Streams) (ssrc : Bytes) : SrtpStream × List SrtpEvent × Streams :=
  match s.getStream ssrc with
  | some stream =>
    let (stream, events) := stream.verify .receiver
    (stream, events, s.put stream)
  | none =>
    let (template, events) := s.streamTemplate.verify .receiver
    let stream := template.clone ssrc
    (stream, events, { s with streamTemplate := template }.put stream)

/-- The end of `srtp_unprotect`. -/
def accept (s : Streams) (pkt : Bytes) (delta : Int) : List SrtpEvent × Streams :=
  let (stream, events, s) := s.settle (rtpSsrc pkt)
  (events, s.put { stream with rtpRdbx := stream.rtpRdbx.addIndex delta })

/-- `srtp_protect_rtcp` up to the sequence number, which has its own counter. -/
def outgoingRtcp (s : Streams) (pkt : Bytes) : Except ErrStatus Nat × List SrtpEvent × Streams :=
  let stream := match s.getStream (rtcpSsrc pkt) with
    | some stream => stream
    | none => s.streamTemplate.clone (rtcpSsrc pkt)
  let (stream, collision) := stream.verify .sender
  let (status, rtcpRdb) := stream.rtcpRdb.increment
  (if status = .ok then .ok rtcpRdb.getValue else .error status, collision,
    s.put { stream with rtcpRdb })

/-- `SRTCP_INDEX_MASK`. -/
def srtcpIndexMask : Nat := 0x7fffffff

/-- The check of the sequence number in `srtp_unprotect_rtcp`. -/
def checkRtcp (s : Streams) (pkt : Bytes) (seqNum : Nat) : ErrStatus :=
  match s.getStream (rtcpSsrc pkt) with
  | some stream => stream.rtcpRdb.check seqNum
  | none => s.streamTemplate.rtcpRdb.check seqNum

/-- The end of `srtp_unprotect_rtcp`. -/
def acceptRtcp (s : Streams) (pkt : Bytes) (seqNum : Nat) : List SrtpEvent × Streams :=
  let (stream, events, s) := s.settle (rtcpSsrc pkt)
  (events, s.put { stream with rtcpRdb := stream.rtcpRdb.addIndex seqNum })

end Streams

end MediaGateway.Libsrtp
