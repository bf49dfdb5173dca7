import MediaGateway.ImsAgent
import MediaGateway.WebAgent

/-!
# Media packets

The media side of `webagent.cpp` and `imsagent.cpp`: packets from the browser go
through `receiveDataCallback`, packets to the browser through
`WebAgent::sendData`, and every 188th video packet from a browser has
`sendrtcp` ask for a full frame.  `cbFuncAudio` and `cbFuncVideo` receive from IMS.

A buffer is the list of its bytes, the stale ones behind the packet included; a
length says how many of them are the packet.  What libsrtp answers is a
parameter of each call (`Srtp`), and so is the variable that `sendrtcp` does not
initialise.
-/

namespace MediaGateway

open Lib

/-! ## Buffers -/

/-- What the packet functions of libsrtp do with a buffer and a length, and what
the variable `sc` of `sendrtcp` holds before the SSRC is read into it. -/
structure Srtp where
  unprotect : Bytes → Nat → SrtpResult
  protect : Bytes → Nat → SrtpResult
  protectRtcp : Bytes → Nat → SrtpResult
  sc : UInt32

/-- `buf[off], buf[off + 1], ... = bs`. -/
def writeAt (off : Nat) (bs buf : Bytes) : Bytes :=
  buf.take off ++ bs ++ buf.drop (off + bs.length)

namespace RTP_HEADER

/-- `header->payload`, the low seven bits of byte 1. -/
def payload (buf : Bytes) : Nat := (buf.getD 1 0 &&& 0x7f).toNat

/-- `header->payload = pt`. -/
def setPayload (pt : Int) (buf : Bytes) : Bytes :=
  writeAt 1 [(buf.getD 1 0 &&& 0x80) ||| (UInt8.ofNat (pt % 128).toNat)] buf

/-- `header->ssrc = htonl(n)`.  The member is an `unsigned long`: it lies behind
another one and takes the bytes of the 32-bit value first. -/
def setSsrc (ulongBytes : Nat) (n : Int) (buf : Bytes) : Bytes :=
  let u := (n % 2 ^ 32).toNat
  writeAt (2 * ulongBytes)
    ([UInt8.ofNat (u / 2 ^ 24), UInt8.ofNat (u / 2 ^ 16), UInt8.ofNat (u / 2 ^ 8), UInt8.ofNat u]
      ++ List.replicate (ulongBytes - 4) 0)
    buf

end RTP_HEADER

open RTP_HEADER

/-! ## To IMS -/

namespace ImsAgent

def audioSSRC : Bytes := bytes "777777777"
def videoSSRC : Bytes := bytes "888888888"

/-- `ImsAgent::sendData`: the bytes that the helper sends; `type` is `false` for
audio. -/
def sendData (cfg : Config) (mediaData : Bytes) (len : Nat) (type : Bool) (a : ImsAgent) : Bytes :=
  if type = false then
    (setPayload PT_PCMA_DEFAULT
      (setSsrc cfg.ulongBytes (Bytes.atoi audioSSRC) mediaData)).take len
  else
    (setPayload a.vPayload
      (setSsrc cfg.ulongBytes (Bytes.atoi videoSSRC) mediaData)).take len

end ImsAgent

/-- `CodecConverter::convertAndSend`: the bytes that the helper sends. -/
def convertAndSend (data : Bytes) (len : Nat) : Bytes := (setPayload 96 data).take len

/-! ## From and to the browser -/

/-- The static variables `cnt` of `receiveDataCallback` and `a` of `sendrtcp`,
which all sessions share. -/
structure Statics where
  cnt : Nat
  a : UInt8
  deriving DecidableEq, Repr

namespace Statics

def init : Statics := { cnt := 0, a := 2 }

/-- `SEND_RTCP_INTERVAL`. -/
def SEND_RTCP_INTERVAL : Nat := 188

/-- Whether the next video packet has `sendrtcp` called. -/
def due (g : Statics) : Bool := g.cnt + 1 == SEND_RTCP_INTERVAL

/-- The variables after one video packet. -/
def count (g : Statics) : Statics :=
  if g.due then { cnt := 0, a := g.a + 1 } else { g with cnt := g.cnt + 1 }

end Statics

namespace WebAgent

/-- The 20 bytes that `sendrtcp` builds; `a` is the variable after `++a`. -/
def rtcpPacket (old : UInt32) (a : UInt8) (w : WebAgent) : Bytes :=
  let sc := (Bytes.streamUInt old w.videoSSRCFromWeb).toNat
  [ 0x84, 206, 0, 4, 0, 0, 0, 1, 0, 0, 0, 0
  , UInt8.ofNat (sc / 2 ^ 24), UInt8.ofNat (sc / 2 ^ 16), UInt8.ofNat (sc / 2 ^ 8), UInt8.ofNat sc
  , a, 0, 0, 0 ]

/-- `sendrtcp`.  The status of `encryptRTCP` is not looked at. -/
def sendrtcp (srtp : Srtp) (a : UInt8) (w : WebAgent) : List Action :=
  if w.rtpConverter.isReady && w.isReady then
    let r := srtp.protectRtcp (w.rtcpPacket srtp.sc a) 20
    [.srtp .protectRtcp r.status, .media .rtcpToWeb (r.buffer.take r.len)]
  else
    []

/-- `receiveDataCallback`.  The status of `decryptData` is not looked at. -/
def receiveDataCallback (cfg : Config) (srtp : Srtp) (componentID len : Nat) (buf : Bytes)
    (peerAgent : ImsAgent) (w : WebAgent) (g : Statics) : WebAgent × Statics × List Action :=
  if componentID ≠ 1 then
    (w, g, [])
  else if !w.rtpConverter.isReady || !w.isReady then
    (w, g, [])
  else if buf.getD 0 0 ≠ 0x80 then
    (w, g, [])
  else
    let r := srtp.unprotect buf len
    if (payload buf : Int) = PT_PCMA_DEFAULT then
      ( { w with curcnt := w.curcnt + 1 }, g
      , [ .srtp .unprotect r.status
        , .media .audioToIMS (peerAgent.sendData cfg r.buffer r.len false) ] )
    else if (payload buf : Int) = w.vPayload then
      let rtcp := if g.due then w.sendrtcp srtp (g.a + 1) else []
      ( { w with curcnt := w.curcnt + 1 }, g.count
      , rtcp ++
        [ .srtp .unprotect r.status
        , .media .videoToConverter (convertAndSend r.buffer r.len) ] )
    else
      (w, g, [])

/-- `WebAgent::sendData`; `type` is `false` for audio. -/
def sendData (cfg : Config) (srtp : Srtp) (mediaData : Bytes) (len : Nat) (type : Bool)
    (w : WebAgent) : List Action :=
  if !w.isReady || !w.rtpConverter.isReady then
    []
  else if type = false then
    let mediaData := setSsrc cfg.ulongBytes (Bytes.atoi audioSSRC) mediaData
    if (payload mediaData : Int) ≠ PT_PCMA_DEFAULT ∨ mediaData.getD 0 0 ≠ 0x80 then
      []
    else
      let r := srtp.protect mediaData len
      .srtp .protect r.status ::
        if w.isReady && r.status == .ok then [.media .audioToWeb (r.buffer.take r.len)] else []
  else
    let mediaData := setSsrc cfg.ulongBytes (Bytes.atoi videoSSRC) mediaData
    let mediaData := setPayload w.vPayload mediaData
    let r := srtp.protect mediaData len
    .srtp .protect r.status ::
      if w.isReady && r.status == .ok then [.media .videoToWeb (r.buffer.take r.len)] else []

/-- `componentStateChangedCallback`, where `NICE_COMPONENT_STATE_READY` is
`4`. -/
def componentStateChangedCallback (componentID state : Nat) (w : WebAgent) : WebAgent :=
  if state = 4 ∧ componentID = 1 then { w with isReady := true } else w

end WebAgent

/-! ## From IMS

One round of the loop of each thread.  `recvfrom` returns a datagram and its length, or
`none` for `-1`. -/

namespace ImsAgent

/-- `cbFuncAudio`. -/
def cbFuncAudio (cfg : Config) (srtp : Srtp) (recv : Option (Bytes × Nat)) (web : WebAgent)
    (a : ImsAgent) : ImsAgent × List Action :=
  let a := { a with curcnt := a.curcnt + 1 }
  match recv with
  | none => (a, [])
  | some (buf, recvlen) => (a, web.sendData cfg srtp buf recvlen false)

/-- `cbFuncVideo`, and the bytes that go to the codec converter. -/
def cbFuncVideo (recv : Option (Bytes × Nat)) (a : ImsAgent) : ImsAgent × Option Bytes :=
  let a := { a with curcnt := a.curcnt + 1 }
  match recv with
  | none => (a, none)
  | some (buf, recvlen) => (a, some (convertAndSend buf recvlen))

end ImsAgent

end MediaGateway
