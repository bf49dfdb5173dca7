import MediaGateway.Sdp

/-!
# The IMS agent

`imsagent.cpp`, the signalling side: what `handleSdpFromIMS` reads from an SDP
and what `createSdpToIMS` writes into one.  The two helpers of an agent are
represented by the destinations they were given.
-/

namespace MediaGateway

open Lib Bytes

/-- `ImsAgent`.  `aPayload` is the constant `PT_PCMA_DEFAULT`. -/
structure ImsAgent where
  vPayload : Int
  curcnt : UInt32
  precnt : UInt32
  audioDestination : Bytes × UInt16
  videoDestination : Bytes × UInt16
  deriving DecidableEq, Repr

namespace ImsAgent

/-- The destination that the constructor of `Helper` sets. -/
def helperDestination : Bytes × UInt16 := (bytes "10.109.247.140", 12345)

/-- The constructor. -/
def fresh (codec : SIPCodec) (payloadMem : Int) : ImsAgent where
  vPayload :=
    if codec.H264 then PT_H264_DEFAULT
    else if codec.H263 then PT_H263_DEFAULT
    else payloadMem
  curcnt := 0
  precnt := 0
  audioDestination := helperDestination
  videoDestination := helperDestination

/-- `gotPeriodData`. -/
def gotPeriodData (a : ImsAgent) : Bool × ImsAgent :=
  if a.curcnt != a.precnt then (true, { a with precnt := a.curcnt }) else (false, a)

/-- The conversion of an `int` to `unsigned short`. -/
def toPort (n : Int) : UInt16 := UInt16.ofNat (n % 65536).toNat

/-- The port of the first line that starts a section `label`; the variable
keeps its old value when there is none. -/
def sectionPort (sdp label : Bytes) (old : UInt16) : UInt16 :=
  match find sdp label 0 with
  | none => old
  | some p =>
    let beginPos := p + label.length
    match find sdp (bytes " ") beginPos with
    | none => old
    | some endPos => toPort (atoi (substr sdp beginPos (endPos - beginPos)))

/-- `getRemoteIpAndPort`: the address and the ports, the ports starting from
what `aport` and `vport` hold. -/
def getRemoteIpAndPort (sdp : Bytes) (aport vport : UInt16) : Bytes × UInt16 × UInt16 :=
  ( (Sdp.param sdp (bytes "c=IN IP4 ")).getD []
  , sectionPort sdp (bytes "m=audio ") aport
  , sectionPort sdp (bytes "m=video ") vport )

/-- `vPayload` after the `rtpmap` scan: the H264 branch of `SIPCodec` before
the H263 branch, and the old value when nothing is found. -/
def scanPayload (codec : SIPCodec) (sdp : Bytes) (old : Int) : Int :=
  match Sdp.sessionType sdp with
  | SessionType.AUDIO => old
  | .VIDEO =>
    if codec.H264 then (Sdp.rtpmapPayload (bytes "H264") sdp).getD old
    else if codec.H263 then (Sdp.rtpmapPayload (bytes "H263") sdp).getD old
    else old

/-- `handleSdpFromIMS`: the agent, the session type and `supportFlag`. -/
def handleSdpFromIMS (codec : SIPCodec) (aport vport : UInt16) (sdp : Bytes) (a : ImsAgent) :
    ImsAgent × SessionType × Bool :=
  let (ip, aport, vport) := getRemoteIpAndPort sdp aport vport
  ( { a with
      videoDestination := (ip, vport)
      audioDestination := (ip, aport)
      vPayload := scanPayload codec sdp a.vPayload }
  , Sdp.sessionType sdp
  , Sdp.audioSupport sdp )

/-- The video part of `createSdpToIMS`. -/
def videoSdp (codec : SIPCodec) (vStr videoPort : Bytes) : Bytes :=
  let media := bytes "m=video " ++ videoPort ++ bytes " RTP/AVP " ++ vStr ++ bytes "\r\n"
  if codec.H264 then
    media ++ bytes "a=rtpmap:" ++ vStr ++ bytes " H264/90000\r\n" ++
      bytes "a=fmtp:" ++ vStr ++ bytes " profile-level-id=42E00D; max-br=320\r\n" ++
      bytes "a=sendrecv\r\n"
  else if codec.H263 then
    media ++ bytes "a=rtpmap:" ++ vStr ++ bytes " H263-1998/90000\r\n" ++
      bytes "a=fmtp:" ++ vStr ++ bytes " CIF=2;QCIF=2;SQCIF=2\r\n" ++
      bytes "a=sendrecv\r\n"
  else if codec.H263P then
    media ++ bytes "a=rtpmap:" ++ vStr ++ bytes " H263-1998/90000\r\n" ++
      bytes "a=fmtp:" ++ vStr ++ bytes " QCIF=2;CIF=2;VGA=2;CIF4=2;I=1;J=1;T=1\r\n" ++
      bytes "a=sendrecv\r\n"
  else
    []

/-- `createSdpToIMS`, with the ports the two helpers listen on. -/
def createSdpToIMS (codec : SIPCodec) (audioPort videoPort : UInt16) (stype : SessionType)
    (a : ImsAgent) : Bytes :=
  let aStr := ofInt PT_PCMA_DEFAULT
  let vStr := ofInt a.vPayload
  let audioPort := ofInt audioPort.toNat
  let videoPort := ofInt videoPort.toNat
  let imsSDP :=
    bytes "v=0\r\n" ++
    bytes "o=mg 1811991880 0 IN IP4 10.109.247.140\r\n" ++
    bytes "s=abc\r\n" ++
    bytes "c=IN IP4 10.109.247.140\r\n" ++
    bytes "t=0 0\r\n" ++
    bytes "m=audio " ++ audioPort ++ bytes " RTP/AVP " ++ aStr ++ bytes "\r\n" ++
    bytes "a=rtpmap:" ++ aStr ++ bytes " PCMA/8000/1\r\n" ++
    bytes "a=sendrecv\r\n"
  match stype with
  | SessionType.AUDIO => imsSDP
  | .VIDEO => imsSDP ++ videoSdp codec vStr videoPort

end ImsAgent

end MediaGateway
