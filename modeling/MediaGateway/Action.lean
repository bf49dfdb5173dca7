import MediaGateway.MessageParser
import MediaGateway.RtpConverter

/-!
# Inputs and actions

A handler of the gateway reads more than its message and does more than change
its session.  `Config` is what is fixed for a run, `Env` is what the outside
answers while one message is handled, and `Action` is one thing a session does
that the outside can see.
-/

namespace MediaGateway

open Lib

/-! ## What the gateway reads -/

/-- What does not change during a run. -/
structure Config where
  json : JsonLib
  codec : SIPCodec
  /-- `sizeof(unsigned long)`, which lays out `RTP_HEADER` -/
  ulongBytes : Nat
  /-- what `ImsAgent::vPayload` holds when `SIPCodec` has no entry for it -/
  payloadMem : Int
  /-- what the messages of a new session hold in the members that nothing
  initialises -/
  messageMem : Uninit

/-- What the outside answers while a session handles one message. -/
structure Env where
  /-- the members of the parsed message that nothing initialises -/
  mem : Uninit
  /-- `nice_agent_get_local_credentials` -/
  ufrag : Bytes
  pwd : Bytes
  /-- the candidate lines that ICE has gathered -/
  localCandidates : List Bytes
  /-- the ports the session's two IMS helpers listen on -/
  audioPort : UInt16
  videoPort : UInt16
  /-- the locals `aport` and `vport` of `handleSdpFromIMS` before the scan -/
  aport : UInt16
  vport : UInt16
  /-- the statuses of the two `srtp_create` calls -/
  encryptStatus : ErrStatus
  decryptStatus : ErrStatus
  deriving DecidableEq, Repr

/-! ## What a session does -/

/-- The peer that a packet to the signalling gateway is meant for. -/
inductive Side
  | web
  | ims
  deriving DecidableEq, Repr

/-- The ways media bytes leave the gateway. -/
inductive MediaPath
  /-- web audio to IMS, `receiveDataCallback` -/
  | audioToIMS
  /-- web video to the codec converter, `receiveDataCallback` -/
  | videoToConverter
  /-- audio to the web, `WebAgent::sendData` -/
  | audioToWeb
  /-- video to the web, `WebAgent::sendData` -/
  | videoToWeb
  /-- RTCP to the web, `WebAgent::sendrtcp` -/
  | rtcpToWeb
  deriving DecidableEq, Repr

/-- The packet functions of libsrtp. -/
inductive SrtpOp
  | unprotect
  | protect
  | protectRtcp
  deriving DecidableEq, Repr

/-- The operation that has to succeed before bytes leave on a path. -/
def MediaPath.op : MediaPath → SrtpOp
  | .audioToIMS => .unprotect
  | .videoToConverter => .unprotect
  | .audioToWeb => .protect
  | .videoToWeb => .protect
  | .rtcpToWeb => .protectRtcp

/-- One thing a session does. -/
inductive Action
  /-- `MediaGateway::sendPacketToSG(packageSessionMessage(m))` -/
  | sendPacketToSG (side : Side) (m : SessionMessage)
  /-- `nice_agent_set_remote_credentials` -/
  | setCredentials (ufrag pwd : Bytes)
  /-- `nice_agent_set_remote_candidates`: the component, the texts looked at
  and those of type host that are handed over -/
  | setRemoteCandidates (component : Nat) (considered passed : List Bytes)
  /-- `WebAgent::doTailingJobs`, which runs `RTPConverter::init` -/
  | initConverter (result : RTPConverter.InitResult)
  /-- `MediaSession::doTailingJobs` -/
  | doTailingJobs
  /-- a packet function of libsrtp returned -/
  | srtp (op : SrtpOp) (status : ErrStatus)
  /-- media bytes left the gateway -/
  | media (path : MediaPath) (data : Bytes)
  deriving DecidableEq, Repr

namespace Action

/-- The packet of `sendOfferOrAnswerToIMS`, if the action is one. -/
def toIMS? : Action → Option SessionMessage
  | .sendPacketToSG .ims m => some m
  | _ => none

/-- An exchange with the peers or with ICE, as opposed to a media job. -/
def isSignalling : Action → Bool
  | .sendPacketToSG _ _ => true
  | .setCredentials _ _ => true
  | .setRemoteCandidates _ _ _ => true
  | _ => false

/-- The packet to the signalling gateway, if the action is one. -/
def packet? : Action → Option SessionMessage
  | .sendPacketToSG _ m => some m
  | _ => none

end Action

/-- The packets to IMS among the actions. -/
def packetsToIMS (acts : List Action) : List SessionMessage := acts.filterMap Action.toIMS?

/-- The packets to the signalling gateway among the actions. -/
def packets (acts : List Action) : List SessionMessage := acts.filterMap Action.packet?

@[simp] theorem packetsToIMS_append (xs ys : List Action) :
    packetsToIMS (xs ++ ys) = packetsToIMS xs ++ packetsToIMS ys :=
  List.filterMap_append ..

theorem packets_append (xs ys : List Action) : packets (xs ++ ys) = packets xs ++ packets ys :=
  List.filterMap_append ..

end MediaGateway
