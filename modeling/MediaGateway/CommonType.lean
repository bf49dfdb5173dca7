import MediaGateway.Lib.Text

/-!
# Common types

`commontype.h`: the ROAP and session messages, and the texts an SDP is
searched for.  The error codes of libsrtp's `err.h` and the faults an
execution can end in are here too.

`RoapType` and `ErrorType` are enumerations that the parser fills by casting
an arbitrary `int`, so a value outside the named constants can occur and both
are integers here.
-/

namespace MediaGateway

open Lib

/-! ## Messages -/

/-- `enum RoapType`, as the `int` it is cast from, with the constants that the program
compares it with. -/
abbrev RoapType := Int

namespace RoapType

def offer : RoapType := 1
def answer : RoapType := 2
def ok : RoapType := 3
def candidate : RoapType := 4
def shutdownR : RoapType := 5

end RoapType

/-- `enum ErrorType`, as the `int` it is cast from. -/
abbrev ErrorType := Int

/-- `ErrorType::none`. -/
def ErrorType.noError : ErrorType := -1

/-- `struct RoapMessage`. -/
structure RoapMessage where
  type : RoapType
  seq : Int
  label : Int
  error : ErrorType
  offerSessionID : Bytes
  answerSessionID : Bytes
  sdp : Bytes
  tiebreaker : Bytes
  moreComingFlag : Bool
  msgSize : Int
  msgContent : Bytes
  deriving DecidableEq, Repr

/-- `struct SessionMessage`. -/
structure SessionMessage where
  type : Int
  from_ : Bytes
  to_ : Bytes
  roap : RoapMessage
  deriving DecidableEq, Repr

/-- `m` with only its `sdp` replaced. -/
def SessionMessage.withSdp (m : SessionMessage) (sdp : Bytes) : SessionMessage :=
  { m with roap := { m.roap with sdp := sdp } }

/-- `m` with its `sdp` and its ROAP type replaced. -/
def SessionMessage.withSdpType (m : SessionMessage) (sdp : Bytes) (type : RoapType) :
    SessionMessage :=
  { m with roap := { m.roap with sdp := sdp, type := type } }

/-- The members of a `SessionMessage` that no constructor initialises: what
happens to be in memory. -/
structure Uninit where
  type : Int
  roapType : RoapType
  moreComingFlag : Bool
  deriving DecidableEq, Repr

/-- A default-constructed `SessionMessage` over the memory `mem`. -/
def SessionMessage.fresh (mem : Uninit) : SessionMessage where
  type := mem.type
  from_ := []
  to_ := []
  roap :=
    { type := mem.roapType
      seq := -1
      label := -1
      error := ErrorType.noError
      offerSessionID := []
      answerSessionID := []
      sdp := []
      tiebreaker := []
      moreComingFlag := mem.moreComingFlag
      msgSize := -1
      msgContent := [] }

/-- `enum SessionType`. -/
inductive SessionType
  | AUDIO
  | VIDEO
  deriving DecidableEq, Repr

/-! ## SDP texts and payload numbers -/

def PT_H263_DEFAULT : Int := 102
def PT_H264_DEFAULT : Int := 98
def PT_VP8_DEFAULT : Int := 112
def PT_PCMA_DEFAULT : Int := 8

def WEB_SDP_BEGIN : Bytes :=
  bytes "v=0\r\no=- 3407814663 2 IN IP4 127.0.0.1\r\ns=-\r\nt=0 0\r\n"
def WEB_AUDIO_BUNDLE : Bytes := bytes "a=group:BUNDLE audio\r\n"
def WEB_VIDEO_BUNDLE : Bytes := bytes "a=group:BUNDLE audio video\r\n"
def ICE_UFRAG : Bytes := bytes "a=ice-ufrag:"
def ICE_PWD : Bytes := bytes "a=ice-pwd:"
def PARAM_END : Bytes := bytes "\r\n"
def CRYPTO_80 : Bytes := bytes "a=crypto:1 AES_CM_128_HMAC_SHA1_80 inline:"
def SSRC : Bytes := bytes "a=ssrc:"
def SSRC_END : Bytes := bytes " cname:"

/-- The global `map<string, int> SIPCodec`: which entries are non-zero.  `main`
sets `SIPCodec["H264"]` alone. -/
structure SIPCodec where
  H264 : Bool
  H263 : Bool
  H263P : Bool
  deriving DecidableEq, Repr

/-- The table `main` builds. -/
def SIPCodec.main : SIPCodec := { H264 := true, H263 := false, H263P := false }

/-! ## Status codes and faults -/

/-- `err_status_t` of libsrtp's `err.h`. -/
inductive ErrStatus
  | ok
  | fail
  | badParam
  | allocFail
  | deallocFail
  | initFail
  | terminus
  | authFail
  | cipherFail
  | replayFail
  | replayOld
  | algoFail
  | noSuchOp
  | noCtx
  | cantCheck
  | keyExpired
  | socketErr
  | signalErr
  | nonceBad
  | readFail
  | writeFail
  | parseErr
  | encodeErr
  | semaphoreErr
  | pfkeyErr
  deriving DecidableEq, Repr

/-- How an execution can end other than by returning. -/
inductive Fault
  /-- `assert(used == true)` in `handleSessionMessage` -/
  | assertUsed
  /-- jsoncpp refuses an access or a conversion -/
  | json
  /-- an object that has been deleted is used -/
  | useAfterFree
  /-- a member of an agent is reached through a NULL pointer -/
  | nullDeref
  deriving DecidableEq, Repr

end MediaGateway
