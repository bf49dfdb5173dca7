import MediaGateway.Action
import MediaGateway.Candidate
import MediaGateway.Sdp

/-!
# The web agent

`webagent.cpp`, the signalling side: what `handleSdpFromWeb` reads from a
browser's SDP, the candidates that trickle in, the SDP that `createSdpToWeb`
writes and the key that `doTailingJobs` hands to the SRTP converter.

Members that the constructor sets and nothing changes are constants here:
`aPayload`, the two SSRCs and `cryptoToWeb`.
-/

namespace MediaGateway

open Lib Bytes

/-- `WebAgent`. -/
structure WebAgent where
  curcnt : UInt32
  precnt : UInt32
  isReady : Bool
  lastCandidateArrived : Bool
  vPayload : Int
  cryptoFromWeb : Bytes
  videoSSRCFromWeb : Bytes
  remoteRTPCandidates : List Bytes
  remoteRTCPCandidates : List Bytes
  rtpConverter : RTPConverter
  deriving DecidableEq, Repr

namespace WebAgent

def audioSSRC : Bytes := bytes "222222222"
def videoSSRC : Bytes := bytes "333333333"
def cryptoToWeb : Bytes := bytes "pCC0edHOwQOuwX0m4+135nil9xt5Lr9exVF7Gs4m"

/-- The constructor. -/
def fresh : WebAgent where
  curcnt := 0
  precnt := 0
  isReady := false
  lastCandidateArrived := false
  vPayload := PT_VP8_DEFAULT
  cryptoFromWeb := []
  videoSSRCFromWeb := []
  remoteRTPCandidates := []
  remoteRTCPCandidates := []
  rtpConverter := RTPConverter.fresh

/-- `gotPeriodData`. -/
def gotPeriodData (w : WebAgent) : Bool × WebAgent :=
  if w.curcnt != w.precnt then (true, { w with precnt := w.curcnt }) else (false, w)

/-! ## Candidates -/

/-- `handleCandidateFromWeb`: the agent, and `true` for the last candidate,
which is the one with an empty text. -/
def handleCandidateFromWeb (sdp : Bytes) (w : WebAgent) : WebAgent × Bool :=
  if 0 < sdp.length then
    if Candidate.isRTP sdp then
      ({ w with remoteRTPCandidates := w.remoteRTPCandidates ++ [sdp] }, false)
    else
      ({ w with remoteRTCPCandidates := w.remoteRTCPCandidates ++ [sdp] }, false)
  else
    ({ w with lastCandidateArrived := true }, true)

/-- One call of `nice_agent_set_remote_candidates`: only candidates of type
host are handed over. -/
def setCandidates (component : Nat) (texts : List Bytes) : Action :=
  .setRemoteCandidates component texts
    (texts.filter fun text => Candidate.type text == CandidateType.host)

/-- `setRemoteCandidates`. -/
def setRemoteCandidates (w : WebAgent) : List Action :=
  [setCandidates 1 w.remoteRTPCandidates, setCandidates 2 w.remoteRTCPCandidates]

/-! ## The SDP from the browser -/

/-- `getCryptoInfo`. -/
def getCryptoInfo (sdp : Bytes) : Bytes := (Sdp.param sdp CRYPTO_80).getD (bytes "NULL")

/-- `videoSSRCFromWeb` after the scan of the video section. -/
def scanVideoSSRC (sdp old : Bytes) : Bytes :=
  match find sdp (bytes "m=video") 0 with
  | none => old
  | some p =>
    match find sdp (bytes "a=ssrc:") p with
    | none => old
    | some q =>
      let p2 := q + (bytes "a=ssrc:").length
      match find sdp (bytes " ") p2 with
      | none => old
      | some endPos => substr sdp p2 (endPos - p2)

/-- The value `handleSdpFromWeb` returns: the audio formats, and for a video
session also an `rtpmap` line for VP8. -/
def supportFlag (sdp : Bytes) : Bool :=
  match Sdp.sessionType sdp with
  | SessionType.AUDIO => Sdp.audioSupport sdp
  | .VIDEO => Sdp.audioSupport sdp && (Sdp.rtpmapPayload (bytes "VP8") sdp).isSome

/-- `vPayload` after the `rtpmap` scan. -/
def scanPayload (sdp : Bytes) (old : Int) : Int :=
  match Sdp.sessionType sdp with
  | SessionType.AUDIO => old
  | .VIDEO => (Sdp.rtpmapPayload (bytes "VP8") sdp).getD old

/-- `cryptoFromWeb` after the SDP: unchanged, with a message on the console,
when the SDP does not contain the word `crypto`. -/
def scanCrypto (sdp old : Bytes) : Bytes :=
  if contains sdp (bytes "crypto") then getCryptoInfo sdp else old

/-- The credentials that are set, when the SDP carries both. -/
def credentials (sdp : Bytes) : List Action :=
  let ufrag := (Sdp.param sdp ICE_UFRAG).getD []
  let pwd := (Sdp.param sdp ICE_PWD).getD []
  if ufrag.length ≠ 0 ∧ pwd.length ≠ 0 then [.setCredentials ufrag pwd] else []

/-- `handleSdpFromWeb`: the agent, the session type and what it returns.  The
argument `webCallerFlag` of the source is not read. -/
def handleSdpFromWeb (sdp : Bytes) (w : WebAgent) : WebAgent × SessionType × Bool :=
  ( { w with
      cryptoFromWeb := scanCrypto sdp w.cryptoFromWeb
      videoSSRCFromWeb := scanVideoSSRC sdp w.videoSSRCFromWeb
      vPayload := scanPayload sdp w.vPayload }
  , Sdp.sessionType sdp
  , supportFlag sdp )

/-! ## The SDP to the browser -/

/-- `replaceCrypto`.  The search goes on from the position where the old value
ended. -/
def replaceCryptoLoop (crypto : Bytes) : Nat → Option Nat → Bytes → Bytes
  | 0, _, sdp => sdp
  | _ + 1, none, sdp => sdp
  | fuel + 1, some p, sdp =>
    let beginPos := p + CRYPTO_80.length
    match find sdp PARAM_END beginPos with
    | none => sdp
    | some endPos =>
      let sdp := replace sdp beginPos (endPos - beginPos) crypto
      replaceCryptoLoop crypto fuel (find sdp CRYPTO_80 endPos) sdp

def replaceCrypto (sdp crypto : Bytes) : Bytes :=
  replaceCryptoLoop crypto (sdp.length + 1) (find sdp CRYPTO_80 0) sdp

/-- One replacement inside the loop of `replaceUfragPwd`: the position after
the label, or `npos` when the label is missing, and the text. -/
def replaceParam (label value : Bytes) (pos : Option Nat) (sdp : Bytes) : Option Nat × Bytes :=
  match pos with
  | none => (none, sdp)
  | some p =>
    let beginPos := p + label.length
    match find sdp PARAM_END beginPos with
    | none => (some beginPos, sdp)
    | some endPos => (some beginPos, replace sdp beginPos (endPos - beginPos) value)

/-- `sdp.find(pat, pos)` for a start that may be `npos`. -/
def findAt (sdp pat : Bytes) : Option Nat → Option Nat
  | none => none
  | some pos => find sdp pat pos

/-- The loop of `replaceUfragPwd`. -/
def replaceUfragPwdLoop (ufrag pwd : Bytes) : Nat → Option Nat → Bytes → Bytes
  | 0, _, sdp => sdp
  | _ + 1, none, sdp => sdp
  | fuel + 1, some p, sdp =>
    let (pos, sdp) := replaceParam ICE_UFRAG ufrag (some p) sdp
    let (pos, sdp) := replaceParam ICE_PWD pwd (findAt sdp ICE_PWD pos) sdp
    replaceUfragPwdLoop ufrag pwd fuel (findAt sdp ICE_UFRAG pos) sdp

/-- `replaceUfragPwd`, with the credentials that ICE reports. -/
def replaceUfragPwd (ufrag pwd sdp : Bytes) : Bytes :=
  replaceUfragPwdLoop ufrag pwd (sdp.length + 1) (find sdp ICE_UFRAG 0) sdp

/-- The lines of one `a=ssrc` group; `label` is the end of the last line. -/
def ssrcLines (ssrc label : Bytes) : Bytes :=
  SSRC ++ ssrc ++ SSRC_END ++ bytes "nuGkF01P6jVEX8n8\r\na=ssrc:" ++ ssrc ++
    bytes " mslabel:gUzyEDlZWN688rqW3YWb6Al1eqdok5HBdc7M\r\na=ssrc:" ++ ssrc ++
    bytes " label:gUzyEDlZWN688rqW3YWb6Al1eqdok5HBdc7M" ++ label ++ bytes "\r\n"

/-- One media section of `createSdpToWeb`. -/
def webSection (media payload codec ssrc label : Bytes) : Bytes :=
  bytes "m=" ++ media ++ bytes " 1 RTP/SAVPF " ++ payload ++ bytes "\r\n" ++
    bytes "c=IN IP4 0.0.0.0\r\n" ++
    bytes "a=rtcp:1 IN IP4 0.0.0.0\r\n" ++
    bytes "a=ice-ufrag:V6oIgATQATtWFDI1\r\n" ++
    bytes "a=ice-pwd:0fvI8mFb2+EFTVarDx/RHNvW\r\n" ++
    bytes "a=sendrecv\r\n" ++
    bytes "a=mid:" ++ media ++ bytes "\r\n" ++
    bytes "a=rtcp-mux\r\n" ++
    CRYPTO_80 ++ bytes "gnXrE0MSrzWLNu4VzjRm/A4d3ANy0gnpvDNXQlWd\r\n" ++
    bytes "a=rtpmap:" ++ payload ++ codec ++
    ssrcLines ssrc label

/-- The text that `createSdpToWeb` builds before the replacements. -/
def webSdpTemplate (stype : SessionType) (w : WebAgent) : Bytes :=
  let audio := webSection (bytes "audio") (ofInt PT_PCMA_DEFAULT) (bytes " PCMA/8000\r\n")
    audioSSRC (bytes "00")
  match stype with
  | SessionType.AUDIO => WEB_SDP_BEGIN ++ WEB_AUDIO_BUNDLE ++ audio
  | .VIDEO =>
    WEB_SDP_BEGIN ++ WEB_VIDEO_BUNDLE ++ audio ++
      webSection (bytes "video") (ofInt w.vPayload) (bytes " VP8/90000\r\n")
        videoSSRC (bytes "10")

/-- `createSdpToWeb`.  The argument `webCallerFlag` of the source is not
read. -/
def createSdpToWeb (ufrag pwd : Bytes) (stype : SessionType) (w : WebAgent) : Bytes :=
  replaceCrypto (replaceUfragPwd ufrag pwd (webSdpTemplate stype w)) cryptoToWeb

/-! ## The tailing jobs -/

/-- `WebAgent::doTailingJobs`. -/
def doTailingJobs (encryptStatus decryptStatus : ErrStatus) (w : WebAgent) :
    WebAgent × List Action :=
  let (converter, result) :=
    w.rtpConverter.init encryptStatus decryptStatus cryptoToWeb w.cryptoFromWeb
  ({ w with rtpConverter := converter }, [.initConverter result])

end WebAgent

end MediaGateway
