import MediaGateway.ImsAgent
import MediaGateway.Timer
import MediaGateway.WebAgent

/-!
# Media sessions

`mediasession.cpp`: the handlers of one session, the packets they send and the
periodic check that tears a session down when media stops.

A handler gets the session, the timer tables, its message and what the outside
answers (`Env`).  It returns the session, the tables and the actions in order.
`self` is the number of the session object, which `doTailingJobs` and
`checkMediaFlow` hand to `setTimer`.

`CodecConverter::run`, which `doTailingJobs` calls for both converters, changes
neither the session nor the tables and is left to the outside.
-/

namespace MediaGateway

open Lib

/-- A running `MediaSession` with its two agents. -/
structure MediaSession where
  webCallerFlag : Bool
  webOfferOrAnswerArrived : Bool
  offerSessionID : Bytes
  originalOffer : SessionMessage
  originalAnswer : SessionMessage
  sessionType : SessionType
  webAgent : WebAgent
  imsAgent : ImsAgent
  timerID : Nat
  deriving DecidableEq, Repr

/-- A `MediaSession` object.  `deleteSession` frees both agents and sets both
pointers to NULL at once, which is what `isSessionStop` asks; of the members that
are left only two are read again. -/
inductive SessionObj
  | running (s : MediaSession)
  | stopped (offerSessionID : Bytes) (timerID : Nat)
  deriving DecidableEq, Repr

namespace SessionObj

def offerSessionID : SessionObj → Bytes
  | .running s => s.offerSessionID
  | .stopped id _ => id

end SessionObj

namespace MediaSession

/-- The constructor `MediaSession("")`. -/
def fresh (cfg : Config) : MediaSession where
  webCallerFlag := true
  webOfferOrAnswerArrived := false
  offerSessionID := []
  originalOffer := SessionMessage.fresh cfg.messageMem
  originalAnswer := SessionMessage.fresh cfg.messageMem
  sessionType := SessionType.AUDIO
  webAgent := WebAgent.fresh
  imsAgent := ImsAgent.fresh cfg.codec cfg.payloadMem
  timerID := 0

/-! ## Parts of the handlers -/

/-- `sendOfferOrAnswerToIMS`. -/
def sendOfferOrAnswerToIMS (cfg : Config) (env : Env) (s : MediaSession) : List Action :=
  if s.webOfferOrAnswerArrived && s.webAgent.lastCandidateArrived then
    let sMsg := if s.webCallerFlag then s.originalOffer else s.originalAnswer
    let sdp := s.imsAgent.createSdpToIMS cfg.codec env.audioPort env.videoPort s.sessionType
    s.webAgent.setRemoteCandidates ++ [.sendPacketToSG .ims (sMsg.withSdp sdp)]
  else
    []

/-- `sendCandidatesToWeb`. -/
def sendCandidatesToWeb (candidates : List Bytes) (msg : SessionMessage) : List Action :=
  candidates.map fun text =>
    .sendPacketToSG .web (msg.withSdpType text RoapType.candidate)

/-- The packets that `handleAnswerFromIMS` and `handleOfferFromIMS` send to the
web: the description, then the gathered candidates three times. -/
def sendDescriptionToWeb (env : Env) (sMsg : SessionMessage) (s : MediaSession) : List Action :=
  let sdp := s.webAgent.createSdpToWeb env.ufrag env.pwd s.sessionType
  .sendPacketToSG .web (sMsg.withSdp sdp) ::
    (sendCandidatesToWeb env.localCandidates sMsg ++
      sendCandidatesToWeb env.localCandidates sMsg ++
      sendCandidatesToWeb env.localCandidates sMsg)

/-- `MediaSession::doTailingJobs`. -/
def doTailingJobs (env : Env) (self : Nat) (s : MediaSession) (t : Timer) :
    MediaSession × Timer × List Action :=
  let (webAgent, acts) := s.webAgent.doTailingJobs env.encryptStatus env.decryptStatus
  let (timerID, t) := t.setTimer self
  ({ s with webAgent, timerID }, t, .doTailingJobs :: acts)

/-! ## The handlers -/

/-- The session after `handleSdpFromWeb`, for both handlers that call it. -/
def readWebSdp (sMsg : SessionMessage) (s : MediaSession) : MediaSession :=
  let (webAgent, sessionType, _) := s.webAgent.handleSdpFromWeb sMsg.roap.sdp
  { s with webAgent, sessionType, webOfferOrAnswerArrived := true }

/-- The session after `handleSdpFromIMS`, for both handlers that call it. -/
def readImsSdp (cfg : Config) (env : Env) (sMsg : SessionMessage) (s : MediaSession) :
    MediaSession :=
  let (imsAgent, sessionType, _) :=
    s.imsAgent.handleSdpFromIMS cfg.codec env.aport env.vport sMsg.roap.sdp
  { s with imsAgent, sessionType }

/-- `handleOfferFromWeb`. -/
def handleOfferFromWeb (cfg : Config) (env : Env) (sMsg : SessionMessage) (s : MediaSession)
    (t : Timer) : MediaSession × Timer × List Action :=
  let s := readWebSdp sMsg { s with originalOffer := sMsg, webCallerFlag := true }
  let acts := WebAgent.credentials sMsg.roap.sdp
  if WebAgent.supportFlag sMsg.roap.sdp then
    (s, t, acts ++ s.sendOfferOrAnswerToIMS cfg env)
  else
    (s, t, acts)

/-- `handleAnswerFromIMS`. -/
def handleAnswerFromIMS (cfg : Config) (env : Env) (self : Nat) (sMsg : SessionMessage)
    (s : MediaSession) (t : Timer) : MediaSession × Timer × List Action :=
  let s := readImsSdp cfg env sMsg { s with originalAnswer := sMsg }
  if Sdp.audioSupport sMsg.roap.sdp then
    let sent := s.sendDescriptionToWeb env sMsg
    let (s, t, acts) := s.doTailingJobs env self t
    (s, t, sent ++ acts)
  else
    (s, t, [])

/-- `handleOfferFromIMS`. -/
def handleOfferFromIMS (cfg : Config) (env : Env) (sMsg : SessionMessage) (s : MediaSession)
    (t : Timer) : MediaSession × Timer × List Action :=
  let s := readImsSdp cfg env sMsg { s with originalOffer := sMsg, webCallerFlag := false }
  if Sdp.audioSupport sMsg.roap.sdp then
    (s, t, s.sendDescriptionToWeb env sMsg)
  else
    (s, t, [])

/-- `handleAnswerFromWeb`. -/
def handleAnswerFromWeb (cfg : Config) (env : Env) (self : Nat) (sMsg : SessionMessage)
    (s : MediaSession) (t : Timer) : MediaSession × Timer × List Action :=
  let s := readWebSdp sMsg { s with originalAnswer := sMsg }
  let acts := WebAgent.credentials sMsg.roap.sdp
  if WebAgent.supportFlag sMsg.roap.sdp then
    let sent := s.sendOfferOrAnswerToIMS cfg env
    let (s, t, jobs) := s.doTailingJobs env self t
    (s, t, acts ++ sent ++ jobs)
  else
    (s, t, acts)

/-- `handleCandidateFromWeb`. -/
def handleCandidateFromWeb (cfg : Config) (env : Env) (sMsg : SessionMessage) (s : MediaSession)
    (t : Timer) : MediaSession × Timer × List Action :=
  let (webAgent, last) := s.webAgent.handleCandidateFromWeb sMsg.roap.sdp
  let s := { s with webAgent }
  if last then (s, t, s.sendOfferOrAnswerToIMS cfg env) else (s, t, [])

/-- The handlers that a message can be given to. -/
inductive Handler
  | offerFromWeb
  | offerFromIMS
  | answerFromWeb
  | answerFromIMS
  | candidateFromWeb
  deriving DecidableEq, Repr

/-- The call of one handler. -/
def handle (cfg : Config) (h : Handler) (env : Env) (self : Nat) (sMsg : SessionMessage)
    (s : MediaSession) (t : Timer) : MediaSession × Timer × List Action :=
  match h with
  | .offerFromWeb => handleOfferFromWeb cfg env sMsg s t
  | .offerFromIMS => handleOfferFromIMS cfg env sMsg s t
  | .answerFromWeb => handleAnswerFromWeb cfg env self sMsg s t
  | .answerFromIMS => handleAnswerFromIMS cfg env self sMsg s t
  | .candidateFromWeb => handleCandidateFromWeb cfg env sMsg s t

/-! ## The shape of a handler

Every handler first reads its message into the session, then sends, and an
accepted answer ends with the tailing jobs. -/

/-- The session once the handler has read its message. -/
def readMessage (cfg : Config) (h : Handler) (env : Env) (sMsg : SessionMessage)
    (s : MediaSession) : MediaSession :=
  match h with
  | .offerFromWeb => readWebSdp sMsg { s with originalOffer := sMsg, webCallerFlag := true }
  | .offerFromIMS =>
    readImsSdp cfg env sMsg { s with originalOffer := sMsg, webCallerFlag := false }
  | .answerFromWeb => readWebSdp sMsg { s with originalAnswer := sMsg }
  | .answerFromIMS => readImsSdp cfg env sMsg { s with originalAnswer := sMsg }
  | .candidateFromWeb =>
    { s with webAgent := (s.webAgent.handleCandidateFromWeb sMsg.roap.sdp).1 }

/-- What the handler does with the session it has read the message into. -/
def reply (cfg : Config) (h : Handler) (env : Env) (sMsg : SessionMessage)
    (s : MediaSession) : List Action :=
  match h with
  | .offerFromWeb | .answerFromWeb =>
    WebAgent.credentials sMsg.roap.sdp ++
      if WebAgent.supportFlag sMsg.roap.sdp then s.sendOfferOrAnswerToIMS cfg env else []
  | .offerFromIMS | .answerFromIMS =>
    if Sdp.audioSupport sMsg.roap.sdp then s.sendDescriptionToWeb env sMsg else []
  | .candidateFromWeb =>
    if sMsg.roap.sdp = [] then s.sendOfferOrAnswerToIMS cfg env else []

/-- A reply consists of packets, credentials and candidates. -/
theorem isSignalling_of_mem_reply {cfg : Config} {h : Handler} {env : Env}
    {sMsg : SessionMessage} {s : MediaSession} {a : Action}
    (ha : a ∈ reply cfg h env sMsg s) : a.isSignalling = true := by
  have hcred : a ∈ WebAgent.credentials sMsg.roap.sdp → a.isSignalling = true := by
    intro ha
    simp only [WebAgent.credentials] at ha
    split at ha
    · rw [List.mem_singleton.1 ha]
      rfl
    · cases ha
  have hims : a ∈ s.sendOfferOrAnswerToIMS cfg env → a.isSignalling = true := by
    intro ha
    simp only [sendOfferOrAnswerToIMS, WebAgent.setRemoteCandidates, WebAgent.setCandidates] at ha
    split at ha
    · simp only [List.cons_append, List.nil_append, List.mem_cons, List.not_mem_nil,
        or_false] at ha
      rcases ha with rfl | rfl | rfl <;> rfl
    · cases ha
  have hweb : a ∈ s.sendDescriptionToWeb env sMsg → a.isSignalling = true := by
    intro ha
    simp only [sendDescriptionToWeb, sendCandidatesToWeb, List.mem_cons, List.mem_append,
      List.mem_map] at ha
    rcases ha with rfl | (⟨_, _, rfl⟩ | ⟨_, _, rfl⟩) | ⟨_, _, rfl⟩ <;> rfl
  cases h with
  | offerFromWeb =>
    rcases List.mem_append.1 ha with ha | ha
    · exact hcred ha
    · split at ha
      · exact hims ha
      · cases ha
  | answerFromWeb =>
    rcases List.mem_append.1 ha with ha | ha
    · exact hcred ha
    · split at ha
      · exact hims ha
      · cases ha
  | offerFromIMS =>
    simp only [reply] at ha
    split at ha
    · exact hweb ha
    · cases ha
  | answerFromIMS =>
    simp only [reply] at ha
    split at ha
    · exact hweb ha
    · cases ha
  | candidateFromWeb =>
    simp only [reply] at ha
    split at ha
    · exact hims ha
    · cases ha

/-- Whether the message is an answer that the handler accepts, so that
`doTailingJobs` runs. -/
def startsMedia (h : Handler) (sMsg : SessionMessage) : Bool :=
  match h with
  | .answerFromWeb => WebAgent.supportFlag sMsg.roap.sdp
  | .answerFromIMS => Sdp.audioSupport sMsg.roap.sdp
  | _ => false

theorem handleCandidateFromWeb_last (sdp : Bytes) (w : WebAgent) :
    (w.handleCandidateFromWeb sdp).2 = decide (sdp = []) := by
  cases sdp with
  | nil => rfl
  | cons c rest =>
    simp only [WebAgent.handleCandidateFromWeb, List.length_cons, Nat.zero_lt_succ, if_true]
    split <;> simp

/-- A handler that does not start media. -/
theorem handle_of_not_startsMedia {cfg : Config} {h : Handler} {env : Env} {self : Nat}
    {sMsg : SessionMessage} {s : MediaSession} {t : Timer} (hm : startsMedia h sMsg = false) :
    handle cfg h env self sMsg s t =
      (readMessage cfg h env sMsg s, t,
        reply cfg h env sMsg (readMessage cfg h env sMsg s)) := by
  cases h with
  | offerFromWeb =>
    simp only [handle, handleOfferFromWeb, readMessage, reply]
    split <;> simp
  | offerFromIMS =>
    simp only [handle, handleOfferFromIMS, readMessage, reply]
    split <;> rfl
  | answerFromWeb =>
    simp only [startsMedia] at hm
    simp [handle, handleAnswerFromWeb, readMessage, reply, hm]
  | answerFromIMS =>
    simp only [startsMedia] at hm
    simp [handle, handleAnswerFromIMS, readMessage, reply, hm]
  | candidateFromWeb =>
    simp only [handle, handleCandidateFromWeb, readMessage, reply,
      handleCandidateFromWeb_last, decide_eq_true_eq]
    split <;> rfl

/-- A handler that starts media: the tailing jobs come last. -/
theorem handle_of_startsMedia {cfg : Config} {h : Handler} {env : Env} {self : Nat}
    {sMsg : SessionMessage} {s : MediaSession} {t : Timer} (hm : startsMedia h sMsg = true) :
    handle cfg h env self sMsg s t =
      (((readMessage cfg h env sMsg s).doTailingJobs env self t).1,
        ((readMessage cfg h env sMsg s).doTailingJobs env self t).2.1,
        reply cfg h env sMsg (readMessage cfg h env sMsg s) ++
          ((readMessage cfg h env sMsg s).doTailingJobs env self t).2.2) := by
  cases h with
  | answerFromWeb =>
    simp only [startsMedia] at hm
    simp [handle, handleAnswerFromWeb, readMessage, reply, hm]
  | answerFromIMS =>
    simp only [startsMedia] at hm
    simp [handle, handleAnswerFromIMS, readMessage, reply, hm]
  | offerFromWeb => cases hm
  | offerFromIMS => cases hm
  | candidateFromWeb => cases hm

/-- Only the tailing jobs touch the timer. -/
@[simp] theorem readMessage_timerID (cfg : Config) (h : Handler) (env : Env)
    (sMsg : SessionMessage) (s : MediaSession) :
    (readMessage cfg h env sMsg s).timerID = s.timerID := by
  cases h <;> rfl

@[simp] theorem readMessage_offerSessionID (cfg : Config) (h : Handler) (env : Env)
    (sMsg : SessionMessage) (s : MediaSession) :
    (readMessage cfg h env sMsg s).offerSessionID = s.offerSessionID := by
  cases h <;> rfl

/-- The tables after a handler: one more timer when media starts. -/
theorem handle_timer (cfg : Config) (h : Handler) (env : Env) (self : Nat)
    (sMsg : SessionMessage) (s : MediaSession) (t : Timer) :
    (handle cfg h env self sMsg s t).2.1 =
      if startsMedia h sMsg then (t.setTimer self).2 else t := by
  cases hm : startsMedia h sMsg with
  | false => rw [handle_of_not_startsMedia hm]; rfl
  | true => rw [handle_of_startsMedia hm]; rfl

/-- The tailing jobs run once in a handler that starts media, and in no other. -/
theorem count_doTailingJobs_handle (cfg : Config) (h : Handler) (env : Env) (self : Nat)
    (sMsg : SessionMessage) (s : MediaSession) (t : Timer) :
    (handle cfg h env self sMsg s t).2.2.count .doTailingJobs =
      if startsMedia h sMsg then 1 else 0 := by
  have hreply : (reply cfg h env sMsg (readMessage cfg h env sMsg s)).count .doTailingJobs = 0 :=
    List.count_eq_zero.2 fun hmem => by cases isSignalling_of_mem_reply hmem
  cases hm : startsMedia h sMsg with
  | false =>
    rw [handle_of_not_startsMedia hm]
    exact hreply
  | true =>
    rw [handle_of_startsMedia hm]
    simp [List.count_append, hreply, doTailingJobs, WebAgent.doTailingJobs]

/-- The timer of a session after a handler. -/
theorem handle_timerID (cfg : Config) (h : Handler) (env : Env) (self : Nat)
    (sMsg : SessionMessage) (s : MediaSession) (t : Timer) :
    (handle cfg h env self sMsg s t).1.timerID =
      if startsMedia h sMsg then (t.setTimer self).1 else s.timerID := by
  cases hm : startsMedia h sMsg with
  | false => rw [handle_of_not_startsMedia hm]; exact readMessage_timerID cfg h env sMsg s
  | true => rw [handle_of_startsMedia hm]; rfl

@[simp] theorem handle_offerSessionID (cfg : Config) (h : Handler) (env : Env) (self : Nat)
    (sMsg : SessionMessage) (s : MediaSession) (t : Timer) :
    (handle cfg h env self sMsg s t).1.offerSessionID = s.offerSessionID := by
  cases hm : startsMedia h sMsg with
  | false =>
    rw [handle_of_not_startsMedia hm]
    exact readMessage_offerSessionID cfg h env sMsg s
  | true =>
    rw [handle_of_startsMedia hm]
    exact readMessage_offerSessionID cfg h env sMsg s

/-! ## The periodic check -/

/-- The packet counters as the media threads have left them. -/
structure Flow where
  web : UInt32
  ims : UInt32
  deriving DecidableEq, Repr

/-- The session with the counters of its agents at their current values. -/
def withFlow (flow : Flow) (s : MediaSession) : MediaSession :=
  { s with
    webAgent := { s.webAgent with curcnt := flow.web }
    imsAgent := { s.imsAgent with curcnt := flow.ims } }

/-- `checkMediaFlow`: the object and the tables.  The second counter is looked
at only when the first one has moved. -/
def checkMediaFlow (self : Nat) (s : MediaSession) (t : Timer) : SessionObj × Timer :=
  let (webGot, webAgent) := s.webAgent.gotPeriodData
  if !webGot then
    (.stopped s.offerSessionID s.timerID, t)
  else
    let (imsGot, imsAgent) := s.imsAgent.gotPeriodData
    if !imsGot then
      (.stopped s.offerSessionID s.timerID, t)
    else
      let (timerID, t) := t.setTimer self
      (.running { s with webAgent, imsAgent, timerID }, t)

/-- Whether both counters have moved since the last check. -/
def flows (flow : Flow) (s : MediaSession) : Bool :=
  flow.web != s.webAgent.precnt && flow.ims != s.imsAgent.precnt

/-- The session that goes on after the check, before its new timer. -/
def keepFlow (flow : Flow) (s : MediaSession) : MediaSession :=
  { s with
    webAgent := { s.webAgent with curcnt := flow.web, precnt := flow.web }
    imsAgent := { s.imsAgent with curcnt := flow.ims, precnt := flow.ims } }

/-- The check stops the session unless both counters have moved, and then sets
the next timer. -/
theorem checkMediaFlow_eq (self : Nat) (flow : Flow) (s : MediaSession) (t : Timer) :
    (s.withFlow flow).checkMediaFlow self t =
      if s.flows flow then
        (.running { s.keepFlow flow with timerID := (t.setTimer self).1 }, (t.setTimer self).2)
      else
        (.stopped s.offerSessionID s.timerID, t) := by
  unfold checkMediaFlow withFlow flows keepFlow WebAgent.gotPeriodData ImsAgent.gotPeriodData
  by_cases hweb : flow.web = s.webAgent.precnt
  · simp [hweb]
  · by_cases hims : flow.ims = s.imsAgent.precnt
    · simp [hweb, hims]
    · simp [hweb, hims]

end MediaSession

end MediaGateway
