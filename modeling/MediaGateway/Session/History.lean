import MediaGateway.FastWriter
import MediaGateway.Lib.Machine
import MediaGateway.MediaSession

/-!
# The history of a session

A session is a machine over the messages it is given (`session`).  What it
remembers between two messages is a function of the messages handled so far:
`Tracks cfg hist s` lists the members of `s` that the later results read, each as
a function of the history `hist`.  `tracks_step` is the step lemma, one case per
handler, and `tracks_run` lifts it to every sequence of messages.

`exchange_step` says which candidates one handler sets and which packet it sends
to IMS, in terms of the session after it has read its message;
`packetsToIMS_step` reads the packets off it.
-/

namespace MediaGateway

open Lib MediaSession

/-- A message on its way to one handler, with what the outside answers. -/
structure Signal where
  handler : Handler
  message : SessionMessage
  env : Env
  deriving DecidableEq, Repr

namespace Signal

/-- The SDP text of the message. -/
def sdp (e : Signal) : Bytes := e.message.roap.sdp

def isOffer (e : Signal) : Bool :=
  e.handler == .offerFromWeb || e.handler == .offerFromIMS

def isAnswer (e : Signal) : Bool :=
  e.handler == .answerFromWeb || e.handler == .answerFromIMS

/-- A description that `handleSdpFromWeb` reads. -/
def describes (e : Signal) : Bool :=
  e.handler == .offerFromWeb || e.handler == .answerFromWeb

/-- A web description for which `handleSdpFromWeb` returns true. -/
def accepted (e : Signal) : Bool := e.describes && WebAgent.supportFlag e.sdp

def fromIMS (e : Signal) : Bool :=
  e.handler == .offerFromIMS || e.handler == .answerFromIMS

/-- An offer or an answer. -/
def carriesSdp (e : Signal) : Bool := e.handler != .candidateFromWeb

/-- An end-of-candidates marker. -/
def ends (e : Signal) : Bool := e.handler == .candidateFromWeb && e.sdp == []

/-- The text of a candidate, for a message that carries one. -/
def candidate? (e : Signal) : Option Bytes :=
  if e.handler == .candidateFromWeb && e.sdp != [] then some e.sdp else none

end Signal

/-! ## Messages of small calls -/

/-- An offer or an answer whose SDP has one audio format. -/
def audioSdp (handler : Handler) (type : RoapType) (format : String) : Signal where
  handler
  message := SessionMessage.of type (bytes "call")
    (bytes "m=audio 1 RTP/SAVPF " ++ bytes format ++ PARAM_END)
  env := Env.plain

/-- A candidate of type host for a component. -/
def hostCandidate (component : String) : Signal where
  handler := .candidateFromWeb
  message := SessionMessage.of RoapType.candidate (bytes "call")
    (bytes "a=candidate:1 " ++ bytes component ++ bytes " udp 1 10.0.0.1 5000 typ host\r\n")
  env := Env.plain

/-- The empty candidate. -/
def endMarker : Signal where
  handler := .candidateFromWeb
  message := SessionMessage.of RoapType.candidate (bytes "call") []
  env := Env.plain

/-! ## The machine -/

/-- The session `self` as a machine over its messages. -/
def session (cfg : Config) (self : Nat) : Transducer (MediaSession × Timer) Signal Action where
  step := fun st e =>
    let r := handle cfg e.handler e.env self e.message st.1 st.2
    ((r.1, r.2.1), r.2.2)

/-- A new session, whatever timers are set. -/
def newSession (cfg : Config) (t : Timer) : MediaSession × Timer := (MediaSession.fresh cfg, t)

/-! ## Functions of a history -/

/-- The last message of the history with the property `p`. -/
def lastOf (p : Signal → Bool) (hist : List Signal) : Option Signal := (hist.filter p).getLast?

theorem lastOf_snoc (p : Signal → Bool) (hist : List Signal) (e : Signal) :
    lastOf p (hist ++ [e]) = if p e then some e else lastOf p hist := by
  unfold lastOf
  rw [List.filter_append, List.filter_cons, List.filter_nil]
  split
  · rw [List.getLast?_append]
    rfl
  · rw [List.append_nil]

/-- Whether the last offer came from the web: `webCallerFlag`. -/
def webCalls (hist : List Signal) : Bool :=
  match lastOf Signal.isOffer hist with
  | none => true
  | some e => e.handler == .offerFromWeb

/-- The message that a packet to IMS stands for: the last offer when the web is
the caller, the last answer otherwise. -/
def standsFor (hist : List Signal) : Option Signal :=
  if webCalls hist then lastOf Signal.isOffer hist else lastOf Signal.isAnswer hist

/-- The last web description in which `handleSdpFromWeb` found the word
`crypto`. -/
def lastCrypto (hist : List Signal) : Option Signal :=
  lastOf (fun e => e.describes && Bytes.contains e.sdp (bytes "crypto")) hist

/-- The candidate texts of the history, in arrival order. -/
def candidateTexts (hist : List Signal) : List Bytes := hist.filterMap Signal.candidate?

theorem webCalls_snoc (hist : List Signal) (e : Signal) :
    webCalls (hist ++ [e]) =
      if e.isOffer then e.handler == .offerFromWeb else webCalls hist := by
  unfold webCalls
  rw [lastOf_snoc]
  cases e.isOffer <;> rfl

theorem candidateTexts_snoc (hist : List Signal) (e : Signal) :
    candidateTexts (hist ++ [e]) = candidateTexts hist ++ e.candidate?.toList := by
  unfold candidateTexts
  rw [List.filterMap_append]
  cases hcand : e.candidate? <;> simp [hcand]

/-- The key text `cryptoFromWeb` holds after a history. -/
def cryptoText (hist : List Signal) : Bytes :=
  match lastCrypto hist with
  | none => []
  | some e => WebAgent.getCryptoInfo e.sdp

theorem cryptoText_snoc (hist : List Signal) (e : Signal) :
    cryptoText (hist ++ [e]) =
      if e.describes then WebAgent.scanCrypto e.sdp (cryptoText hist) else cryptoText hist := by
  unfold cryptoText lastCrypto
  rw [lastOf_snoc, WebAgent.scanCrypto]
  cases e.describes <;> cases Bytes.contains e.sdp (bytes "crypto") <;> simp

/-- The IMS agent after the IMS messages of a history. -/
def agentOf (cfg : Config) (hist : List Signal) : ImsAgent :=
  (hist.filter Signal.fromIMS).foldl
    (fun a e => (a.handleSdpFromIMS cfg.codec e.env.aport e.env.vport e.sdp).1)
    (ImsAgent.fresh cfg.codec cfg.payloadMem)

theorem agentOf_snoc (cfg : Config) (hist : List Signal) (e : Signal) :
    agentOf cfg (hist ++ [e]) =
      if e.fromIMS then
        ((agentOf cfg hist).handleSdpFromIMS cfg.codec e.env.aport e.env.vport e.sdp).1
      else agentOf cfg hist := by
  unfold agentOf
  rw [List.filter_append, List.foldl_append]
  cases he : e.fromIMS <;> simp [he]

/-! ## The session after reading a message -/

/-- What a session remembers, as functions of the messages it has handled. -/
structure Tracks (cfg : Config) (hist : List Signal) (s : MediaSession) : Prop where
  arrived : s.webOfferOrAnswerArrived = hist.any Signal.describes
  ended : s.webAgent.lastCandidateArrived = hist.any Signal.ends
  caller : s.webCallerFlag = webCalls hist
  offer : ∀ e, lastOf Signal.isOffer hist = some e → s.originalOffer = e.message
  answer : ∀ e, lastOf Signal.isAnswer hist = some e → s.originalAnswer = e.message
  rtp : s.webAgent.remoteRTPCandidates = (candidateTexts hist).filter Candidate.isRTP
  rtcp : s.webAgent.remoteRTCPCandidates =
    (candidateTexts hist).filter fun text => !Candidate.isRTP text
  crypto : s.webAgent.cryptoFromWeb = cryptoText hist
  type : ∀ e, lastOf Signal.carriesSdp hist = some e → s.sessionType = Sdp.sessionType e.sdp
  agent : s.imsAgent = agentOf cfg hist

theorem tracks_new (cfg : Config) (t : Timer) : Tracks cfg [] (newSession cfg t).1 where
  arrived := rfl
  ended := rfl
  caller := rfl
  offer := fun _ h => by cases h
  answer := fun _ h => by cases h
  rtp := rfl
  rtcp := rfl
  crypto := rfl
  type := fun _ h => by cases h
  agent := rfl

/-! ### One member at a time -/

section Read

variable (cfg : Config) (e : Signal) (s : MediaSession)

theorem read_arrived :
    (readMessage cfg e.handler e.env e.message s).webOfferOrAnswerArrived =
      (s.webOfferOrAnswerArrived || e.describes) := by
  unfold Signal.describes
  cases e.handler <;> simp [readMessage, readWebSdp, readImsSdp]

theorem read_ended :
    (readMessage cfg e.handler e.env e.message s).webAgent.lastCandidateArrived =
      (s.webAgent.lastCandidateArrived || e.ends) := by
  unfold Signal.ends Signal.sdp
  cases e.handler with
  | candidateFromWeb =>
    simp only [readMessage, WebAgent.handleCandidateFromWeb]
    cases e.message.roap.sdp with
    | nil => simp
    | cons c rest =>
      simp only [List.length_cons, Nat.zero_lt_succ, if_true]
      split <;> simp
  | _ => simp [readMessage, readWebSdp, readImsSdp, WebAgent.handleSdpFromWeb]

theorem read_caller :
    (readMessage cfg e.handler e.env e.message s).webCallerFlag =
      if e.isOffer then e.handler == .offerFromWeb else s.webCallerFlag := by
  unfold Signal.isOffer
  cases e.handler <;> simp [readMessage, readWebSdp, readImsSdp]

theorem read_offer :
    (readMessage cfg e.handler e.env e.message s).originalOffer =
      if e.isOffer then e.message else s.originalOffer := by
  unfold Signal.isOffer
  cases e.handler <;> simp [readMessage, readWebSdp, readImsSdp]

theorem read_answer :
    (readMessage cfg e.handler e.env e.message s).originalAnswer =
      if e.isAnswer then e.message else s.originalAnswer := by
  unfold Signal.isAnswer
  cases e.handler <;> simp [readMessage, readWebSdp, readImsSdp]

theorem read_candidates :
    (readMessage cfg e.handler e.env e.message s).webAgent.remoteRTPCandidates =
        s.webAgent.remoteRTPCandidates ++ e.candidate?.toList.filter Candidate.isRTP ∧
      (readMessage cfg e.handler e.env e.message s).webAgent.remoteRTCPCandidates =
        s.webAgent.remoteRTCPCandidates ++
          e.candidate?.toList.filter fun text => !Candidate.isRTP text := by
  unfold Signal.candidate? Signal.sdp
  cases e.handler with
  | candidateFromWeb =>
    simp only [readMessage, WebAgent.handleCandidateFromWeb]
    cases e.message.roap.sdp with
    | nil => simp
    | cons c rest =>
      cases hrtp : Candidate.isRTP (c :: rest) <;> simp [hrtp]
  | _ => simp [readMessage, readWebSdp, readImsSdp, WebAgent.handleSdpFromWeb]

theorem read_crypto :
    (readMessage cfg e.handler e.env e.message s).webAgent.cryptoFromWeb =
      if e.describes then WebAgent.scanCrypto e.sdp s.webAgent.cryptoFromWeb
      else s.webAgent.cryptoFromWeb := by
  unfold Signal.describes Signal.sdp
  cases e.handler with
  | candidateFromWeb =>
    simp only [readMessage, WebAgent.handleCandidateFromWeb]
    split
    · split <;> simp
    · simp
  | _ => simp [readMessage, readWebSdp, readImsSdp, WebAgent.handleSdpFromWeb]

theorem read_type :
    (readMessage cfg e.handler e.env e.message s).sessionType =
      if e.carriesSdp then Sdp.sessionType e.sdp else s.sessionType := by
  unfold Signal.carriesSdp Signal.sdp
  cases e.handler <;>
    simp [readMessage, readWebSdp, readImsSdp, WebAgent.handleSdpFromWeb,
      ImsAgent.handleSdpFromIMS]

theorem read_agent :
    (readMessage cfg e.handler e.env e.message s).imsAgent =
      if e.fromIMS then
        (s.imsAgent.handleSdpFromIMS cfg.codec e.env.aport e.env.vport e.sdp).1
      else s.imsAgent := by
  unfold Signal.fromIMS Signal.sdp
  cases e.handler <;> simp [readMessage, readWebSdp, readImsSdp]

end Read

variable {cfg : Config} {self : Nat} {hist : List Signal}

/-- Reading one message extends the history by it. -/
theorem tracks_read {s : MediaSession} (h : Tracks cfg hist s) (e : Signal) :
    Tracks cfg (hist ++ [e]) (readMessage cfg e.handler e.env e.message s) where
  arrived := by simp [read_arrived, h.arrived]
  ended := by simp [read_ended, h.ended]
  caller := by rw [read_caller, webCalls_snoc, h.caller]
  offer := by
    intro e' he'
    rw [lastOf_snoc] at he'
    rw [read_offer]
    split
    · rename_i hp
      rw [if_pos hp] at he'
      rw [Option.some.inj he']
    · rename_i hp
      rw [if_neg hp] at he'
      exact h.offer e' he'
  answer := by
    intro e' he'
    rw [lastOf_snoc] at he'
    rw [read_answer]
    split
    · rename_i hp
      rw [if_pos hp] at he'
      rw [Option.some.inj he']
    · rename_i hp
      rw [if_neg hp] at he'
      exact h.answer e' he'
  rtp := by rw [(read_candidates cfg e s).1, candidateTexts_snoc, List.filter_append, h.rtp]
  rtcp := by rw [(read_candidates cfg e s).2, candidateTexts_snoc, List.filter_append, h.rtcp]
  crypto := by rw [read_crypto, cryptoText_snoc, h.crypto]
  type := by
    intro e' he'
    rw [lastOf_snoc] at he'
    rw [read_type]
    split
    · rename_i hp
      rw [if_pos hp] at he'
      rw [Option.some.inj he']
    · rename_i hp
      rw [if_neg hp] at he'
      exact h.type e' he'
  agent := by rw [read_agent, agentOf_snoc, h.agent]

/-- The tailing jobs change nothing that is tracked. -/
theorem tracks_doTailingJobs {s : MediaSession} (h : Tracks cfg hist s) (env : Env) (t : Timer) :
    Tracks cfg hist (s.doTailingJobs env self t).1 :=
  { arrived := h.arrived, ended := h.ended, caller := h.caller, offer := h.offer,
    answer := h.answer, rtp := h.rtp, rtcp := h.rtcp, crypto := h.crypto, type := h.type,
    agent := h.agent }

/-- Handling one message extends the history by it. -/
theorem tracks_step {st : MediaSession × Timer} (h : Tracks cfg hist st.1) (e : Signal) :
    Tracks cfg (hist ++ [e]) ((session cfg self).step st e).1.1 := by
  have hread := tracks_read h e
  cases hm : startsMedia e.handler e.message with
  | false =>
    simp only [session, handle_of_not_startsMedia hm]
    exact hread
  | true =>
    simp only [session, handle_of_startsMedia hm]
    exact tracks_doTailingJobs hread e.env st.2

/-- A session remembers what the messages it has handled say. -/
theorem tracks_run_from {st : MediaSession × Timer} (h : Tracks cfg hist st.1)
    (sigs : List Signal) :
    Tracks cfg (hist ++ sigs) ((session cfg self).run st sigs).1.1 := by
  induction sigs generalizing hist st with
  | nil => rwa [List.append_nil]
  | cons e sigs ih =>
    rw [Transducer.run_cons, List.append_cons]
    exact ih (tracks_step h e)

theorem tracks_run (cfg : Config) (self : Nat) (t : Timer) (sigs : List Signal) :
    Tracks cfg sigs ((session cfg self).run (newSession cfg t) sigs).1.1 := by
  have hrun : Tracks cfg ([] ++ sigs) ((session cfg self).run (newSession cfg t) sigs).1.1 :=
    tracks_run_from (tracks_new cfg t) sigs
  exact hrun

/-! ## What a handler sends to IMS -/

/-- Whether `e`, after the messages `hist`, makes `sendOfferOrAnswerToIMS`
send: the message is one that calls it, and both flags are set. -/
def isTrigger (hist : List Signal) (e : Signal) : Bool :=
  (e.accepted || e.ends) && (hist ++ [e]).any Signal.describes && (hist ++ [e]).any Signal.ends

/-- The message that the packet of `sendOfferOrAnswerToIMS` carries. -/
def packetToIMS (cfg : Config) (env : Env) (s : MediaSession) : SessionMessage :=
  (if s.webCallerFlag then s.originalOffer else s.originalAnswer).withSdp
    (s.imsAgent.createSdpToIMS cfg.codec env.audioPort env.videoPort s.sessionType)

/-- The message a packet carries is the one that stands in the history. -/
theorem original_of_standsFor {s : MediaSession} {d : Signal} (h : Tracks cfg hist s)
    (hd : standsFor hist = some d) :
    (if s.webCallerFlag then s.originalOffer else s.originalAnswer) = d.message := by
  unfold standsFor at hd
  rw [h.caller]
  split
  · rename_i hcalls
    rw [if_pos hcalls] at hd
    exact h.offer d hd
  · rename_i hcalls
    rw [if_neg hcalls] at hd
    exact h.answer d hd

theorem sendOfferOrAnswerToIMS_eq {s : MediaSession} (h : Tracks cfg hist s) (env : Env) :
    s.sendOfferOrAnswerToIMS cfg env =
      if hist.any Signal.describes && hist.any Signal.ends then
        s.webAgent.setRemoteCandidates ++ [.sendPacketToSG .ims (packetToIMS cfg env s)]
      else
        [] := by
  rw [← h.arrived, ← h.ended]
  rfl

/-- What the trickling of candidates leads to: the candidates that are handed
to ICE and the packet to IMS. -/
def Action.isExchange : Action → Bool
  | .sendPacketToSG .ims _ => true
  | .setRemoteCandidates _ _ _ => true
  | _ => false

theorem toIMS?_of_not_isExchange {a : Action} (h : a.isExchange = false) : a.toIMS? = none := by
  cases a with
  | sendPacketToSG side m =>
    cases side with
    | web => rfl
    | ims => cases h
  | _ => rfl

theorem packetsToIMS_filter (acts : List Action) :
    packetsToIMS (acts.filter Action.isExchange) = packetsToIMS acts := by
  unfold packetsToIMS
  induction acts with
  | nil => rfl
  | cons a acts ih =>
    cases ha : a.isExchange with
    | true => rw [List.filter_cons_of_pos ha, List.filterMap_cons, List.filterMap_cons, ih]
    | false =>
      rw [List.filter_cons_of_neg (by simp [ha]), ih,
        List.filterMap_cons_none (toIMS?_of_not_isExchange ha)]

@[simp] theorem exchange_credentials (sdp : Bytes) :
    (WebAgent.credentials sdp).filter Action.isExchange = [] := by
  unfold WebAgent.credentials
  dsimp only
  split <;> rfl

@[simp] theorem exchange_sendDescriptionToWeb (env : Env) (sMsg : SessionMessage)
    (s : MediaSession) : (s.sendDescriptionToWeb env sMsg).filter Action.isExchange = [] := by
  have hcand : (sendCandidatesToWeb env.localCandidates sMsg).filter Action.isExchange = [] := by
    rw [List.filter_eq_nil_iff]
    intro a ha
    obtain ⟨text, -, rfl⟩ := List.mem_map.1 ha
    exact Bool.false_ne_true
  simp [sendDescriptionToWeb, hcand, Action.isExchange]

/-- The exchange part of what a handler does once it has read its message. -/
theorem exchange_reply {s : MediaSession} {e : Signal} (h : Tracks cfg (hist ++ [e]) s) :
    (reply cfg e.handler e.env e.message s).filter Action.isExchange =
      if isTrigger hist e then
        s.webAgent.setRemoteCandidates ++ [.sendPacketToSG .ims (packetToIMS cfg e.env s)]
      else
        [] := by
  have hsent : (s.sendOfferOrAnswerToIMS cfg e.env).filter Action.isExchange =
      if (hist ++ [e]).any Signal.describes && (hist ++ [e]).any Signal.ends then
        s.webAgent.setRemoteCandidates ++ [.sendPacketToSG .ims (packetToIMS cfg e.env s)]
      else
        [] := by
    rw [sendOfferOrAnswerToIMS_eq h]
    split <;> rfl
  unfold isTrigger
  rw [Bool.and_assoc]
  generalize ((hist ++ [e]).any Signal.describes && (hist ++ [e]).any Signal.ends) = both at *
  obtain ⟨handler, message, env⟩ := e
  cases handler with
  | offerFromWeb =>
    cases hsup : WebAgent.supportFlag message.roap.sdp <;>
      simp [reply, Signal.accepted, Signal.describes, Signal.ends, Signal.sdp, hsup, hsent]
  | answerFromWeb =>
    cases hsup : WebAgent.supportFlag message.roap.sdp <;>
      simp [reply, Signal.accepted, Signal.describes, Signal.ends, Signal.sdp, hsup, hsent]
  | offerFromIMS =>
    simp only [reply, Signal.accepted, Signal.describes, Signal.ends]
    split <;> simp
  | answerFromIMS =>
    simp only [reply, Signal.accepted, Signal.describes, Signal.ends]
    split <;> simp
  | candidateFromWeb =>
    by_cases hsdp : message.roap.sdp = [] <;>
      simp [reply, Signal.accepted, Signal.describes, Signal.ends, Signal.sdp, hsdp, hsent]

/-- The exchange part of one step of a session. -/
theorem exchange_step {st : MediaSession × Timer} (h : Tracks cfg hist st.1) (e : Signal) :
    ((session cfg self).step st e).2.filter Action.isExchange =
      if isTrigger hist e then
        (readMessage cfg e.handler e.env e.message st.1).webAgent.setRemoteCandidates ++
          [.sendPacketToSG .ims
            (packetToIMS cfg e.env (readMessage cfg e.handler e.env e.message st.1))]
      else
        [] := by
  have hreply := exchange_reply (tracks_read h e)
  cases hm : startsMedia e.handler e.message with
  | false => simpa only [session, handle_of_not_startsMedia hm] using hreply
  | true =>
    simp only [session, handle_of_startsMedia hm]
    rw [List.filter_append, hreply]
    simp [doTailingJobs, WebAgent.doTailingJobs, Action.isExchange]

/-- The packets to IMS of one step of a session. -/
theorem packetsToIMS_step {st : MediaSession × Timer} (h : Tracks cfg hist st.1) (e : Signal) :
    packetsToIMS ((session cfg self).step st e).2 =
      if isTrigger hist e then
        [packetToIMS cfg e.env (readMessage cfg e.handler e.env e.message st.1)]
      else
        [] := by
  rw [← packetsToIMS_filter, exchange_step h]
  split <;> rfl

end MediaGateway
