import MediaGateway.Gateway.Projection
import MediaGateway.Gateway.Timers
import MediaGateway.NiceCandidate
import MediaGateway.Wire.Outbound

/-!
# Calls do not disturb each other

`CallIsolated` compares how a call fares in a run of the gateway and how it fares
in a run on its own inputs alone: whether the process is still there, the entry in
the map with its session, and everything done for the call.

One process serves all calls, so a call goes on only as long as no other one ends
the process.  `Harmless` says of a step that it does not: jsoncpp accepts the
message, no timer is left behind for a session that is gone, a session is deleted
only after its tailing jobs, and nothing is written behind a buffer.
`call_isolated` is isolation for the runs whose steps are harmless and for the
calls whose messages set everything that is read.
-/

namespace MediaGateway

open Lib MediaSession

namespace Gateway

variable {cfg : Config} {env : Env} {text : Bytes} {sMsg : SessionMessage} {g : Gateway}
  {log : List Entry} {ports : Bool}

/-! ## How a call fares -/

/-- How the call `id` fares in a run: the view of it in the end, if the run ends
without a fault, and what was done for it until then. -/
def fate {ε : Type} (M : Machine Gateway ε Entry Fault) (cfg : Config) (ports : Bool) (id : Bytes)
    (es : List ε) : Option (Option SessionObj) × List Action :=
  ( (M.run (init cfg) es).toOption.map fun r => r.1.callView ports id
  , actionsOf id (M.emitted (init cfg) es) )

theorem fate_of_ok {ε : Type} {M : Machine Gateway ε Entry Fault} {id : Bytes} {es : List ε}
    (h : M.run (init cfg) es = .ok (g, log)) :
    fate M cfg ports id es = (some (g.callView ports id), actionsOf id log) := by
  rw [fate, h, Machine.emitted_of_ok h]
  rfl

/-- The call `id` fares as it does with its own inputs alone, whatever the stack
holds then. -/
def CallIsolated (cfg : Config) (ports : Bool) (id : Bytes) (es : List Event) : Prop :=
  ∀ ins, List.Forall₂ Input.SameOutside ((inputs cfg es).filter (Input.concerns cfg id)) ins →
    fate (calls cfg) cfg ports id ins = fate (gateway cfg) cfg ports id es

/-! ## Steps that leave the others alone -/

/-- A message does no harm in the session that it reaches. -/
structure HarmlessIn (cfg : Config) (env : Env) (text : Bytes) (sMsg : SessionMessage)
    (s : MediaSession) : Prop where
  /-- the words of a candidate fit the buffers of the scan -/
  candidate : sMsg.roap.type = RoapType.candidate → sMsg.roap.sdp ≠ [] →
    Candidate.Fits sMsg.roap.sdp
  /-- the key that is copied at an accepted answer stays inside the converter -/
  key : ∀ h ∈ handlerFor text sMsg.roap.type, startsMedia h sMsg = true →
    env.encryptStatus = .ok →
      (Base64.base64Decode (readMessage cfg h env sMsg s).webAgent.cryptoFromWeb).length ≤
        OBJECT_END
  /-- a session that is deleted has run its tailing jobs, which start the threads
  that its destructor cancels -/
  started : sMsg.roap.type = RoapType.shutdownR → s.timerID ≠ 0

instance (cfg : Config) (env : Env) (text : Bytes) (sMsg : SessionMessage) (s : MediaSession) :
    Decidable (HarmlessIn cfg env text sMsg s) :=
  decidable_of_iff
    ((sMsg.roap.type = RoapType.candidate → sMsg.roap.sdp ≠ [] →
        Candidate.Fits sMsg.roap.sdp) ∧
      (∀ h ∈ handlerFor text sMsg.roap.type, startsMedia h sMsg = true →
        env.encryptStatus = .ok →
          (Base64.base64Decode (readMessage cfg h env sMsg s).webAgent.cryptoFromWeb).length ≤
            OBJECT_END) ∧
      (sMsg.roap.type = RoapType.shutdownR → s.timerID ≠ 0))
    ⟨fun h => ⟨h.1, h.2.1, h.2.2⟩, fun h => ⟨h.candidate, h.key, h.started⟩⟩

/-- jsoncpp accepts the message, and it does no harm where it goes. -/
def HarmlessMessage (cfg : Config) (g : Gateway) : Event → Prop
  | .message text env =>
    match MessageParser.parserSessionMessage cfg.json env.mem text with
    | .error _ => False
    | .ok sMsg => ∀ s ∈ g.recipient sMsg, HarmlessIn cfg env text sMsg s
  | .expire _ _ => True

instance (cfg : Config) (g : Gateway) : (e : Event) → Decidable (HarmlessMessage cfg g e)
  | .message text env =>
    match hparse : MessageParser.parserSessionMessage cfg.json env.mem text with
    | .error _ => .isFalse (by simp only [HarmlessMessage, hparse, not_false_eq_true])
    | .ok sMsg =>
      decidable_of_iff (∀ s ∈ g.recipient sMsg, HarmlessIn cfg env text sMsg s)
        (by simp only [HarmlessMessage, hparse])
  | .expire _ _ => .isTrue trivial

/-- A step that neither ends the process nor writes behind a buffer: the timers
stay in order, every packet fits the buffer of `sendPacket`, and the message does
no harm. -/
structure Harmless (cfg : Config) (g : Gateway) (e : Event) : Prop where
  orderly : Orderly cfg g e
  packets : ∀ m ∈ outgoing cfg g e, textSize cfg m < BUFFER_SIZE
  message : HarmlessMessage cfg g e

instance (cfg : Config) (g : Gateway) (e : Event) : Decidable (Harmless cfg g e) :=
  decidable_of_iff
    (Orderly cfg g e ∧ (∀ m ∈ outgoing cfg g e, textSize cfg m < BUFFER_SIZE) ∧
      HarmlessMessage cfg g e)
    ⟨fun h => ⟨h.1, h.2.1, h.2.2⟩, fun h => ⟨h.orderly, h.packets, h.message⟩⟩

/-- A harmless step ends in no fault but that of the assertion. -/
theorem Armed.harmless_error {e : Event} (harmed : Armed g.heap g.timer log) (hinv : Inv cfg g log)
    (hharmless : HarmlessMessage cfg g e) {f : Fault} (h : (gateway cfg).step g e = .error f) :
    f = .assertUsed := by
  cases e with
  | message text env =>
    rcases hinv.receive_error h with hparse | ⟨hassert, -⟩
    · simp only [HarmlessMessage, hparse] at hharmless
    · exact hassert
  | expire n flow =>
    obtain ⟨g', hg'⟩ := harmed.fires n flow
    simp only [gateway, hg'] at h
    cases h

theorem meets_orderly {es : List Event}
    (hmeets : (gateway cfg).Meets (Harmless cfg) (init cfg) es) :
    (gateway cfg).Meets (Orderly cfg) (init cfg) es :=
  Machine.meets_imp (fun _ _ h => h.orderly) hmeets

/-- A run of harmless steps that passes the assertion goes on to its end. -/
theorem run_ok_of_harmless {es : List Event}
    (hmeets : (gateway cfg).Meets (Harmless cfg) (init cfg) es)
    (hassert : (gateway cfg).run (init cfg) es ≠ .error .assertUsed) :
    ∃ g log, (gateway cfg).run (init cfg) es = .ok (g, log) := by
  cases hrun : (gateway cfg).run (init cfg) es with
  | ok r => exact ⟨r.1, r.2, rfl⟩
  | error f =>
    obtain ⟨pre, e, post, g, log, rfl, hpre, hstep⟩ := Machine.run_error_iff.1 hrun
    obtain ⟨hbefore, hharmless⟩ := Machine.meets_left hmeets hpre
    have harmed := armed_run (meets_orderly hbefore) hpre
    obtain rfl := harmed.harmless_error (inv_run hpre) hharmless.message hstep
    exact absurd hrun hassert

/-- A check for `ReadsNoStack` that can be computed. -/
def setsRead (cfg : Config) (ports : Bool) : Input → Bool
  | .message text env =>
    MessageParser.setsMembers cfg.json text &&
      match MessageParser.parserSessionMessage cfg.json env.mem text with
      | .error _ => true
      | .ok sMsg =>
        !ports || (handlerFor text sMsg.roap.type).all fun h =>
          !h.readsIMS || ImsAgent.setsPorts sMsg.roap.sdp
  | .timeout _ _ => true

theorem readsNoStack_of_setsRead {i : Input} (h : setsRead cfg ports i = true) :
    i.ReadsNoStack cfg ports := by
  cases i with
  | timeout id flow => trivial
  | message text env =>
    obtain ⟨hmembers, hports⟩ := Bool.and_eq_true_iff.1 h
    refine ⟨fun mem => ?_, fun htrue sMsg handler hparse hh hims => ?_⟩
    · rw [MessageParser.parserSessionMessage_of_sets hmembers mem env.mem]
    · simpa [hparse, hh, hims, htrue] using hports

/-- An offer from IMS with both sections. -/
def offerVideo : SessionMessage :=
  SessionMessage.of RoapType.offer (bytes "call")
    (bytes "m=audio 1 RTP/AVP 8\r\nm=video 2 RTP/AVP 98\r\n")

/-- An offer from IMS for another call. -/
def offerOther : SessionMessage :=
  SessionMessage.of RoapType.offer (bytes "other") (bytes "m=audio 1 RTP/AVP 8\r\n")

/-- The answer of the other call. -/
def answerOther : SessionMessage :=
  SessionMessage.of RoapType.answer (bytes "other") answerCall.roap.sdp

/-- The messages of the two calls. -/
def twoCalls : Config :=
  Config.reading [offerVideo, answerCall, shutdownCall, offerOther, answerOther]

/-- Two calls whose messages and timers alternate until one of them is shut
down. -/
def alternating : List Event :=
  [ Event.of offerVideo, Event.of offerOther, Event.of answerCall, Event.of answerOther
  , .expire 0 { web := 5, ims := 5 }, .expire 1 { web := 7, ims := 7 }, Event.of shutdownCall ]

/-- The first call is set up; then the answer of the other one arrives twice, its
first timer stops its session and its second one checks the stopped session; then
the answer of the first call arrives. -/
def disturbed : List Event :=
  [ Event.of offerVideo, Event.of offerOther, Event.of answerOther, Event.of answerOther
  , .expire 0 { web := 0, ims := 0 }, .expire 1 { web := 5, ims := 5 }, Event.of answerCall ]

/-- An offer from IMS without the member `moreComingFlag`. -/
def openOffer : Json.Value :=
  .object
    [ (bytes "from", .string (bytes "alice"))
    , (bytes "roap", .object
        [ (bytes "offerSessionId", .string (bytes "call"))
        , (bytes "sdp", .object [(bytes "sdp", .string (bytes "m=audio 1 RTP/AVP 8\r\n"))])
        , (bytes "type", .int RoapType.offer) ])
    , (bytes "to", .string (bytes "bob"))
    , (bytes "type", .int 0) ]

theorem Input.sameOutside_refl (i : Input) : i.SameOutside i := by
  cases i with
  | message text env => exact .message text env env.mem env.aport env.vport
  | timeout id flow => exact .timeout id flow

end Gateway

end MediaGateway
