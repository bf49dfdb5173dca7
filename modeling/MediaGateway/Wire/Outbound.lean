import MediaGateway.Etcp
import MediaGateway.Gateway.Calls

/-!
# Messages to the signalling gateway

Every message that a handler sends is an inbound message, or a stored one, with
another SDP, and jsoncpp writes it anew: `outgoing` lists them for one event,
from the state before it.  `sendPacket` copies the text into a buffer of fixed
size and calls `send` once.

`Whole` is what the peer relies on, that each message is one whole frame or the
last thing that reaches it, and `whole_frames_iff` says for which messages and
which results of `send` it is so.
-/

namespace MediaGateway

open Lib MediaSession Etcp

/-! ## What is sent -/

namespace MediaSession

/-- The description for IMS, once the web side has sent everything. -/
def outgoingToIMS (cfg : Config) (env : Env) (s : MediaSession) : List SessionMessage :=
  if s.webOfferOrAnswerArrived && s.webAgent.lastCandidateArrived then
    [(if s.webCallerFlag then s.originalOffer else s.originalAnswer).withSdp
      (s.imsAgent.createSdpToIMS cfg.codec env.audioPort env.videoPort s.sessionType)]
  else
    []

/-- The description for the web and three times the gathered candidates. -/
def outgoingToWeb (env : Env) (sMsg : SessionMessage) (s : MediaSession) : List SessionMessage :=
  let candidates := env.localCandidates.map fun text => sMsg.withSdpType text RoapType.candidate
  sMsg.withSdp (s.webAgent.createSdpToWeb env.ufrag env.pwd s.sessionType) ::
    (candidates ++ candidates ++ candidates)

/-- The messages that a handler sends. -/
def outgoing (cfg : Config) (h : Handler) (env : Env) (sMsg : SessionMessage)
    (s : MediaSession) : List SessionMessage :=
  let s := readMessage cfg h env sMsg s
  match h with
  | .offerFromWeb | .answerFromWeb =>
    if WebAgent.supportFlag sMsg.roap.sdp then s.outgoingToIMS cfg env else []
  | .offerFromIMS | .answerFromIMS =>
    if Sdp.audioSupport sMsg.roap.sdp then s.outgoingToWeb env sMsg else []
  | .candidateFromWeb => if sMsg.roap.sdp = [] then s.outgoingToIMS cfg env else []

theorem packets_credentials (sdp : Bytes) : packets (WebAgent.credentials sdp) = [] := by
  simp only [WebAgent.credentials]
  split <;> rfl

theorem packets_sendOfferOrAnswerToIMS (cfg : Config) (env : Env) (s : MediaSession) :
    packets (s.sendOfferOrAnswerToIMS cfg env) = s.outgoingToIMS cfg env := by
  simp only [sendOfferOrAnswerToIMS, outgoingToIMS]
  split <;> rfl

theorem packets_sendDescriptionToWeb (env : Env) (sMsg : SessionMessage) (s : MediaSession) :
    packets (s.sendDescriptionToWeb env sMsg) = s.outgoingToWeb env sMsg := by
  have hcandidates : ∀ texts : List Bytes, packets (sendCandidatesToWeb texts sMsg) =
      texts.map fun text => sMsg.withSdpType text RoapType.candidate := by
    intro texts
    rw [sendCandidatesToWeb, packets, List.filterMap_map]
    exact congrFun List.filterMap_eq_map texts
  simp only [sendDescriptionToWeb, outgoingToWeb, ← hcandidates, packets, List.filterMap_cons,
    List.filterMap_append, Action.packet?]

/-- What a handler sends. -/
theorem packets_handle (cfg : Config) (h : Handler) (env : Env) (self : Nat)
    (sMsg : SessionMessage) (s : MediaSession) (t : Timer) :
    packets (handle cfg h env self sMsg s t).2.2 = outgoing cfg h env sMsg s := by
  have hreply : packets (reply cfg h env sMsg (readMessage cfg h env sMsg s)) =
      outgoing cfg h env sMsg s := by
    cases h with
    | offerFromWeb | answerFromWeb =>
      simp only [reply, outgoing, packets_append, packets_credentials, List.nil_append]
      split
      · exact packets_sendOfferOrAnswerToIMS cfg env _
      · rfl
    | offerFromIMS | answerFromIMS =>
      simp only [reply, outgoing]
      split
      · exact packets_sendDescriptionToWeb env sMsg _
      · rfl
    | candidateFromWeb =>
      simp only [reply, outgoing]
      split
      · exact packets_sendOfferOrAnswerToIMS cfg env _
      · rfl
  cases hm : startsMedia h sMsg with
  | false =>
    rw [handle_of_not_startsMedia hm]
    exact hreply
  | true =>
    rw [handle_of_startsMedia hm, packets_append, hreply]
    exact List.append_nil _

end MediaSession

namespace Gateway

variable {cfg : Config} {env : Env} {text : Bytes} {sMsg : SessionMessage} {used : Bool}
  {g g' : Gateway} {log done : List Entry}

/-- The messages among what was done. -/
def sentMessages (log : List Entry) : List SessionMessage :=
  log.filterMap fun e =>
    match e with
    | .did _ _ act => act.packet?
    | .handled _ _ _ => none

@[simp] theorem sentMessages_append (xs ys : List Entry) :
    sentMessages (xs ++ ys) = sentMessages xs ++ sentMessages ys :=
  List.filterMap_append ..

/-- The running session that a message is for. -/
def recipient (sMsg : SessionMessage) (g : Gateway) : Option MediaSession :=
  let offerSessionID := sMsg.roap.offerSessionID
  if offerSessionID = [] then
    none
  else if sMsg.roap.type = RoapType.offer then
    match g.sessions offerSessionID, g.heap g.spare with
    | none, some (.running s) => some { s with offerSessionID }
    | _, _ => none
  else
    match g.lookup offerSessionID with
    | some (.running s) => some s
    | _ => none

/-- The messages that an event makes the gateway send. -/
def outgoing (cfg : Config) (g : Gateway) : Event → List SessionMessage
  | .message text env =>
    match MessageParser.parserSessionMessage cfg.json env.mem text with
    | .error _ => []
    | .ok sMsg =>
      match g.recipient sMsg, handlerFor text sMsg.roap.type with
      | some s, some h => MediaSession.outgoing cfg h env sMsg s
      | _, _ => []
  | .expire _ _ => []

theorem sentMessages_entries (cfg : Config) (h : Handler) (env : Env) (a : Nat)
    (sMsg : SessionMessage) (s : MediaSession) (g : Gateway) :
    sentMessages (g.entries cfg h env a sMsg s) = MediaSession.outgoing cfg h env sMsg s := by
  rw [← packets_handle cfg h env a sMsg s g.timer, sentMessages, entries,
    List.filterMap_cons_none rfl, List.filterMap_map]
  rfl

theorem sentMessages_received
    (hparse : MessageParser.parserSessionMessage cfg.json env.mem text = .ok sMsg)
    (h : Received cfg env text sMsg g used g' done) :
    sentMessages done = outgoing cfg g (.message text env) := by
  simp only [outgoing, hparse]
  cases h with
  | ignored hnone =>
    rcases hnone with hid | ⟨htype, hmap⟩
    · simp only [recipient, if_pos hid]
      rfl
    · simp only [recipient, if_neg htype, lookup_of_unmapped hmap, ite_self]
      rfl
  | offered hid htype hnew hspare hh =>
    simp only [recipient, if_neg hid, if_pos htype, hnew, hspare, hh]
    exact sentMessages_entries ..
  | erased hid htype hmap hheap =>
    simp only [recipient, if_neg hid, if_neg htype, lookup_of_map hmap, hheap]
    rfl
  | passed hid htype hmap hheap hh =>
    simp only [recipient, if_neg hid, if_neg htype, lookup_of_map hmap, hheap, hh]
    exact sentMessages_entries ..
  | deleted hid htype hmap hheap =>
    rw [htype, handlerFor_shutdown]
    cases g.recipient sMsg <;> rfl
  | noted hid htype hh hmap hheap =>
    rw [hh]
    cases g.recipient sMsg <;> rfl

/-- What a run sends is what its events make the gateway send. -/
theorem sentMessages_run {es : List Event}
    (h : (gateway cfg).run (init cfg) es = .ok (g, log)) :
    sentMessages log = (gateway cfg).observe (outgoing cfg) (init cfg) es := by
  induction es using List.reverseRecOn generalizing g log with
  | nil =>
    obtain ⟨rfl, rfl⟩ := Machine.run_nil_ok.1 h
    rfl
  | append_singleton es e ih =>
    obtain ⟨g₁, log₁, done, hrun, hstep, rfl⟩ := Machine.run_snoc_ok.1 h
    rw [Machine.observe_snoc hrun, sentMessages_append, ih hrun]
    congr 1
    rcases gateway_step_ok hstep with
        ⟨text, env, sMsg, used, g₂, rfl, hparse, hreceived, -⟩ | ⟨n, flow, rfl, rfl, -⟩
    · exact sentMessages_received hparse hreceived
    · rfl

end Gateway

/-! ## What reaches the stream -/

namespace Etcp

/-- Each message fits into `packet.buf` and has reached the stream as one whole
frame, or nothing reaches it any more. -/
def Whole (trace : List (Bytes × Sent)) : Prop :=
  ∀ before msg sent after, trace = before ++ (msg, sent) :: after →
    Bytes.cStr msg ≠ [] ∧ (Bytes.cStr msg).length < BUFFER_SIZE ∧
      (sent = .wrote (Framing.frame (Bytes.cStr msg)) ∨ ∀ later ∈ after, later.2.bytes = [])

/-- Texts of these sizes fit, and `send` accepts all of each but of the last one
that it accepts anything of. -/
def Complete (sends : Nat → Send) : Nat → List Nat → Prop
  | _, [] => True
  | i, n :: rest =>
    (1 ≤ n ∧ n < BUFFER_SIZE) ∧
      match sends i with
      | .fails => True
      | .accepts k =>
        (n + 4 ≤ k + 1 ∨ rest = [] ∨ sends (i + 1) = .fails) ∧ Complete sends (i + 1) rest

instance decidableComplete (sends : Nat → Send) :
    (i : Nat) → (sizes : List Nat) → Decidable (Complete sends i sizes)
  | _, [] => .isTrue trivial
  | i, n :: rest =>
    match hi : sends i with
    | .fails =>
      decidable_of_iff (1 ≤ n ∧ n < BUFFER_SIZE) (by simp only [Complete, hi, and_true])
    | .accepts k =>
      have := decidableComplete sends (i + 1) rest
      decidable_of_iff
        ((1 ≤ n ∧ n < BUFFER_SIZE) ∧
          (n + 4 ≤ k + 1 ∨ rest = [] ∨ sends (i + 1) = .fails) ∧ Complete sends (i + 1) rest)
        (by simp only [Complete, hi])

theorem whole_cons {msg : Bytes} {sent : Sent} {rest : List (Bytes × Sent)} :
    Whole ((msg, sent) :: rest) ↔
      (Bytes.cStr msg ≠ [] ∧ (Bytes.cStr msg).length < BUFFER_SIZE ∧
        (sent = .wrote (Framing.frame (Bytes.cStr msg)) ∨ ∀ later ∈ rest, later.2.bytes = [])) ∧
        Whole rest := by
  constructor
  · intro h
    refine ⟨h [] msg sent rest rfl, fun before msg' sent' after heq => ?_⟩
    exact h ((msg, sent) :: before) msg' sent' after (by rw [heq, List.cons_append])
  · intro hboth before msg' sent' after heq
    rcases hboth with ⟨hfirst, hrest⟩
    cases before with
    | nil =>
      obtain ⟨hpair, rfl⟩ := List.cons.inj heq
      obtain ⟨rfl, rfl⟩ := Prod.mk.inj hpair
      exact hfirst
    | cons x before =>
      obtain ⟨-, htail⟩ := List.cons.inj heq
      exact hrest before msg' sent' after htail

theorem whole_nil : Whole [] := by
  intro before msg sent after h
  simp at h

/-- When everything fits, nothing reaches the stream only if nothing is sent or
the first call of `send` fails. -/
theorem silent_iff {sends : Nat → Send} {i : Nat} {msgs : List Bytes}
    (hfits : ∀ msg ∈ msgs.head?, 1 ≤ (Bytes.cStr msg).length ∧
      (Bytes.cStr msg).length < BUFFER_SIZE) :
    (∀ later ∈ sendAll sends i msgs, later.2.bytes = []) ↔ msgs = [] ∨ sends i = .fails := by
  cases msgs with
  | nil => simp [sendAll]
  | cons msg rest =>
    obtain ⟨hpos, hlt⟩ := hfits msg rfl
    have hsend := sendPacketToSG_of_fits hpos hlt (sends i)
    cases hi : sends i with
    | fails =>
      rw [hi] at hsend
      simp [sendAll, hi, hsend, Sent.bytes]
    | accepts k =>
      rw [hi] at hsend
      refine iff_of_false (fun hsilent => ?_) (by simp)
      rw [sendAll_of_wrote (by rw [hi]; exact hsend)] at hsilent
      have hnone := hsilent _ List.mem_cons_self
      simp [Sent.bytes, Framing.frame, Framing.header] at hnone

/-- `send` takes the whole frame. -/
theorem take_frame_iff {payload : Bytes} {k : Nat} :
    Sent.wrote ((Framing.frame payload).take (k + 1)) = .wrote (Framing.frame payload) ↔
      payload.length + 4 ≤ k + 1 := by
  rw [Sent.wrote.injEq, List.take_eq_self_iff, Framing.length_frame]

/-- The first message of a list of which each is whole fits. -/
theorem Whole.fits {sends : Nat → Send} {i : Nat} {msgs : List Bytes}
    (h : Whole (sendAll sends i msgs)) : ∀ msg ∈ msgs.head?,
      1 ≤ (Bytes.cStr msg).length ∧ (Bytes.cStr msg).length < BUFFER_SIZE := by
  intro msg hmsg
  cases msgs with
  | nil => cases hmsg
  | cons m rest =>
    obtain rfl : m = msg := by simpa using hmsg
    have hfirst : ∃ sent after, sendAll sends i (m :: rest) = (m, sent) :: after := by
      simp only [sendAll]
      split <;> exact ⟨_, _, rfl⟩
    obtain ⟨sent, after, heq⟩ := hfirst
    rw [heq] at h
    obtain ⟨⟨hne, hlt, -⟩, -⟩ := whole_cons.1 h
    exact ⟨List.length_pos_iff.2 hne, hlt⟩

/-- The messages reach the stream whole exactly when they fit and `send` takes
them. -/
theorem whole_sendAll_iff (sends : Nat → Send) (i : Nat) (msgs : List Bytes) :
    Whole (sendAll sends i msgs) ↔
      Complete sends i (msgs.map fun msg => (Bytes.cStr msg).length) := by
  induction msgs generalizing i with
  | nil => exact iff_of_true whole_nil trivial
  | cons msg rest ih =>
    by_cases hfits : 1 ≤ (Bytes.cStr msg).length ∧ (Bytes.cStr msg).length < BUFFER_SIZE
    · have hne : Bytes.cStr msg ≠ [] := List.length_pos_iff.1 hfits.1
      have hsend := sendPacketToSG_of_fits hfits.1 hfits.2 (sends i)
      rw [List.map_cons]
      cases hi : sends i with
      | fails =>
        rw [hi] at hsend
        simp only [sendAll, hi, hsend, Complete]
        refine iff_of_true (whole_cons.2 ⟨⟨hne, hfits.2, .inr ?_⟩, whole_nil⟩) ⟨hfits, trivial⟩
        simp
      | accepts k =>
        rw [hi] at hsend
        rw [sendAll_of_wrote (by rw [hi]; exact hsend), whole_cons, take_frame_iff]
        simp only [Complete, hi, List.map_eq_nil_iff]
        constructor
        · intro hall
          rcases hall with ⟨⟨-, -, hrest⟩, hwhole⟩
          rw [silent_iff hwhole.fits] at hrest
          exact ⟨hfits, hrest, (ih (i + 1)).1 hwhole⟩
        · intro hall
          rcases hall with ⟨-, hrest, hcomplete⟩
          have hwhole := (ih (i + 1)).2 hcomplete
          refine ⟨⟨hne, hfits.2, ?_⟩, hwhole⟩
          rw [silent_iff hwhole.fits]
          exact hrest
    · refine iff_of_false (fun h => hfits (h.fits msg rfl)) fun h => hfits ?_
      exact h.1

end Etcp

/-! ## When the stream stays whole -/

namespace Gateway

/-- How many bytes jsoncpp writes for a message. -/
def textSize (cfg : Config) (m : SessionMessage) : Nat :=
  (Bytes.cStr (MessageParser.packageSessionMessage cfg.json m)).length

/-- The calls of `sendPacketToSG` that a run with this log makes, `sends i` being
how the `i`-th call of `send` ends. -/
def outbound (cfg : Config) (sends : Nat → Send) (log : List Entry) : List (Bytes × Sent) :=
  sendAll sends 0 ((sentMessages log).map (MessageParser.packageSessionMessage cfg.json))

theorem whole_outbound_iff (cfg : Config) (sends : Nat → Send) (log : List Entry) :
    Whole (outbound cfg sends log) ↔
      Complete sends 0 ((sentMessages log).map (textSize cfg)) := by
  rw [outbound, whole_sendAll_iff, List.map_map]
  rfl

/-- Every message of a run is one whole frame of the stream, or the last thing
that reaches it, exactly when each message that the run makes the gateway write
has at least one byte and fewer than the buffer, and `send` accepts all of each
but of the last one that it accepts anything of. -/
theorem whole_frames_iff {cfg : Config} (sends : Nat → Send) {es : List Event} {g : Gateway}
    {log : List Entry} (h : (gateway cfg).run (init cfg) es = .ok (g, log)) :
    Whole (outbound cfg sends log) ↔
      Complete sends 0
        (((gateway cfg).observe (outgoing cfg) (init cfg) es).map (textSize cfg)) := by
  rw [whole_outbound_iff, sentMessages_run h]

/-! ### An offer with a sender of any length -/

/-- An offer from IMS whose `from` has `n` bytes. -/
def offerFrom (n : Nat) : SessionMessage where
  type := 0
  from_ := List.replicate n 97
  to_ := bytes "bob"
  roap := { offerCall.roap with label := 0, error := 0, msgSize := 0 }

/-- The text in which it arrives. -/
def offerText (n : Nat) : Bytes := Json.fastWrite (MessageParser.messageValue (offerFrom n))

theorem parse_offerText (n : Nat) (mem : Uninit) :
    MessageParser.parserSessionMessage (Config.reading [offerFrom n]).json mem (offerText n) =
      .ok (offerFrom n) := by
  have hparse : (Config.reading [offerFrom n]).json.parse (offerText n) =
      some (MessageParser.messageValue (offerFrom n)) :=
    JsonLib.parse_over ..
  rw [MessageParser.parserSessionMessage, hparse]
  rfl

theorem text_offerFrom (n : Nat) (sdp : Bytes) :
    Json.fastWrite (MessageParser.messageValue ((offerFrom n).withSdp sdp)) =
      bytes "\x7b\"from\":\"" ++
        (List.replicate n 97 ++ Json.afterFrom ((offerFrom 0).withSdp sdp)) := by
  have hplain : Json.escape (List.replicate n 97) = List.replicate n 97 :=
    Json.escape_of_plain fun c hc => by
      rw [List.eq_of_mem_replicate hc]
      decide
  rw [Json.fastWrite_messageValue, ← hplain]
  rfl

theorem offerText_eq (n : Nat) :
    offerText n =
      bytes "\x7b\"from\":\"" ++ (List.replicate n 97 ++ Json.afterFrom (offerFrom 0)) :=
  text_offerFrom n offerCall.roap.sdp

theorem length_offerText (n : Nat) : (offerText n).length = n + 245 := by
  have hrest : (Json.afterFrom (offerFrom 0)).length = 236 := by decide +kernel
  rw [offerText_eq, List.length_append, List.length_append, List.length_replicate, hrest,
    show (bytes "\x7b\"from\":\"").length = 9 by decide]
  omega

theorem isFromBrowser_offerText (n : Nat) : isFromBrowser (offerText (n + 1)) = false := by
  have hno : ∀ pat : Bytes, (97 : UInt8) ∉ pat → ¬ pat <:+: bytes "\x7b\"from\":\"" →
      ¬ pat <:+: Json.afterFrom (offerFrom 0) → Bytes.contains (offerText (n + 1)) pat = false := by
    intro pat hc hpre hpost
    rw [← Bool.not_eq_true, Bytes.contains_iff]
    intro hex
    rcases hex with ⟨a, b, heq⟩
    have hin := Bytes.infix_of_append_replicate hc n ⟨a, b, heq.symm.trans (offerText_eq (n + 1))⟩
    exact hin.elim hpre hpost
  rw [isFromBrowser, hno _ (by decide) (by decide +kernel) (by decide +kernel),
    hno _ (by decide) (by decide +kernel) (by decide +kernel)]
  rfl

theorem handlerFor_offerText (n : Nat) :
    handlerFor (offerText (n + 1)) (offerFrom (n + 1)).roap.type = some .offerFromIMS := by
  rw [show (offerFrom (n + 1)).roap.type = RoapType.offer from rfl, handlerFor_offer,
    isFromBrowser_offerText]
  rfl

/-- The SDP that the gateway makes for the web. -/
def webSdp : Bytes :=
  WebAgent.fresh.createSdpToWeb (bytes "ufrag") (bytes "pwd") SessionType.AUDIO

theorem textSize_offerFrom (cfg : Config) (hwrite : cfg.json.write = Json.fastWrite) (n : Nat) :
    textSize cfg ((offerFrom n).withSdp webSdp) = n + 742 := by
  have hnul : (0 : UInt8) ∉ List.replicate n 97 := fun h =>
    absurd (List.eq_of_mem_replicate h) (by decide)
  have hrest : (Bytes.cStr (Json.afterFrom ((offerFrom 0).withSdp webSdp))).length = 733 := by
    decide +kernel
  rw [textSize, MessageParser.packageSessionMessage, hwrite, text_offerFrom,
    Bytes.cStr_append (by decide), Bytes.cStr_append hnul, List.length_append, List.length_append,
    List.length_replicate, hrest, show (bytes "\x7b\"from\":\"").length = 9 by decide]
  omega

/-- The arrival of the offer while ICE has gathered `candidates`. -/
def offerEvent (n : Nat) (candidates : List Bytes) : Event :=
  .message (offerText n) { Env.plain with localCandidates := candidates }

theorem outgoing_offerEvent (n : Nat) (candidates : List Bytes) :
    outgoing (Config.reading [offerFrom (n + 1)]) (init (Config.reading [offerFrom (n + 1)]))
        (offerEvent (n + 1) candidates) =
      let sent := candidates.map fun text =>
        (offerFrom (n + 1)).withSdpType text RoapType.candidate
      (offerFrom (n + 1)).withSdp webSdp :: (sent ++ sent ++ sent) := by
  simp only [outgoing, offerEvent, parse_offerText, handlerFor_offerText]
  rfl

theorem run_offerEvent (n : Nat) (candidates : List Bytes) :
    ∃ g log,
      (gateway (Config.reading [offerFrom (n + 1)])).run
        (init (Config.reading [offerFrom (n + 1)])) [offerEvent (n + 1) candidates] =
          .ok (g, log) := by
  obtain ⟨g, log, hstep⟩ : ∃ g log,
      (init (Config.reading [offerFrom (n + 1)])).receive (Config.reading [offerFrom (n + 1)])
        { Env.plain with localCandidates := candidates } (offerText (n + 1)) = .ok (g, log) :=
    ⟨_, _, receive_ok_iff.2 ⟨offerFrom (n + 1), true, _, parse_offerText (n + 1) Env.plain.mem,
      .offered (show bytes "call" ≠ [] by decide) rfl rfl rfl (handlerFor_offerText n), rfl⟩⟩
  exact ⟨g, log, Machine.run_cons_ok.2 ⟨g, log, [], hstep, rfl, (List.append_nil log).symm⟩⟩

/-- An offer whose answer to the web is sent as a whole. -/
theorem whole_frames_offer :
    ∃ g log,
      (gateway (Config.reading [offerFrom 5])).run (init (Config.reading [offerFrom 5]))
          [offerEvent 5 []] = .ok (g, log) ∧
        Whole (outbound (Config.reading [offerFrom 5]) (fun _ => .accepts 2000) log) := by
  obtain ⟨g, log, hrun⟩ := run_offerEvent 4 []
  refine ⟨g, log, hrun, (whole_frames_iff _ hrun).2 ?_⟩
  rw [Machine.observe_singleton, outgoing_offerEvent]
  simp only [List.map_nil, List.append_nil, List.map_cons,
    textSize_offerFrom (Config.reading [offerFrom 5]) rfl]
  decide

/-- A message of at most `BUFFER_SIZE` bytes that is longer with the new SDP, and
an offer after which `send` accepts one byte of each message. -/
theorem not_whole_frames :
    (∃ g log,
      (offerText 9950).length ≤ BUFFER_SIZE ∧
        (gateway (Config.reading [offerFrom 9950])).run (init (Config.reading [offerFrom 9950]))
            [offerEvent 9950 []] = .ok (g, log) ∧
          ¬ Whole (outbound (Config.reading [offerFrom 9950]) (fun _ => .accepts 20000) log)) ∧
      ∃ g log,
        (offerText 5).length ≤ BUFFER_SIZE ∧
          (gateway (Config.reading [offerFrom 5])).run (init (Config.reading [offerFrom 5]))
              [offerEvent 5 [bytes "candidate"]] = .ok (g, log) ∧
            ¬ Whole (outbound (Config.reading [offerFrom 5]) (fun _ => .accepts 0) log) := by
  constructor
  · obtain ⟨g, log, hrun⟩ := run_offerEvent 9949 []
    refine ⟨g, log, by rw [length_offerText]; decide, hrun, ?_⟩
    rw [whole_outbound_iff, sentMessages_run hrun, Machine.observe_singleton,
      outgoing_offerEvent, List.map_cons,
      textSize_offerFrom (Config.reading [offerFrom 9950]) rfl 9950]
    intro hall
    rcases hall with ⟨⟨-, hlt⟩, -⟩
    exact absurd hlt (by decide)
  · obtain ⟨g, log, hrun⟩ := run_offerEvent 4 [bytes "candidate"]
    refine ⟨g, log, by rw [length_offerText]; decide, hrun, ?_⟩
    rw [whole_outbound_iff, sentMessages_run hrun, Machine.observe_singleton,
      outgoing_offerEvent, List.map_cons,
      textSize_offerFrom (Config.reading [offerFrom 5]) rfl 5]
    intro hcases
    rcases hcases with ⟨-, haccepted | hlast | hfails, -⟩
    · omega
    · cases hlast
    · cases hfails

end Gateway

end MediaGateway
