import MediaGateway.Gateway.Calls
import Mathlib.Data.List.Forall2

/-!
# One call among others

`calls` is the gateway with its timers as inputs: a timeout names the call whose
session is checked.  A run of the gateway and the run of `calls` on the inputs of
one call alone agree on that call (`run_view`): its entry in the map, its session
and everything done for it.

They agree up to the number of the session object and the number of the timer.
`anonymous` forgets the second one and keeps whether a timer was set.

The stack belongs to all calls.  What a handler finds in a member of the message
that nothing sets, or in `aport` and `vport`, was left there by other messages, so
the run of the call alone may find anything there (`Input.SameOutside`).  A
missing port shows in the destinations of the IMS agent and nowhere else, so
`anonymous` can forget the ports as well.
-/

namespace MediaGateway

open Lib MediaSession

/-! ## What the stack holds -/

namespace ImsAgent

/-- The port behind `label` is read from the text. -/
def setsPort (sdp label : Bytes) : Bool :=
  match Bytes.find sdp label 0 with
  | none => false
  | some p => (Bytes.find sdp (bytes " ") (p + label.length)).isSome

/-- Both ports are read from the text. -/
def setsPorts (sdp : Bytes) : Bool :=
  setsPort sdp (bytes "m=audio ") && setsPort sdp (bytes "m=video ")

theorem sectionPort_of_setsPort {sdp label : Bytes} (h : setsPort sdp label = true)
    (old old' : UInt16) : sectionPort sdp label old = sectionPort sdp label old' := by
  unfold setsPort at h
  unfold sectionPort
  cases hlabel : Bytes.find sdp label 0 with
  | none =>
    rw [hlabel] at h
    cases h
  | some p =>
    simp only [hlabel] at h ⊢
    obtain ⟨endPos, hend⟩ := Option.isSome_iff_exists.1 h
    rw [hend]

/-- The agent, without the ports of its destinations unless they are looked
at. -/
def seen (ports : Bool) (a : ImsAgent) : ImsAgent :=
  if ports then
    a
  else
    { a with
      audioDestination := (a.audioDestination.1, 0)
      videoDestination := (a.videoDestination.1, 0) }

@[simp] theorem seen_seen (ports : Bool) (a : ImsAgent) :
    (a.seen ports).seen ports = a.seen ports := by
  cases ports <;> rfl

/-- The locals of `handleSdpFromIMS` show in the ports alone, and not even there
when the text sets both. -/
theorem handleSdpFromIMS_seen (codec : SIPCodec) {ports : Bool} {sdp : Bytes} (a : ImsAgent)
    (aport vport aport' vport' : UInt16) (h : ports = true → setsPorts sdp = true) :
    ((a.seen ports).handleSdpFromIMS codec aport' vport' sdp).1.seen ports =
      (a.handleSdpFromIMS codec aport vport sdp).1.seen ports := by
  cases ports with
  | false => rfl
  | true =>
    obtain ⟨haudio, hvideo⟩ := Bool.and_eq_true_iff.1 (h rfl)
    simp only [seen, if_true, handleSdpFromIMS, getRemoteIpAndPort,
      sectionPort_of_setsPort haudio aport' aport, sectionPort_of_setsPort hvideo vport' vport]

end ImsAgent

/-- What the handlers read of a message: of one that is not stored, the two other
members that nothing initialises are never looked at. -/
def SessionMessage.read (m : SessionMessage) : SessionMessage :=
  if m.roap.type = RoapType.offer ∨ m.roap.type = RoapType.answer then
    m
  else
    { m with type := 0, roap := { m.roap with moreComingFlag := false } }

/-- Two messages of which the same is read. -/
structure SessionMessage.ReadAlike (m' m : SessionMessage) : Prop where
  type : m'.roap.type = m.roap.type
  offerSessionID : m'.roap.offerSessionID = m.roap.offerSessionID
  sdp : m'.roap.sdp = m.roap.sdp
  stored : m.roap.type = RoapType.offer ∨ m.roap.type = RoapType.answer → m' = m

theorem SessionMessage.readAlike_of_read {m m' : SessionMessage} (h : m'.read = m.read) :
    m'.ReadAlike m := by
  have hmembers : ∀ m : SessionMessage, m.read.roap.type = m.roap.type ∧
      m.read.roap.offerSessionID = m.roap.offerSessionID ∧ m.read.roap.sdp = m.roap.sdp := by
    intro m
    unfold SessionMessage.read
    split <;> exact ⟨rfl, rfl, rfl⟩
  obtain ⟨htype, hid, hsdp⟩ := hmembers m
  rw [← h] at htype hid hsdp
  obtain ⟨htype', hid', hsdp'⟩ := hmembers m'
  have hsame : m'.roap.type = m.roap.type := htype'.symm.trans htype
  refine ⟨hsame, hid'.symm.trans hid, hsdp'.symm.trans hsdp, fun hstored => ?_⟩
  rwa [SessionMessage.read, SessionMessage.read, hsame, if_pos hstored, if_pos hstored] at h

/-- Two inputs that differ at most in what the stack held. -/
inductive Input.SameOutside : Input → Input → Prop
  | message (text : Bytes) (env : Env) (mem : Uninit) (aport vport : UInt16) :
      SameOutside (.message text env) (.message text { env with mem, aport, vport })
  | timeout (offerSessionID : Bytes) (flow : Flow) :
      SameOutside (.timeout offerSessionID flow) (.timeout offerSessionID flow)

/-! ## Up to the timer number -/

/-- Whether a timer was set, by its number. -/
def Timer.anonymous (timerID : Nat) : Nat := if timerID = 0 then 0 else 1

@[simp] theorem Timer.anonymous_anonymous (timerID : Nat) :
    anonymous (anonymous timerID) = anonymous timerID := by
  unfold anonymous
  split <;> rfl

theorem Timer.anonymous_setTimer (self : Nat) (t : Timer) : anonymous (t.setTimer self).1 = 1 :=
  if_neg (Timer.setTimer_fst_ne_zero self t)

namespace MediaSession

/-- The handler calls `handleSdpFromIMS`. -/
def Handler.readsIMS : Handler → Bool
  | .offerFromIMS => true
  | .answerFromIMS => true
  | _ => false

/-- The session without the number of its timer and, unless they are looked at,
without the ports of its destinations. -/
def anonymous (ports : Bool) (s : MediaSession) : MediaSession :=
  { s with
    timerID := Timer.anonymous s.timerID
    imsAgent := s.imsAgent.seen ports }

section

variable {ports : Bool} {h : Handler} {sMsg : SessionMessage}

@[simp] theorem anonymous_anonymous (s : MediaSession) :
    (s.anonymous ports).anonymous ports = s.anonymous ports := by
  simp only [anonymous, ImsAgent.seen_seen, Timer.anonymous_anonymous]

theorem readMessage_anonymous (cfg : Config) (env : Env) (mem : Uninit) (aport vport : UInt16)
    (s : MediaSession)
    (hports : ports = true → h.readsIMS = true → ImsAgent.setsPorts sMsg.roap.sdp = true) :
    (readMessage cfg h { env with mem, aport, vport } sMsg (s.anonymous ports)).anonymous ports =
      (readMessage cfg h env sMsg s).anonymous ports := by
  have hagent : h.readsIMS = true →
      ((s.imsAgent.seen ports).handleSdpFromIMS cfg.codec aport vport sMsg.roap.sdp).1.seen ports =
        (s.imsAgent.handleSdpFromIMS cfg.codec env.aport env.vport sMsg.roap.sdp).1.seen ports :=
    fun hims => ImsAgent.handleSdpFromIMS_seen cfg.codec s.imsAgent env.aport env.vport aport vport
      fun htrue => hports htrue hims
  cases h with
  | offerFromWeb => exact anonymous_anonymous (readMessage cfg .offerFromWeb env sMsg s)
  | answerFromWeb => exact anonymous_anonymous (readMessage cfg .answerFromWeb env sMsg s)
  | candidateFromWeb => exact anonymous_anonymous (readMessage cfg .candidateFromWeb env sMsg s)
  | offerFromIMS =>
    simp only [readMessage, readImsSdp, anonymous, hagent rfl, Timer.anonymous_anonymous]
    rfl
  | answerFromIMS =>
    simp only [readMessage, readImsSdp, anonymous, hagent rfl, Timer.anonymous_anonymous]
    rfl

/-- What a handler replies with depends on what is left of the session alone. -/
theorem reply_congr (cfg : Config) (env : Env) (mem : Uninit) (aport vport : UInt16)
    {s s' : MediaSession} (hs : s'.anonymous ports = s.anonymous ports) :
    reply cfg h { env with mem, aport, vport } sMsg s' = reply cfg h env sMsg s := by
  have hreply : ∀ (env : Env) (s : MediaSession),
      reply cfg h env sMsg s = reply cfg h env sMsg (s.anonymous ports) := by
    intro env s
    cases ports <;> cases h <;> rfl
  rw [hreply _ s', hs, hreply env s]
  cases h <;> rfl

/-- The tailing jobs, in terms of what is left of the session. -/
theorem doTailingJobs_anonymous (ports : Bool) (env : Env) (self : Nat) (s : MediaSession)
    (t : Timer) :
    (s.doTailingJobs env self t).1.anonymous ports =
        { s.anonymous ports with
          webAgent :=
            ((s.anonymous ports).webAgent.doTailingJobs env.encryptStatus env.decryptStatus).1
          timerID := 1 } ∧
      (s.doTailingJobs env self t).2.2 =
        .doTailingJobs ::
          ((s.anonymous ports).webAgent.doTailingJobs env.encryptStatus env.decryptStatus).2 := by
  refine ⟨?_, rfl⟩
  simp only [doTailingJobs, anonymous, Timer.anonymous_setTimer]

/-- A handler does not look at timers, nor at the number of its object, and what
it finds on the stack shows at most in the ports. -/
theorem handle_anonymous (cfg : Config) (env : Env) (mem : Uninit) (aport vport : UInt16)
    (self self' : Nat) (s : MediaSession) (t t' : Timer)
    (hports : ports = true → h.readsIMS = true → ImsAgent.setsPorts sMsg.roap.sdp = true) :
    (handle cfg h { env with mem, aport, vport } self' sMsg (s.anonymous ports) t').1.anonymous
        ports = (handle cfg h env self sMsg s t).1.anonymous ports ∧
      (handle cfg h { env with mem, aport, vport } self' sMsg (s.anonymous ports) t').2.2 =
        (handle cfg h env self sMsg s t).2.2 := by
  have hread := readMessage_anonymous cfg env mem aport vport s hports
  have hsent : reply cfg h { env with mem, aport, vport } sMsg _ = reply cfg h env sMsg _ :=
    reply_congr cfg env mem aport vport hread
  cases hm : startsMedia h sMsg with
  | false =>
    rw [handle_of_not_startsMedia hm, handle_of_not_startsMedia hm]
    exact ⟨hread, hsent⟩
  | true =>
    rw [handle_of_startsMedia hm, handle_of_startsMedia hm]
    have hjobs := doTailingJobs_anonymous ports env self (readMessage cfg h env sMsg s) t
    have hjobs' := doTailingJobs_anonymous ports { env with mem, aport, vport } self'
      (readMessage cfg h { env with mem, aport, vport } sMsg (s.anonymous ports)) t'
    rw [hread] at hjobs'
    exact ⟨hjobs'.1.trans hjobs.1.symm, congrArg₂ _ hsent (hjobs'.2.trans hjobs.2.symm)⟩

/-- A handler of a message that is not stored reads its text alone. -/
theorem handle_candidate_congr (cfg : Config) (env : Env) (self : Nat) (s : MediaSession)
    (t : Timer) {sMsg sMsg' : SessionMessage} (hsdp : sMsg'.roap.sdp = sMsg.roap.sdp) :
    handle cfg .candidateFromWeb env self sMsg' s t =
      handle cfg .candidateFromWeb env self sMsg s t := by
  simp only [handle, handleCandidateFromWeb, hsdp]

/-- Two sessions that agree on what is left do so after the same message. -/
theorem handle_congr (cfg : Config) (env : Env) (mem : Uninit) (aport vport : UInt16)
    (self self' : Nat) (t t' : Timer) {s s' : MediaSession}
    (hports : ports = true → h.readsIMS = true → ImsAgent.setsPorts sMsg.roap.sdp = true)
    (hs : s'.anonymous ports = s.anonymous ports) :
    (handle cfg h { env with mem, aport, vport } self' sMsg s' t').1.anonymous ports =
        (handle cfg h env self sMsg s t).1.anonymous ports ∧
      (handle cfg h { env with mem, aport, vport } self' sMsg s' t').2.2 =
        (handle cfg h env self sMsg s t).2.2 := by
  have hleft := handle_anonymous cfg { env with mem, aport, vport } mem aport vport self' self' s'
    t' t' hports
  have hright := handle_anonymous cfg env mem aport vport self self' s t t' hports
  rw [hs] at hleft
  exact ⟨hleft.1.symm.trans hright.1, hleft.2.symm.trans hright.2⟩

end

end MediaSession

namespace SessionObj

/-- The object without the number of its timer and, unless they are looked at, the
ports. -/
def anonymous (ports : Bool) : SessionObj → SessionObj
  | .running s => .running (s.anonymous ports)
  | .stopped id timerID => .stopped id (Timer.anonymous timerID)

theorem checkMediaFlow_anonymous (ports : Bool) (self self' : Nat) (flow : Flow) (s : MediaSession)
    (t t' : Timer) :
    (((s.anonymous ports).withFlow flow).checkMediaFlow self' t').1.anonymous ports =
      ((s.withFlow flow).checkMediaFlow self t).1.anonymous ports := by
  have hflows : (s.anonymous ports).flows flow = s.flows flow := by cases ports <;> rfl
  have hkeep : ((s.anonymous ports).keepFlow flow).anonymous ports =
      (s.keepFlow flow).anonymous ports := by
    cases ports <;>
      simp only [keepFlow, MediaSession.anonymous, Timer.anonymous_anonymous] <;> rfl
  rw [checkMediaFlow_eq, checkMediaFlow_eq, hflows]
  split
  · simp only [MediaSession.anonymous, MediaSession.mk.injEq] at hkeep
    simp only [anonymous, MediaSession.anonymous, Timer.anonymous_setTimer, hkeep]
  · simp only [anonymous, MediaSession.anonymous, Timer.anonymous_anonymous]

theorem checkMediaFlow_congr {ports : Bool} {self self' : Nat} (flow : Flow)
    {s s' : MediaSession} {t t' : Timer} (hs : s'.anonymous ports = s.anonymous ports) :
    ((s'.withFlow flow).checkMediaFlow self' t').1.anonymous ports =
      ((s.withFlow flow).checkMediaFlow self t).1.anonymous ports := by
  rw [← checkMediaFlow_anonymous ports self' self' flow s' t' t', hs,
    checkMediaFlow_anonymous ports self self' flow s t t']

end SessionObj

namespace Gateway

/-! ## The gateway with its timers as inputs -/

/-- `checkMediaFlow` for the call `id`.  A call that is not in the map has no
timer. -/
def timeout (id : Bytes) (flow : Flow) (g : Gateway) : Except Fault Gateway :=
  match g.sessions id with
  | none => .ok g
  | some a =>
    match g.heap a with
    | none => .error .useAfterFree
    | some (.stopped _ _) => .error .nullDeref
    | some (.running s) =>
      let r := (s.withFlow flow).checkMediaFlow a g.timer
      .ok { g with heap := Function.update g.heap a (some r.1), timer := r.2 }

end Gateway

/-- The gateway over the inputs of its calls. -/
def calls (cfg : Config) : Machine Gateway Input Entry Fault where
  step := fun g i =>
    match i with
    | .message text env => g.receive cfg env text
    | .timeout id flow =>
      match g.timeout id flow with
      | .error f => .error f
      | .ok g => .ok (g, [])

/-- Whether an input is one of the call `id`. -/
def Input.concerns (cfg : Config) (id : Bytes) : Input → Bool
  | .message text env =>
    match MessageParser.parserSessionMessage cfg.json env.mem text with
    | .error _ => false
    | .ok sMsg => sMsg.roap.offerSessionID == id
  | .timeout id' _ => id' == id

/-- Nothing that the stack held is read: what the handlers read of the message is
the same whatever was there, and a description from IMS sets both ports if they are
looked at. -/
def Input.ReadsNoStack (cfg : Config) (ports : Bool) : Input → Prop
  | .message text env =>
    (∀ mem, (MessageParser.parserSessionMessage cfg.json mem text).map SessionMessage.read =
      (MessageParser.parserSessionMessage cfg.json env.mem text).map SessionMessage.read) ∧
    (ports = true → ∀ sMsg h,
      MessageParser.parserSessionMessage cfg.json env.mem text = .ok sMsg →
        Gateway.handlerFor text sMsg.roap.type = some h → h.readsIMS = true →
          ImsAgent.setsPorts sMsg.roap.sdp = true)
  | .timeout _ _ => True

namespace Gateway

variable {cfg : Config} {env : Env} {text : Bytes} {sMsg : SessionMessage} {used used' : Bool}
  {g g' c c' : Gateway} {log log' done done' : List Entry} {ports : Bool}

/-- What a call is, up to the number of its session object and of its timer, and
up to the ports of its destinations unless they are looked at. -/
def callView (ports : Bool) (g : Gateway) (id : Bytes) : Option SessionObj :=
  (g.lookup id).map (SessionObj.anonymous ports)

/-- What was done for a call, the packets to the signalling gateway among it. -/
def actionsOf (id : Bytes) (log : List Entry) : List Action :=
  log.filterMap fun
    | .handled _ _ _ => none
    | .did _ id' act => if id' = id then some act else none

theorem actionsOf_append (id : Bytes) (xs ys : List Entry) :
    actionsOf id (xs ++ ys) = actionsOf id xs ++ actionsOf id ys :=
  List.filterMap_append ..

theorem actionsOf_entries {h : Handler} {a : Nat} {s : MediaSession} {id : Bytes} :
    actionsOf id (g.entries cfg h env a sMsg s) =
      if sMsg.roap.offerSessionID = id then (handle cfg h env a sMsg s g.timer).2.2 else [] := by
  unfold actionsOf entries
  rw [List.filterMap_cons_none rfl, List.filterMap_map]
  split
  · rename_i hid
    exact (List.filterMap_congr fun act _ => if_pos hid).trans List.filterMap_some
  · rename_i hid
    rw [List.filterMap_eq_nil_iff]
    exact fun act _ => if_neg hid

/-! ## A message of the call -/

/-- What is done for a message, given the object of its call. -/
def actionsAfter (cfg : Config) (env : Env) (text : Bytes) (sMsg : SessionMessage) (self : Nat)
    (t : Timer) : Option SessionObj → List Action
  | none =>
    if sMsg.roap.type = RoapType.offer then
      (handle cfg (if isFromBrowser text then .offerFromWeb else .offerFromIMS) env self sMsg
        { MediaSession.fresh cfg with offerSessionID := sMsg.roap.offerSessionID } t).2.2
    else
      []
  | some (.stopped _ _) => []
  | some (.running s) =>
    match handlerFor text sMsg.roap.type with
    | some h => (handle cfg h env self sMsg s t).2.2
    | none => []

/-- A handler does the same for two messages of which the same is read. -/
theorem handle_readAlike {h : Handler} {self : Nat} {s : MediaSession} {t : Timer}
    {sMsg' : SessionMessage} (hsame : sMsg'.ReadAlike sMsg)
    (hh : handlerFor text sMsg.roap.type = some h) :
    handle cfg h env self sMsg' s t = handle cfg h env self sMsg s t := by
  unfold handlerFor at hh
  by_cases hoffer : sMsg.roap.type = RoapType.offer
  · rw [hsame.stored (.inl hoffer)]
  · rw [if_neg hoffer] at hh
    by_cases hcand : sMsg.roap.type = RoapType.candidate
    · rw [if_pos hcand] at hh
      obtain rfl := Option.some.inj hh
      exact handle_candidate_congr cfg env self s t hsame.sdp
    · rw [if_neg hcand] at hh
      by_cases hanswer : sMsg.roap.type = RoapType.answer
      · rw [hsame.stored (.inr hanswer)]
      · rw [if_neg hanswer] at hh
        cases hh

/-- Two objects of a call that agree on what is left do so after messages of which
the same is read, and the same is done. -/
theorem after_congr {mem : Uninit} {aport vport : UInt16} {self self' : Nat} {t t' : Timer}
    {o o' : Option SessionObj} {sMsg' : SessionMessage} (hsame : sMsg'.ReadAlike sMsg)
    (hports : ports = true → ∀ h, handlerFor text sMsg.roap.type = some h → h.readsIMS = true →
      ImsAgent.setsPorts sMsg.roap.sdp = true)
    (ho : o'.map (SessionObj.anonymous ports) = o.map (SessionObj.anonymous ports)) :
    (objectAfter cfg { env with mem, aport, vport } text sMsg' self' t' o').map
          (SessionObj.anonymous ports) =
        (objectAfter cfg env text sMsg self t o).map (SessionObj.anonymous ports) ∧
      actionsAfter cfg { env with mem, aport, vport } text sMsg' self' t' o' =
        actionsAfter cfg env text sMsg self t o := by
  cases o with
  | none =>
    obtain rfl := Option.map_eq_none_iff.1 ho
    by_cases htype : sMsg.roap.type = RoapType.offer
    · obtain rfl := hsame.stored (.inl htype)
      have hhandle := handle_congr cfg env mem aport vport self self' t t'
        (fun htrue hims => hports htrue _ (by rw [htype, handlerFor_offer]) hims)
        (Eq.refl (MediaSession.anonymous ports
          { MediaSession.fresh cfg with offerSessionID := sMsg'.roap.offerSessionID }))
      simp only [objectAfter, actionsAfter, if_pos htype, Option.map_some, SessionObj.anonymous]
      exact ⟨congrArg (some ∘ SessionObj.running) hhandle.1, hhandle.2⟩
    · simp only [objectAfter, actionsAfter, hsame.type, if_neg htype]
      exact ⟨trivial, trivial⟩
  | some o =>
    obtain ⟨x, rfl, hx⟩ := Option.map_eq_some_iff.1 ho
    cases o with
    | stopped id timerID =>
      cases x with
      | running s => cases hx
      | stopped id' timerID' => exact ⟨rfl, rfl⟩
    | running s =>
      cases x with
      | stopped id' timerID' => cases hx
      | running s' =>
        have hs : s'.anonymous ports = s.anonymous ports := SessionObj.running.inj hx
        cases hh : handlerFor text sMsg.roap.type with
        | some handler =>
          have hhandle := handle_congr cfg env mem aport vport self self' t t'
            (fun htrue hims => hports htrue handler hh hims) hs
          simp only [objectAfter, actionsAfter, hsame.type, hh, handle_readAlike hsame hh,
            Option.map_some, SessionObj.anonymous]
          exact ⟨congrArg (some ∘ SessionObj.running) hhandle.1, hhandle.2⟩
        | none =>
          simp only [objectAfter, actionsAfter, hsame.type, hh]
          refine ⟨?_, trivial⟩
          split
          · rfl
          · exact congrArg some hx

/-- What a message does is done for the call it names. -/
theorem Inv.actions_received (hinv : Inv cfg g log)
    (h : Received cfg env text sMsg g used g' done) (id : Bytes) :
    actionsOf id done =
      if sMsg.roap.offerSessionID = id ∧ id ≠ [] then
        actionsAfter cfg env text sMsg (g.self id) g.timer (g.lookup id)
      else
        [] := by
  by_cases hown : sMsg.roap.offerSessionID = id ∧ id ≠ []
  · obtain ⟨rfl, hid⟩ := hown
    rw [if_pos ⟨rfl, hid⟩]
    cases h with
    | ignored hnone =>
      rcases hnone with hempty | ⟨htype, hnew⟩
      · exact absurd hempty hid
      · rw [lookup_of_unmapped hnew, actionsAfter, if_neg htype]
        rfl
    | offered hid' htype hnew hspare hh =>
      rw [hinv.spareFresh] at hspare
      obtain rfl := SessionObj.running.inj (Option.some.inj hspare)
      rw [htype, handlerFor_offer] at hh
      obtain rfl := Option.some.inj hh
      rw [actionsOf_entries, if_pos rfl, lookup_of_unmapped hnew, actionsAfter, if_pos htype,
        self, hnew, Option.getD_none]
    | erased hid' htype hmap hheap =>
      rw [lookup_of_map hmap, hheap, actionsAfter]
      rfl
    | passed hid' htype hmap hheap hh =>
      rw [actionsOf_entries, if_pos rfl, lookup_of_map hmap, hheap, actionsAfter, hh, self, hmap,
        Option.getD_some]
    | deleted hid' htype hmap hheap =>
      have hh : handlerFor text sMsg.roap.type = none := by rw [htype, handlerFor_shutdown]
      rw [lookup_of_map hmap, hheap, actionsAfter, hh]
      rfl
    | noted hid' htype hh hmap hheap =>
      rw [lookup_of_map hmap, hheap, actionsAfter, hh]
      rfl
  · rw [if_neg hown]
    have hother : sMsg.roap.offerSessionID ≠ [] → sMsg.roap.offerSessionID ≠ id := by
      intro hid heq
      subst heq
      exact hown ⟨rfl, hid⟩
    cases h with
    | ignored hnone => rfl
    | offered hid htype hnew hspare hh => rw [actionsOf_entries, if_neg (hother hid)]
    | erased hid htype hmap hheap => rfl
    | passed hid htype hmap hheap hh => rw [actionsOf_entries, if_neg (hother hid)]
    | deleted hid htype hmap hheap => rfl
    | noted hid htype hh hmap hheap => rfl

/-- A message that parses and passes the assertion is received. -/
theorem Inv.exists_received (hinv : Inv cfg c log')
    (hparse : MessageParser.parserSessionMessage cfg.json env.mem text = .ok sMsg)
    (hoffer : sMsg.roap.offerSessionID ≠ [] → sMsg.roap.type = RoapType.offer →
      c.sessions sMsg.roap.offerSessionID = none) :
    ∃ used c' done, Received cfg env text sMsg c used c' done := by
  cases hhandle : c.handleSessionMessage cfg env text c.spare with
  | ok r =>
    obtain ⟨used, c', done⟩ := r
    obtain ⟨sMsg', hparse', hreceived⟩ := received_of_ok hhandle
    rw [hparse] at hparse'
    obtain rfl := Except.ok.inj hparse'
    exact ⟨used, c', done, hreceived⟩
  | error f =>
    rcases hinv.message_error hhandle with hfail | ⟨-, sMsg', hparse', hid, htype, hmap⟩
    · rw [hparse] at hfail
      cases hfail
    · rw [hparse] at hparse'
      obtain rfl := Except.ok.inj hparse'
      exact absurd (hoffer hid htype) hmap

theorem lookup_eq_none_of_offer (h : Received cfg env text sMsg g used g' done)
    (hid : sMsg.roap.offerSessionID ≠ []) (htype : sMsg.roap.type = RoapType.offer) :
    g.lookup sMsg.roap.offerSessionID = none := by
  cases h with
  | ignored hnone =>
    rcases hnone with hempty | ⟨hnot, -⟩
    · exact absurd hempty hid
    · exact absurd htype hnot
  | offered hid' htype' hnew hspare hh => exact lookup_of_unmapped hnew
  | erased hid' hnot hmap hheap => exact absurd htype hnot
  | passed hid' hnot hmap hheap hh => exact absurd htype hnot
  | deleted hid' hshut hmap hheap =>
    rw [htype] at hshut
    exact absurd hshut (by decide)
  | noted hid' hnot hh hmap hheap =>
    rw [htype, handlerFor_offer] at hh
    cases hh

theorem callView_eq_none {id : Bytes} : g.callView ports id = none ↔ g.lookup id = none := by
  unfold callView
  rw [Option.map_eq_none_iff]

/-- Two gateways that agree on a call agree on it after a message of the call,
whatever the stack held, and do the same for it. -/
theorem received_view {id : Bytes} (mem : Uninit) (aport vport : UInt16) (hg : Inv cfg g log)
    (hc : Inv cfg c log') (hview : c.callView ports id = g.callView ports id)
    (hown : sMsg.roap.offerSessionID = id) {sMsg' : SessionMessage}
    (hsame : sMsg'.ReadAlike sMsg)
    (hparse : MessageParser.parserSessionMessage cfg.json mem text = .ok sMsg')
    (hports : ports = true → ∀ h, handlerFor text sMsg.roap.type = some h → h.readsIMS = true →
      ImsAgent.setsPorts sMsg.roap.sdp = true)
    (h : Received cfg env text sMsg g used g' done) :
    ∃ c' done', (calls cfg).step c (.message text { env with mem, aport, vport }) =
        .ok (c', done') ∧
      Inv cfg c' (log' ++ done') ∧
      c'.callView ports id = (g'.wait cfg used).callView ports id ∧
      actionsOf id done' = actionsOf id done := by
  subst hown
  have hnone : c.lookup sMsg.roap.offerSessionID = none ↔
      g.lookup sMsg.roap.offerSessionID = none := by
    rw [← callView_eq_none, ← callView_eq_none, hview]
  have hparse' : MessageParser.parserSessionMessage cfg.json
      ({ env with mem, aport, vport } : Env).mem text = .ok sMsg' := hparse
  obtain ⟨used', c', done', hreceived⟩ := hc.exists_received hparse' fun hid htype => by
    rw [hsame.offerSessionID] at hid ⊢
    rw [hsame.type] at htype
    exact hc.lookup_eq_none.1 (hnone.2 (lookup_eq_none_of_offer h hid htype))
  refine ⟨c'.wait cfg used', done',
    receive_ok_iff.2 ⟨sMsg', used', c', hparse', hreceived, rfl⟩, hc.received hreceived, ?_, ?_⟩
  · by_cases hid : sMsg.roap.offerSessionID = []
    · rw [hid, callView, callView, lookup_of_unmapped (hc.received hreceived).named,
        lookup_of_unmapped (hg.received h).named]
    · have hself := hc.lookup_self (by rwa [hsame.offerSessionID]) hreceived
      rw [hsame.offerSessionID] at hself
      rw [callView, callView, hself, hg.lookup_self hid h]
      exact (after_congr hsame hports hview).1
  · rw [hc.actions_received hreceived, hg.actions_received h, hsame.offerSessionID]
    split
    · exact (after_congr hsame hports hview).2
    · rfl

/-- Two gateways that agree on a running call agree on it after its check. -/
theorem checked_view {id : Bytes} {flow : Flow} (hc : Inv cfg c log')
    (hview : c.callView ports id = g.callView ports id) (h : Checked g id flow g') :
    ∃ c', (calls cfg).step c (.timeout id flow) = .ok (c', []) ∧ Inv cfg c' log' ∧
      c'.callView ports id = g'.callView ports id := by
  obtain ⟨a, s, hmap, hheap, hsid, hafter⟩ := h.own
  have hmap' : g'.sessions id = some a := by rw [h.sessions, hmap]
  have hrunning : c.callView ports id = some (.running (s.anonymous ports)) := by
    rw [hview, callView, lookup_of_map hmap, hheap]
    rfl
  obtain ⟨o, ho, hanon⟩ := Option.map_eq_some_iff.1 hrunning
  obtain ⟨b, hmapc, hheapc⟩ := exists_of_lookup ho
  cases o with
  | stopped id' timerID => cases hanon
  | running sc =>
    have hsame : sc.anonymous ports = s.anonymous ports := SessionObj.running.inj hanon
    refine ⟨{ c with
        heap := Function.update c.heap b (some ((sc.withFlow flow).checkMediaFlow b c.timer).1)
        timer := ((sc.withFlow flow).checkMediaFlow b c.timer).2 }, ?_, ?_, ?_⟩
    · simp only [calls, timeout, hmapc, hheapc]
    · rw [← List.append_nil log']
      refine hc.touch (hc.mapped id b hmapc).1 hheapc ?_ (fun n ts hts => ?_) (by simp)
      · rw [checkMediaFlow_eq]
        split <;> rfl
      · rw [checkMediaFlow_eq] at hts
        split at hts
        · exact (Timer.objects_setTimer hts).imp_right fun hold => ⟨n, hold⟩
        · exact .inr ⟨n, hts⟩
    · rw [callView, callView, lookup_update hmapc, lookup_of_map hmap', hafter, Option.map_some,
        Option.map_some, SessionObj.checkMediaFlow_congr flow hsame]

/-! ## Every run -/

/-- Of a message that reads nothing off the stack the same is read whatever was
there. -/
theorem exists_readAlike {mem : Uninit}
    (hparse : MessageParser.parserSessionMessage cfg.json env.mem text = .ok sMsg)
    (hmembers : (MessageParser.parserSessionMessage cfg.json mem text).map SessionMessage.read =
      (MessageParser.parserSessionMessage cfg.json env.mem text).map SessionMessage.read) :
    ∃ sMsg', MessageParser.parserSessionMessage cfg.json mem text = .ok sMsg' ∧
      sMsg'.ReadAlike sMsg := by
  rw [hparse] at hmembers
  cases hparse' : MessageParser.parserSessionMessage cfg.json mem text with
  | error f =>
    rw [hparse'] at hmembers
    cases hmembers
  | ok sMsg' =>
    rw [hparse'] at hmembers
    exact ⟨sMsg', rfl, SessionMessage.readAlike_of_read (Except.ok.inj hmembers)⟩

/-- A step of the gateway as steps of `calls` on its inputs for one call. -/
theorem step_view {id : Bytes} {e : Event} {ins : List Input} (hg : Inv cfg g log)
    (hc : Inv cfg c log') (hview : c.callView ports id = g.callView ports id)
    (hins : List.Forall₂ Input.SameOutside ((inputOf g e).filter (Input.concerns cfg id)) ins)
    (hstack : ∀ i ∈ (inputOf g e).filter (Input.concerns cfg id), i.ReadsNoStack cfg ports)
    (h : (gateway cfg).step g e = .ok (g', done)) :
    ∃ c' done', (calls cfg).run c ins = .ok (c', done') ∧
      Inv cfg c' (log' ++ done') ∧ c'.callView ports id = g'.callView ports id ∧
      actionsOf id done' = actionsOf id done := by
  rcases gateway_step_ok h with
      ⟨text, env, sMsg, used, g₁, rfl, hparse, hreceived, rfl⟩ | ⟨n, flow, rfl, rfl, hfired⟩
  · by_cases hown : sMsg.roap.offerSessionID = id
    · have hconcerns : Input.concerns cfg id (.message text env) = true := by
        simp [Input.concerns, hparse, hown]
      rw [inputOf, List.filter_cons_of_pos hconcerns, List.filter_nil] at hins hstack
      obtain ⟨hmembers, hports⟩ := hstack _ (List.mem_singleton.2 rfl)
      cases hins with
      | cons hsame hnil =>
        cases hnil
        cases hsame with
        | message text env mem aport vport =>
          obtain ⟨sMsg', hparse', hsame⟩ := exists_readAlike hparse (hmembers mem)
          obtain ⟨c', done', hstep, hinv, hsame, hacts⟩ :=
            received_view mem aport vport hg hc hview hown hsame hparse'
              (fun htrue h hh => hports htrue sMsg h hparse hh) hreceived
          exact ⟨c', done',
            Machine.run_cons_ok.2 ⟨c', done', [], hstep, rfl, (List.append_nil _).symm⟩, hinv,
            hsame, hacts⟩
    · have hconcerns : Input.concerns cfg id (.message text env) = false := by
        simp [Input.concerns, hparse, hown]
      rw [inputOf, List.filter_cons_of_neg (by rw [hconcerns]; exact Bool.false_ne_true)] at hins
      cases hins
      refine ⟨c, [], rfl, by rwa [List.append_nil], ?_, ?_⟩
      · rw [hview, callView, callView, hg.lookup_received hreceived fun heq => hown heq.symm]
      · rw [hg.actions_received hreceived, if_neg fun hboth => hown hboth.1]
        rfl
  · rcases hg.checked hfired with ⟨hnone, rfl⟩ | ⟨id', hinput, hchecked⟩
    · rw [hnone] at hins
      cases hins
      exact ⟨c, [], rfl, by rwa [List.append_nil], hview, rfl⟩
    · rw [hinput] at hins
      by_cases hown : id' = id
      · subst hown
        obtain ⟨c', hstep, hinv, hsame⟩ := checked_view hc hview hchecked
        rw [List.filter_cons_of_pos (by simp [Input.concerns]), List.filter_nil] at hins
        cases hins with
        | cons hsame' hnil =>
          cases hnil
          cases hsame'
          refine ⟨c', [], ?_, by rwa [List.append_nil], hsame, rfl⟩
          exact Machine.run_cons_ok.2 ⟨c', [], [], hstep, rfl, rfl⟩
      · rw [List.filter_cons_of_neg (by simp [Input.concerns, hown])] at hins
        cases hins
        refine ⟨c, [], rfl, by rwa [List.append_nil], ?_, rfl⟩
        rw [hview, callView, callView, hchecked.other id fun heq => hown heq.symm]

/-- What is related to a concatenation is one. -/
theorem exists_append_of_forall₂ {α β : Type} {R : α → β → Prop} {xs ys : List α} {zs : List β}
    (h : List.Forall₂ R (xs ++ ys) zs) :
    ∃ zs₁ zs₂, List.Forall₂ R xs zs₁ ∧ List.Forall₂ R ys zs₂ ∧ zs = zs₁ ++ zs₂ :=
  ⟨zs.take xs.length, zs.drop xs.length, (List.forall₂_take_append zs xs ys h.flip).flip,
    (List.forall₂_drop_append zs xs ys h.flip).flip, (List.take_append_drop ..).symm⟩

/-- The run of `calls` on the inputs of one call, whatever it finds on the
stack. -/
theorem run_view {es : List Event} {id : Bytes} {ins : List Input}
    (hins : List.Forall₂ Input.SameOutside ((inputs cfg es).filter (Input.concerns cfg id)) ins)
    (hstack : ∀ i ∈ (inputs cfg es).filter (Input.concerns cfg id), i.ReadsNoStack cfg ports)
    (h : (gateway cfg).run (init cfg) es = .ok (g, log)) :
    ∃ c log', (calls cfg).run (init cfg) ins = .ok (c, log') ∧
      Inv cfg c log' ∧ c.callView ports id = g.callView ports id ∧
      actionsOf id log' = actionsOf id log := by
  induction es using List.reverseRecOn generalizing g log ins with
  | nil =>
    obtain ⟨rfl, rfl⟩ := Machine.run_nil_ok.1 h
    cases hins
    exact ⟨init cfg, [], rfl, inv_init cfg, rfl, rfl⟩
  | append_singleton es e ih =>
    obtain ⟨g₁, log₁, done, hrun, hstep, rfl⟩ := Machine.run_snoc_ok.1 h
    rw [inputs, Machine.observe_snoc hrun, List.filter_append] at hins hstack
    obtain ⟨ins₁, ins₂, hins₁, hins₂, rfl⟩ := exists_append_of_forall₂ hins
    obtain ⟨c, log', hcalls, hc, hview, hacts⟩ :=
      ih hins₁ (fun i hi => hstack i (List.mem_append_left _ hi)) hrun
    obtain ⟨c', done', hcalls', hc', hview', hacts'⟩ :=
      step_view (inv_run hrun) hc hview hins₂ (fun i hi => hstack i (List.mem_append_right _ hi))
        hstep
    refine ⟨c', log' ++ done', ?_, hc', hview', ?_⟩
    · exact Machine.run_append_ok.2 ⟨c, log', done', hcalls, hcalls', rfl⟩
    · rw [actionsOf_append, actionsOf_append, hacts, hacts']

end Gateway

end MediaGateway
