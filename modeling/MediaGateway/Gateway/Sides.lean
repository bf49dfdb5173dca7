import MediaGateway.Gateway.Calls

/-!
# The sides of a call

`handleSessionMessage` searches the whole text of an offer or an answer for the
words `crypto` and `fingerprint` and takes it for one from the browser when it
finds either.  Nothing compares what it finds in an answer with what it found in
the offer.

`Opposite` says that every answer was handled as one of the other side, and
`opposite_iff` that this is so exactly when, for each answer that reaches a
running session, the words are in its text or in the text of the offer of its
call, and not in both.
-/

namespace MediaGateway

open Lib MediaSession

namespace Gateway

variable {cfg : Config} {env : Env} {text : Bytes} {sMsg : SessionMessage} {used : Bool}
  {g g' : Gateway} {log done : List Entry} {es : List Event}

/-! ## Offers and their answers -/

/-- The handler that the answers are to be given to, by the one that was given the
offer. -/
def answerTo : Handler → Option Handler
  | .offerFromWeb => some .answerFromIMS
  | .offerFromIMS => some .answerFromWeb
  | _ => none

/-- The handlers of answers. -/
def isAnswer : Handler → Bool
  | .answerFromWeb | .answerFromIMS => true
  | _ => false

/-- In every session the answers are handled as those of the side opposite to the
offer's. -/
def Opposite (log : List Entry) : Prop :=
  ∀ a id id' h h' wanted, Entry.handled a id h ∈ log → answerTo h = some wanted →
    Entry.handled a id' h' ∈ log → isAnswer h' = true → h' = wanted

/-- The handler of an offer with this text. -/
def offerHandler (text : Bytes) : Handler :=
  if isFromBrowser text then .offerFromWeb else .offerFromIMS

/-- The handler of an answer with this text. -/
def answerHandler (text : Bytes) : Handler :=
  if isFromBrowser text then .answerFromWeb else .answerFromIMS

/-- The text of an event that is an offer of the call `id`. -/
def textOfOffer (cfg : Config) (id : Bytes) : Event → Option Bytes
  | .message text env =>
    match MessageParser.parserSessionMessage cfg.json env.mem text with
    | .error _ => none
    | .ok sMsg =>
      if sMsg.roap.offerSessionID = id ∧ sMsg.roap.type = RoapType.offer then some text else none
  | .expire _ _ => none

/-- The text of the last offer of the call `id`. -/
def lastOffer (cfg : Config) (id : Bytes) (es : List Event) : Option Bytes :=
  (es.filterMap (textOfOffer cfg id)).getLast?

/-- After the events `pre`, an answer that reaches a running session has the words
that `isFromBrowser` looks for exactly when the offer of its call has not. -/
def AnswerFits (cfg : Config) (pre : List Event) (e : Event) : Prop :=
  ∀ text env sMsg g log s offer, e = .message text env →
    (gateway cfg).run (init cfg) pre = .ok (g, log) →
    MessageParser.parserSessionMessage cfg.json env.mem text = .ok sMsg →
    sMsg.roap.type = RoapType.answer →
    g.lookup sMsg.roap.offerSessionID = some (.running s) →
    lastOffer cfg sMsg.roap.offerSessionID pre = some offer →
      isFromBrowser text = !isFromBrowser offer

/-- Every answer of a run does so. -/
def AnswersFit (cfg : Config) (es : List Event) : Prop :=
  ∀ pre e post, es = pre ++ e :: post → AnswerFits cfg pre e

theorem answersFit_nil : AnswersFit cfg [] := by
  intro pre e post heq
  exact absurd heq (List.append_ne_nil_of_right_ne_nil pre (List.cons_ne_nil e post)).symm

theorem answersFit_snoc {e : Event} :
    AnswersFit cfg (es ++ [e]) ↔ AnswersFit cfg es ∧ AnswerFits cfg es e :=
  forall_split_snoc

theorem lastOffer_snoc {e : Event} {id : Bytes} (h : textOfOffer cfg id e = none) :
    lastOffer cfg id (es ++ [e]) = lastOffer cfg id es := by
  rw [lastOffer, List.filterMap_append, List.filterMap_cons_none h, List.filterMap_nil,
    List.append_nil]
  rfl

theorem lastOffer_snoc_offer {e : Event} {id : Bytes} (h : textOfOffer cfg id e = some text) :
    lastOffer cfg id (es ++ [e]) = some text := by
  rw [lastOffer, List.filterMap_append, List.filterMap_cons_some h, List.filterMap_nil,
    List.getLast?_concat]

/-- The last offer of a call is the text of a message. -/
theorem mem_of_lastOffer {id offer : Bytes} (h : lastOffer cfg id es = some offer) :
    ∃ env, Event.message offer env ∈ es := by
  obtain ⟨e, he, htext⟩ := List.mem_filterMap.1 (List.mem_of_getLast? h)
  cases e with
  | expire n flow => cases htext
  | message text env =>
    simp only [textOfOffer] at htext
    split at htext
    · cases htext
    · split at htext
      · rw [← Option.some.inj htext]
        exact ⟨env, he⟩
      · cases htext

theorem textOfOffer_eq_none {id : Bytes}
    (hparse : MessageParser.parserSessionMessage cfg.json env.mem text = .ok sMsg)
    (h : id ≠ sMsg.roap.offerSessionID ∨ sMsg.roap.type ≠ RoapType.offer) :
    textOfOffer cfg id (.message text env) = none := by
  simp only [textOfOffer, hparse]
  apply if_neg
  intro hboth
  rcases hboth with ⟨hid, htype⟩
  rcases h with hne | hne
  · exact hne hid.symm
  · exact hne htype

theorem textOfOffer_eq_some
    (hparse : MessageParser.parserSessionMessage cfg.json env.mem text = .ok sMsg)
    (htype : sMsg.roap.type = RoapType.offer) :
    textOfOffer cfg sMsg.roap.offerSessionID (.message text env) = some text := by
  simp only [textOfOffer, hparse]
  exact if_pos ⟨trivial, htype⟩

/-- Which handler a message other than an offer is given to. -/
theorem handlerFor_other {h : Handler} (htype : sMsg.roap.type ≠ RoapType.offer)
    (hh : handlerFor text sMsg.roap.type = some h) :
    sMsg.roap.type ≠ RoapType.answer ∧ h = .candidateFromWeb ∨
      sMsg.roap.type = RoapType.answer ∧ h = answerHandler text := by
  unfold handlerFor at hh
  rw [if_neg htype] at hh
  by_cases hcand : sMsg.roap.type = RoapType.candidate
  · rw [if_pos hcand] at hh
    refine .inl ⟨?_, (Option.some.inj hh).symm⟩
    rw [hcand]
    decide
  · rw [if_neg hcand] at hh
    by_cases hans : sMsg.roap.type = RoapType.answer
    · rw [if_pos hans] at hh
      exact .inr ⟨hans, (Option.some.inj hh).symm⟩
    · rw [if_neg hans] at hh
      cases hh

theorem answerTo_answerHandler (text : Bytes) : answerTo (answerHandler text) = none := by
  unfold answerHandler
  split <;> rfl

theorem isAnswer_answerHandler (text : Bytes) : isAnswer (answerHandler text) = true := by
  unfold answerHandler
  split <;> rfl

/-- The answer is handled on the other side exactly when one of the two texts has
the words. -/
theorem answerHandler_iff (offer : Bytes) :
    answerTo (offerHandler offer) = some (answerHandler text) ↔
      isFromBrowser text = !isFromBrowser offer := by
  unfold offerHandler answerHandler
  cases isFromBrowser offer <;> cases isFromBrowser text <;> decide

/-! ## The offer of a session -/

/-- Every session in the map was given one offer, the last of its call. -/
def Offered (cfg : Config) (g : Gateway) (log : List Entry) (es : List Event) : Prop :=
  ∀ id a, g.sessions id = some a →
    ∃ offer, lastOffer cfg id es = some offer ∧ Entry.handled a id (offerHandler offer) ∈ log ∧
      ∀ id' h, Entry.handled a id' h ∈ log → (answerTo h).isSome = true →
        h = offerHandler offer

theorem offered_init (cfg : Config) : Offered cfg (init cfg) [] [] := by
  intro id a h
  cases h

theorem handled_mem_entries {h h' : Handler} {a b : Nat} {id : Bytes} {s : MediaSession} :
    Entry.handled b id h' ∈ g.entries cfg h env a sMsg s ↔
      b = a ∧ id = sMsg.roap.offerSessionID ∧ h' = h := by
  constructor
  · intro hmem
    rcases List.mem_cons.1 hmem with heq | hmem
    · obtain ⟨rfl, rfl, rfl⟩ := Entry.handled.inj heq
      exact ⟨rfl, rfl, rfl⟩
    · obtain ⟨act, -, heq⟩ := List.mem_map.1 hmem
      cases heq
  · intro heqs
    rcases heqs with ⟨rfl, rfl, rfl⟩
    exact List.mem_cons_self

/-- The calls that stay in the map keep their offer when nothing is handled. -/
theorem Offered.keep (hoffered : Offered cfg g log es) {e : Event}
    (hsessions : ∀ id a, g'.sessions id = some a →
      g.sessions id = some a ∧ textOfOffer cfg id e = none) :
    Offered cfg g' (log ++ []) (es ++ [e]) := by
  intro id a hmap
  obtain ⟨hold, hnone⟩ := hsessions id a hmap
  rw [List.append_nil, lastOffer_snoc hnone]
  exact hoffered id a hold

theorem sessions_wait : (g.wait cfg used).sessions = g.sessions := by
  cases used <;> rfl

theorem Offered.received (hoffered : Offered cfg g log es) (hinv : Inv cfg g log)
    (hparse : MessageParser.parserSessionMessage cfg.json env.mem text = .ok sMsg)
    (h : Received cfg env text sMsg g used g' done) :
    Offered cfg (g'.wait cfg used) (log ++ done) (es ++ [.message text env]) := by
  have hforget : ∀ id a, (g.forget sMsg.roap.offerSessionID).sessions id = some a →
      g.sessions id = some a ∧ id ≠ sMsg.roap.offerSessionID := by
    intro id a hmap
    simp only [forget, Function.update_apply] at hmap
    split at hmap
    · cases hmap
    · rename_i hne
      exact ⟨hmap, hne⟩
  cases h with
  | ignored hnone =>
    refine hoffered.keep fun id a hmap => ⟨hmap, textOfOffer_eq_none hparse ?_⟩
    rcases hnone with hempty | ⟨htype, -⟩
    · left
      intro heq
      subst heq
      rw [sessions_wait, hempty, hinv.named] at hmap
      cases hmap
    · exact .inr htype
  | noted hid htype hh hmap hheap =>
    refine hoffered.keep fun id a hmap => ⟨hmap, textOfOffer_eq_none hparse (.inr ?_)⟩
    intro hoffer
    rw [hoffer, handlerFor_offer] at hh
    cases hh
  | erased hid htype hmap hheap =>
    refine hoffered.keep fun id a hmap => ?_
    obtain ⟨hold, hne⟩ := hforget id a hmap
    exact ⟨hold, textOfOffer_eq_none hparse (.inl hne)⟩
  | deleted hid htype hmap hheap =>
    refine hoffered.keep fun id a hmap => ?_
    obtain ⟨hold, hne⟩ := hforget id a hmap
    exact ⟨hold, textOfOffer_eq_none hparse (.inl hne)⟩
  | @offered s handler hid htype hnew hspare hh =>
    rw [htype, handlerFor_offer] at hh
    obtain rfl := Option.some.inj hh
    intro id a hmap
    have hmap' : Function.update g.sessions sMsg.roap.offerSessionID (some g.spare) id = some a :=
      hmap
    by_cases hown : id = sMsg.roap.offerSessionID
    · subst hown
      rw [Function.update_self] at hmap'
      obtain rfl := Option.some.inj hmap'
      refine ⟨text, lastOffer_snoc_offer (textOfOffer_eq_some hparse htype),
        List.mem_append_right _ (handled_mem_entries.2 ⟨rfl, rfl, rfl⟩), ?_⟩
      intro id' h hmem hanswer
      rcases List.mem_append.1 hmem with hmem | hmem
      · exact absurd rfl (hinv.logged _ hmem).2.1
      · exact (handled_mem_entries.1 hmem).2.2
    · rw [Function.update_of_ne hown] at hmap'
      obtain ⟨offer, hlast, hin, hall⟩ := hoffered id a hmap'
      refine ⟨offer, ?_, List.mem_append_left _ hin, ?_⟩
      · rw [lastOffer_snoc (textOfOffer_eq_none hparse (.inl hown)), hlast]
      · intro id' h hmem hanswer
        rcases List.mem_append.1 hmem with hmem | hmem
        · exact hall id' h hmem hanswer
        · exact absurd (handled_mem_entries.1 hmem).1 (hinv.mapped id a hmap').1
  | @passed b s handler hid htype hmap hheap hh =>
    intro id a hmap'
    obtain ⟨offer, hlast, hin, hall⟩ := hoffered id a hmap'
    refine ⟨offer, ?_, List.mem_append_left _ hin, ?_⟩
    · rw [lastOffer_snoc (textOfOffer_eq_none hparse (.inr htype)), hlast]
    · intro id' h hmem hanswer
      rcases List.mem_append.1 hmem with hmem | hmem
      · exact hall id' h hmem hanswer
      · obtain ⟨-, -, rfl⟩ := handled_mem_entries.1 hmem
        rcases handlerFor_other htype hh with ⟨-, rfl⟩ | ⟨-, rfl⟩
        · cases hanswer
        · rw [answerTo_answerHandler] at hanswer
          cases hanswer

theorem Offered.step {e : Event} (hoffered : Offered cfg g log es) (hinv : Inv cfg g log)
    (h : (gateway cfg).step g e = .ok (g', done)) :
    Offered cfg g' (log ++ done) (es ++ [e]) := by
  rcases gateway_step_ok h with
      ⟨text, env, sMsg, used, g₁, rfl, hparse, hreceived, rfl⟩ | ⟨n, flow, rfl, rfl, hfired⟩
  · exact hoffered.received hinv hparse hreceived
  · refine hoffered.keep fun id a hmap => ⟨?_, rfl⟩
    cases hfired with
    | absent hoff => exact hmap
    | kept hon hts hheap hflow => exact hmap
    | tornDown hon hts hheap hflow => exact hmap

theorem offered_run (h : (gateway cfg).run (init cfg) es = .ok (g, log)) :
    Offered cfg g log es := by
  induction es using List.reverseRecOn generalizing g log with
  | nil =>
    obtain ⟨rfl, rfl⟩ := Machine.run_nil_ok.1 h
    exact offered_init cfg
  | append_singleton es e ih =>
    obtain ⟨g₁, log₁, done, hrun, hstep, rfl⟩ := Machine.run_snoc_ok.1 h
    exact (ih hrun).step (inv_run hrun) hstep

/-! ## One more message -/

/-- What one handler adds to a log whose answers are handled on the other side. -/
theorem opposite_append_iff {h : Handler} {a : Nat} {s : MediaSession} :
    Opposite (log ++ g.entries cfg h env a sMsg s) ↔
      Opposite log ∧
        (∀ id' h' wanted, Entry.handled a id' h' ∈ log → answerTo h' = some wanted →
          isAnswer h = true → h = wanted) ∧
        ∀ id' h' wanted, Entry.handled a id' h' ∈ log → answerTo h = some wanted →
          isAnswer h' = true → h' = wanted := by
  constructor
  · intro hopp
    have hnew : Entry.handled a sMsg.roap.offerSessionID h ∈
        log ++ g.entries cfg h env a sMsg s :=
      List.mem_append_right _ (handled_mem_entries.2 ⟨rfl, rfl, rfl⟩)
    refine ⟨fun b id id' h₁ h₂ wanted hin hwanted hin' => ?_, ?_, ?_⟩
    · exact hopp b id id' h₁ h₂ wanted (List.mem_append_left _ hin) hwanted
        (List.mem_append_left _ hin')
    · intro id' h' wanted hin hwanted
      exact hopp a id' _ h' h wanted (List.mem_append_left _ hin) hwanted hnew
    · intro id' h' wanted hin hwanted
      exact hopp a _ id' h h' wanted hnew hwanted (List.mem_append_left _ hin)
  · intro hall b id id' h₁ h₂ wanted hin hwanted hin' hanswer
    rcases hall with ⟨hopp, hasAnswer, hasOffer⟩
    rcases List.mem_append.1 hin with hold | hnew
    · rcases List.mem_append.1 hin' with hold' | hnew'
      · exact hopp b id id' h₁ h₂ wanted hold hwanted hold' hanswer
      · obtain ⟨rfl, -, rfl⟩ := handled_mem_entries.1 hnew'
        exact hasAnswer id h₁ wanted hold hwanted hanswer
    · obtain ⟨rfl, -, rfl⟩ := handled_mem_entries.1 hnew
      rcases List.mem_append.1 hin' with hold' | hnew'
      · exact hasOffer id' h₂ wanted hold' hwanted hanswer
      · obtain ⟨-, -, rfl⟩ := handled_mem_entries.1 hnew'
        cases h₂ <;> cases hwanted <;> cases hanswer

theorem answerFits_of_type
    (hparse : MessageParser.parserSessionMessage cfg.json env.mem text = .ok sMsg)
    (htype : sMsg.roap.type ≠ RoapType.answer) : AnswerFits cfg es (.message text env) := by
  intro text' env' sMsg' g log s offer heq hrun hparse' htype'
  obtain ⟨rfl, rfl⟩ := Event.message.inj heq
  rw [hparse] at hparse'
  obtain rfl := Except.ok.inj hparse'
  exact absurd htype' htype

theorem answerFits_of_lookup (hrun : (gateway cfg).run (init cfg) es = .ok (g, log))
    (hparse : MessageParser.parserSessionMessage cfg.json env.mem text = .ok sMsg)
    (hlookup : ∀ s, g.lookup sMsg.roap.offerSessionID ≠ some (.running s)) :
    AnswerFits cfg es (.message text env) := by
  intro text' env' sMsg' g' log' s offer heq hrun' hparse' htype hrunning
  obtain ⟨rfl, rfl⟩ := Event.message.inj heq
  rw [hrun] at hrun'
  obtain ⟨rfl, rfl⟩ := Prod.mk.inj (Except.ok.inj hrun')
  rw [hparse] at hparse'
  obtain rfl := Except.ok.inj hparse'
  exact absurd hrunning (hlookup s)

/-- The handler of an answer is the one that the offer of its session asks for exactly when
the answer fits. -/
theorem answered_iff (hrun : (gateway cfg).run (init cfg) es = .ok (g, log))
    (hparse : MessageParser.parserSessionMessage cfg.json env.mem text = .ok sMsg) {a : Nat}
    {s : MediaSession} (hmap : g.sessions sMsg.roap.offerSessionID = some a)
    (hheap : g.heap a = some (.running s)) (hanswer : sMsg.roap.type = RoapType.answer) :
    (∀ id' h' wanted, Entry.handled a id' h' ∈ log → answerTo h' = some wanted →
        isAnswer (answerHandler text) = true → answerHandler text = wanted) ↔
      AnswerFits cfg es (.message text env) := by
  obtain ⟨offer, hlast, hin, hall⟩ := offered_run hrun _ a hmap
  constructor
  · intro hasAnswer text' env' sMsg' g' log' s' offer' heq hrun' hparse' _ _ hlast'
    obtain ⟨rfl, rfl⟩ := Event.message.inj heq
    rw [hparse] at hparse'
    obtain rfl := Except.ok.inj hparse'
    rw [hlast] at hlast'
    obtain rfl := Option.some.inj hlast'
    obtain ⟨wanted, hwanted⟩ : ∃ wanted, answerTo (offerHandler offer) = some wanted := by
      unfold offerHandler
      split
      · exact ⟨_, rfl⟩
      · exact ⟨_, rfl⟩
    apply (answerHandler_iff offer).1
    rw [hasAnswer _ _ wanted hin hwanted (isAnswer_answerHandler text), hwanted]
  · intro hfits id' h' wanted hin' hwanted _
    have hlookup : g.lookup sMsg.roap.offerSessionID = some (.running s) := by
      rw [lookup_of_map hmap, hheap]
    have hwords := hfits text env sMsg g log s offer rfl hrun hparse hanswer hlookup hlast
    have hsome : (answerTo h').isSome = true := by
      rw [hwanted]
      rfl
    rw [hall id' h' hin' hsome, (answerHandler_iff offer).2 hwords] at hwanted
    exact Option.some.inj hwanted

/-- A message keeps the answers on the other side exactly when it fits, if it is an
answer. -/
theorem opposite_received (hrun : (gateway cfg).run (init cfg) es = .ok (g, log))
    (hparse : MessageParser.parserSessionMessage cfg.json env.mem text = .ok sMsg)
    (h : Received cfg env text sMsg g used g' done) :
    Opposite (log ++ done) ↔ Opposite log ∧ AnswerFits cfg es (.message text env) := by
  have hinv := inv_run hrun
  cases h with
  | ignored hnone =>
    rw [List.append_nil]
    refine (and_iff_left (answerFits_of_lookup hrun hparse fun s hs => ?_)).symm
    rcases hnone with hid | ⟨-, hmap⟩
    · rw [hid, lookup_of_unmapped hinv.named] at hs
      cases hs
    · rw [lookup_of_unmapped hmap] at hs
      cases hs
  | noted hid htype hh hmap hheap =>
    rw [List.append_nil]
    refine (and_iff_left (answerFits_of_type hparse ?_)).symm
    intro hanswer
    rw [hanswer] at hh
    cases hh
  | erased hid htype hmap hheap =>
    rw [List.append_nil]
    refine (and_iff_left (answerFits_of_lookup hrun hparse fun s hs => ?_)).symm
    rw [lookup_of_map hmap, hheap] at hs
    cases hs
  | deleted hid htype hmap hheap =>
    rw [List.append_nil]
    refine (and_iff_left (answerFits_of_type hparse ?_)).symm
    rw [htype]
    decide
  | @offered s handler hid htype hnew hspare hh =>
    have hanswer : sMsg.roap.type ≠ RoapType.answer := by
      rw [htype]
      decide
    have hnone : ∀ id' h', Entry.handled g.spare id' h' ∉ log :=
      fun id' h' hin => (hinv.logged _ hin).2.1 rfl
    rw [opposite_append_iff]
    refine and_congr_right fun _ => iff_of_true ?_ (answerFits_of_type hparse hanswer)
    exact ⟨fun id' h' wanted hin => absurd hin (hnone id' h'),
      fun id' h' wanted hin => absurd hin (hnone id' h')⟩
  | @passed a s handler hid htype hmap hheap hh =>
    rw [opposite_append_iff]
    refine and_congr_right fun _ => ?_
    rcases handlerFor_other htype hh with ⟨hanswer, rfl⟩ | ⟨hanswer, rfl⟩
    · refine iff_of_true ⟨?_, ?_⟩ (answerFits_of_type hparse hanswer)
      · intro id' h' wanted _ _ himpossible
        cases himpossible
      · intro id' h' wanted _ himpossible
        cases himpossible
    · rw [← answered_iff hrun hparse hmap hheap hanswer]
      refine and_iff_left ?_
      intro id' h' wanted _ hwanted
      rw [answerTo_answerHandler] at hwanted
      cases hwanted

/-- Every answer of a run is handled as one of the side opposite to the offer's
exactly when it fits the offer. -/
theorem opposite_iff (h : (gateway cfg).run (init cfg) es = .ok (g, log)) :
    Opposite log ↔ AnswersFit cfg es := by
  induction es using List.reverseRecOn generalizing g log with
  | nil =>
    obtain ⟨rfl, rfl⟩ := Machine.run_nil_ok.1 h
    exact iff_of_true (fun a id id' h h' wanted hin => absurd hin List.not_mem_nil)
      answersFit_nil
  | append_singleton es e ih =>
    obtain ⟨g₁, log₁, done, hrun, hstep, rfl⟩ := Machine.run_snoc_ok.1 h
    rw [answersFit_snoc]
    refine Iff.trans ?_ (and_congr_left' (ih hrun))
    rcases gateway_step_ok hstep with
        ⟨text, env, sMsg, used, g₂, rfl, hparse, hreceived, rfl⟩ | ⟨n, flow, rfl, rfl, hfired⟩
    · exact opposite_received hrun hparse hreceived
    · rw [List.append_nil]
      refine (and_iff_left ?_).symm
      intro text env sMsg g log s offer heq
      cases heq

/-- A call from IMS that the web answers with `crypto` in its text. -/
theorem opposite_call :
    ∃ g log,
      (gateway singleCall).run (init singleCall) [Event.of offerCall, Event.of answerCall] =
          .ok (g, log) ∧
        Entry.handled 0 (bytes "call") .offerFromIMS ∈ log ∧
        Entry.handled 0 (bytes "call") .answerFromWeb ∈ log ∧ Opposite log := by
  obtain ⟨g, log, hrun, hlog⟩ := Machine.exists_of_map
    (show ((gateway singleCall).run (init singleCall)
        [Event.of offerCall, Event.of answerCall]).toOption.map
          (fun r => decide (Entry.handled 0 (bytes "call") .offerFromIMS ∈ r.2 ∧
            Entry.handled 0 (bytes "call") .answerFromWeb ∈ r.2)) = some true by
      decide +kernel)
  obtain ⟨hoffer, hanswer⟩ := of_decide_eq_true hlog
  refine ⟨g, log, hrun, hoffer, hanswer, (opposite_iff hrun).2 ?_⟩
  have hfirst : AnswersFit singleCall [Event.of offerCall] := by
    refine answersFit_snoc.2 ⟨answersFit_nil, ?_⟩
    intro text env sMsg g log s offer _ _ _ _ _ hlast
    cases hlast
  refine answersFit_snoc.2 ⟨hfirst, ?_⟩
  intro text env sMsg g log s offer heq _ _ _ _ hlast
  obtain ⟨env', hmem⟩ := mem_of_lastOffer hlast
  obtain ⟨rfl, -⟩ := Event.message.inj heq
  obtain ⟨rfl, -⟩ := Event.message.inj (List.mem_singleton.1 hmem)
  decide +kernel

/-- An offer from the web. -/
def offerFromBrowser : SessionMessage :=
  SessionMessage.of RoapType.offer (bytes "call") answerCall.roap.sdp

/-- An answer without `crypto` and `fingerprint`. -/
def plainAnswer : SessionMessage :=
  SessionMessage.of RoapType.answer (bytes "call") offerCall.roap.sdp

/-- An offer from the web whose answer from IMS has `crypto` too, as a peer with
SDES sends it, and an offer from IMS whose answer from the web has neither word. -/
theorem not_opposite :
    (∃ g log,
      (gateway (Config.reading [offerFromBrowser, answerCall])).run
          (init (Config.reading [offerFromBrowser, answerCall]))
          [Event.of offerFromBrowser, Event.of answerCall] = .ok (g, log) ∧
        ¬ Opposite log) ∧
      ∃ g log,
        (gateway (Config.reading [offerCall, plainAnswer])).run
            (init (Config.reading [offerCall, plainAnswer]))
            [Event.of offerCall, Event.of plainAnswer] = .ok (g, log) ∧
          ¬ Opposite log := by
  constructor
  · obtain ⟨g, log, hrun, hlog⟩ := Machine.exists_of_map
      (show ((gateway (Config.reading [offerFromBrowser, answerCall])).run
          (init (Config.reading [offerFromBrowser, answerCall]))
          [Event.of offerFromBrowser, Event.of answerCall]).toOption.map
            (fun r => decide (Entry.handled 0 (bytes "call") .offerFromWeb ∈ r.2 ∧
              Entry.handled 0 (bytes "call") .answerFromWeb ∈ r.2)) = some true by
        decide +kernel)
    obtain ⟨hoffer, hanswer⟩ := of_decide_eq_true hlog
    refine ⟨g, log, hrun, fun hopposite => ?_⟩
    cases hopposite _ _ _ _ _ _ hoffer rfl hanswer rfl
  · obtain ⟨g, log, hrun, hlog⟩ := Machine.exists_of_map
      (show ((gateway (Config.reading [offerCall, plainAnswer])).run
          (init (Config.reading [offerCall, plainAnswer]))
          [Event.of offerCall, Event.of plainAnswer]).toOption.map
            (fun r => decide (Entry.handled 0 (bytes "call") .offerFromIMS ∈ r.2 ∧
              Entry.handled 0 (bytes "call") .answerFromIMS ∈ r.2)) = some true by
        decide +kernel)
    obtain ⟨hoffer, hanswer⟩ := of_decide_eq_true hlog
    refine ⟨g, log, hrun, fun hopposite => ?_⟩
    cases hopposite _ _ _ _ _ _ hoffer rfl hanswer rfl

end Gateway

end MediaGateway
