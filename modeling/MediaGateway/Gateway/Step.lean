import MediaGateway.Gateway

/-!
# What one step of the gateway does

`Received` lists the ways in which `handleSessionMessage` can return and `Fired`
those in which a timer can end; `receive_ok_iff` and `onTimeout_ok_iff` say that
these are all of them.  The invariants are proved from these two relations and
never look into `handleSessionMessage` again.
-/

namespace MediaGateway

open Lib MediaSession

namespace Gateway

variable {cfg : Config} {env : Env} {text : Bytes} {sMsg : SessionMessage} {used : Bool}
  {g g' : Gateway} {log : List Entry}

/-! ## Messages -/

/-- The handler that a message is given to, by its ROAP type. -/
def handlerFor (message : Bytes) (roapType : RoapType) : Option Handler :=
  if roapType = RoapType.offer then
    some (if isFromBrowser message then .offerFromWeb else .offerFromIMS)
  else if roapType = RoapType.candidate then
    some .candidateFromWeb
  else if roapType = RoapType.answer then
    some (if isFromBrowser message then .answerFromWeb else .answerFromIMS)
  else
    none

/-- The spare session takes the call. -/
def takeCall (offerSessionID : Bytes) (s : MediaSession) (g : Gateway) : Gateway :=
  { g with
    heap := Function.update g.heap g.spare (some (.running { s with offerSessionID }))
    sessions := Function.update g.sessions offerSessionID (some g.spare) }

/-- The call leaves the map. -/
def forget (offerSessionID : Bytes) (g : Gateway) : Gateway :=
  { g with sessions := Function.update g.sessions offerSessionID none }

/-- The ways in which `handleSessionMessage` can end: what it returns, the state
and what was done. -/
inductive Received (cfg : Config) (env : Env) (text : Bytes) (sMsg : SessionMessage)
    (g : Gateway) : Bool → Gateway → List Entry → Prop
  | ignored
      (hnone : sMsg.roap.offerSessionID = [] ∨
        sMsg.roap.type ≠ RoapType.offer ∧ g.sessions sMsg.roap.offerSessionID = none) :
      Received cfg env text sMsg g false g []
  | offered {s : MediaSession} {h : Handler}
      (hid : sMsg.roap.offerSessionID ≠ []) (htype : sMsg.roap.type = RoapType.offer)
      (hnew : g.sessions sMsg.roap.offerSessionID = none)
      (hspare : g.heap g.spare = some (.running s))
      (hh : handlerFor text sMsg.roap.type = some h) :
      Received cfg env text sMsg g true
        ((g.takeCall sMsg.roap.offerSessionID s).afterHandler cfg h env g.spare sMsg
          { s with offerSessionID := sMsg.roap.offerSessionID })
        (g.entries cfg h env g.spare sMsg { s with offerSessionID := sMsg.roap.offerSessionID })
  | erased {a : Nat} {id : Bytes} {timerID : Nat}
      (hid : sMsg.roap.offerSessionID ≠ []) (htype : sMsg.roap.type ≠ RoapType.offer)
      (hmap : g.sessions sMsg.roap.offerSessionID = some a)
      (hheap : g.heap a = some (.stopped id timerID)) :
      Received cfg env text sMsg g false (g.forget sMsg.roap.offerSessionID) []
  | passed {a : Nat} {s : MediaSession} {h : Handler}
      (hid : sMsg.roap.offerSessionID ≠ []) (htype : sMsg.roap.type ≠ RoapType.offer)
      (hmap : g.sessions sMsg.roap.offerSessionID = some a)
      (hheap : g.heap a = some (.running s))
      (hh : handlerFor text sMsg.roap.type = some h) :
      Received cfg env text sMsg g false (g.afterHandler cfg h env a sMsg s)
        (g.entries cfg h env a sMsg s)
  | deleted {a : Nat} {s : MediaSession}
      (hid : sMsg.roap.offerSessionID ≠ []) (htype : sMsg.roap.type = RoapType.shutdownR)
      (hmap : g.sessions sMsg.roap.offerSessionID = some a)
      (hheap : g.heap a = some (.running s)) :
      Received cfg env text sMsg g false
        ((g.delete a s.timerID).forget sMsg.roap.offerSessionID) []
  | noted {a : Nat} {s : MediaSession}
      (hid : sMsg.roap.offerSessionID ≠ []) (htype : sMsg.roap.type ≠ RoapType.shutdownR)
      (hh : handlerFor text sMsg.roap.type = none)
      (hmap : g.sessions sMsg.roap.offerSessionID = some a)
      (hheap : g.heap a = some (.running s)) :
      Received cfg env text sMsg g false g []

theorem handlerFor_offer :
    handlerFor text RoapType.offer =
      some (if isFromBrowser text then .offerFromWeb else .offerFromIMS) :=
  rfl

/-- The branch for an offer, in a state with a running spare session. -/
theorem handleOffer_eq {s : MediaSession} (hnew : g.sessions sMsg.roap.offerSessionID = none)
    (hspare : g.heap g.spare = some (.running s)) :
    g.handleOffer cfg env text sMsg g.spare =
      .ok
        ( true
        , (g.takeCall sMsg.roap.offerSessionID s).afterHandler cfg
            (if isFromBrowser text then .offerFromWeb else .offerFromIMS) env g.spare sMsg
            { s with offerSessionID := sMsg.roap.offerSessionID }
        , g.entries cfg (if isFromBrowser text then .offerFromWeb else .offerFromIMS) env
            g.spare sMsg { s with offerSessionID := sMsg.roap.offerSessionID } ) := by
  simp only [handleOffer, hnew, setOfferSessionId, hspare, call, Function.update_self]
  rfl

/-- The branch for the other types, for a call with a running session. -/
theorem handleOther_eq {a : Nat} {s : MediaSession} (htype : sMsg.roap.type ≠ RoapType.offer)
    (hmap : g.sessions sMsg.roap.offerSessionID = some a)
    (hheap : g.heap a = some (.running s)) :
    g.handleOther cfg env text sMsg =
      match handlerFor text sMsg.roap.type with
      | some h => .ok (false, g.afterHandler cfg h env a sMsg s, g.entries cfg h env a sMsg s)
      | none =>
        if sMsg.roap.type = RoapType.shutdownR then
          .ok (false, (g.delete a s.timerID).forget sMsg.roap.offerSessionID, [])
        else
          .ok (false, g, []) := by
  simp only [handleOther, hmap, hheap, handlerFor, if_neg htype, call]
  by_cases hcand : sMsg.roap.type = RoapType.candidate
  · simp only [if_pos hcand]
  · by_cases hans : sMsg.roap.type = RoapType.answer
    · simp only [if_neg hcand, if_pos hans]
    · by_cases hok : sMsg.roap.type = RoapType.ok
      · have hshut : sMsg.roap.type ≠ RoapType.shutdownR := by
          rw [hok]
          decide
        simp only [if_neg hcand, if_neg hans, if_pos hok, if_neg hshut]
      · simp only [if_neg hcand, if_neg hans, if_neg hok]
        rfl

theorem handlerFor_shutdown : handlerFor text RoapType.shutdownR = none := rfl

theorem ok_inj {used used' : Bool} {g g' : Gateway} {log log' : List Entry}
    (h : (.ok (used, g, log) : Except Fault (Bool × Gateway × List Entry)) =
      .ok (used', g', log')) : used = used' ∧ g = g' ∧ log = log' := by
  simpa using h

/-- A call of `handleSessionMessage` that returns ends in one of the listed
ways. -/
theorem received_of_ok
    (h : g.handleSessionMessage cfg env text g.spare = .ok (used, g', log)) :
    ∃ sMsg, MessageParser.parserSessionMessage cfg.json env.mem text = .ok sMsg ∧
      Received cfg env text sMsg g used g' log := by
  unfold handleSessionMessage at h
  cases hparse : MessageParser.parserSessionMessage cfg.json env.mem text with
  | error f =>
    rw [hparse] at h
    cases h
  | ok sMsg =>
    refine ⟨sMsg, rfl, ?_⟩
    simp only [hparse] at h
    by_cases hid : sMsg.roap.offerSessionID = []
    · rw [if_pos hid] at h
      obtain ⟨rfl, rfl, rfl⟩ := ok_inj h
      exact .ignored (.inl hid)
    rw [if_neg hid] at h
    by_cases htype : sMsg.roap.type = RoapType.offer
    · rw [if_pos htype] at h
      cases hnew : g.sessions sMsg.roap.offerSessionID with
      | some a =>
        simp only [handleOffer, hnew] at h
        cases h
      | none =>
        cases hspare : g.heap g.spare with
        | none =>
          simp only [handleOffer, hnew, setOfferSessionId, hspare] at h
          cases h
        | some o =>
          cases o with
          | stopped id timerID =>
            simp only [handleOffer, hnew, setOfferSessionId, hspare, call,
              Function.update_self] at h
            cases h
          | running s =>
            rw [handleOffer_eq hnew hspare] at h
            obtain ⟨rfl, rfl, rfl⟩ := ok_inj h
            exact .offered hid htype hnew hspare (by rw [htype, handlerFor_offer])
    · rw [if_neg htype] at h
      cases hmap : g.sessions sMsg.roap.offerSessionID with
      | none =>
        simp only [handleOther, hmap] at h
        obtain ⟨rfl, rfl, rfl⟩ := ok_inj h
        exact .ignored (.inr ⟨htype, hmap⟩)
      | some a =>
        cases hheap : g.heap a with
        | none =>
          simp only [handleOther, hmap, hheap] at h
          cases h
        | some o =>
          cases o with
          | stopped id timerID =>
            simp only [handleOther, hmap, hheap] at h
            obtain ⟨rfl, rfl, rfl⟩ := ok_inj h
            exact .erased hid htype hmap hheap
          | running s =>
            rw [handleOther_eq htype hmap hheap] at h
            cases hh : handlerFor text sMsg.roap.type with
            | some handler =>
              rw [hh] at h
              obtain ⟨rfl, rfl, rfl⟩ := ok_inj h
              exact .passed hid htype hmap hheap hh
            | none =>
              rw [hh] at h
              by_cases hshut : sMsg.roap.type = RoapType.shutdownR
              · simp only [if_pos hshut] at h
                obtain ⟨rfl, rfl, rfl⟩ := ok_inj h
                exact .deleted hid hshut hmap hheap
              · simp only [if_neg hshut] at h
                obtain ⟨rfl, rfl, rfl⟩ := ok_inj h
                exact .noted hid hshut hh hmap hheap

/-- Each of the listed ways is one in which it returns. -/
theorem ok_of_received
    (hparse : MessageParser.parserSessionMessage cfg.json env.mem text = .ok sMsg)
    (h : Received cfg env text sMsg g used g' log) :
    g.handleSessionMessage cfg env text g.spare = .ok (used, g', log) := by
  unfold handleSessionMessage
  simp only [hparse]
  cases h with
  | ignored hnone =>
    rcases hnone with hid | ⟨htype, hmap⟩
    · simp [hid]
    · by_cases hid : sMsg.roap.offerSessionID = [] <;> simp [hid, htype, handleOther, hmap]
  | offered hid htype hnew hspare hh =>
    rw [htype, handlerFor_offer] at hh
    obtain rfl := Option.some.inj hh
    simp only [hid, htype, if_true, if_false, handleOffer_eq hnew hspare]
  | erased hid htype hmap hheap => simp [hid, htype, handleOther, hmap, hheap, forget]
  | passed hid htype hmap hheap hh =>
    simp only [hid, htype, if_false, handleOther_eq htype hmap hheap, hh]
  | deleted hid htype hmap hheap =>
    have hoffer : sMsg.roap.type ≠ RoapType.offer := by
      rw [htype]
      decide
    have hh : handlerFor text sMsg.roap.type = none := by rw [htype, handlerFor_shutdown]
    simp only [hid, hoffer, if_false, handleOther_eq hoffer hmap hheap, hh, if_pos htype]
  | noted hid htype hh hmap hheap =>
    have hoffer : sMsg.roap.type ≠ RoapType.offer := by
      intro hoffer
      rw [hoffer, handlerFor_offer] at hh
      cases hh
    simp only [hid, hoffer, if_false, handleOther_eq hoffer hmap hheap, hh, if_neg htype]

/-- The state in which the loop waits again. -/
def wait (cfg : Config) (used : Bool) (g : Gateway) : Gateway :=
  if used then g.newSpare cfg else g

theorem receive_ok_iff :
    g.receive cfg env text = .ok (g', log) ↔
      ∃ sMsg used g₁, MessageParser.parserSessionMessage cfg.json env.mem text = .ok sMsg ∧
        Received cfg env text sMsg g used g₁ log ∧ g' = g₁.wait cfg used := by
  constructor
  · intro h
    unfold receive at h
    cases hhandle : g.handleSessionMessage cfg env text g.spare with
    | error f =>
      rw [hhandle] at h
      cases h
    | ok r =>
      obtain ⟨used, g₁, done⟩ := r
      rw [hhandle] at h
      obtain ⟨rfl, rfl⟩ := Prod.mk.inj (Except.ok.inj h)
      obtain ⟨sMsg, hparse, hreceived⟩ := received_of_ok hhandle
      exact ⟨sMsg, used, g₁, hparse, hreceived, rfl⟩
  · intro hex
    rcases hex with ⟨sMsg, used, g₁, hparse, hreceived, rfl⟩
    unfold receive
    rw [ok_of_received hparse hreceived]
    rfl

/-! ## Timers -/

/-- The ways in which `onTimeout` can end. -/
inductive Fired (n : Nat) (flow : Flow) (g : Gateway) : Gateway → Prop
  | absent (hoff : g.timer.running n = false) : Fired n flow g g
  | kept {ts : Ts} {s : MediaSession} (hon : g.timer.running n = true)
      (hts : g.timer.objects n = some ts) (hheap : g.heap ts.para = some (.running s))
      (hflow : s.flows flow = true) :
      Fired n flow g
        { g with
          heap := Function.update g.heap ts.para
            (some (.running
              { s.keepFlow flow with timerID := (g.timer.setTimer ts.para).1 }))
          timer := (g.timer.setTimer ts.para).2.expire n ts.id }
  | tornDown {ts : Ts} {s : MediaSession} (hon : g.timer.running n = true)
      (hts : g.timer.objects n = some ts) (hheap : g.heap ts.para = some (.running s))
      (hflow : s.flows flow = false) :
      Fired n flow g
        { g with
          heap := Function.update g.heap ts.para (some (.stopped s.offerSessionID s.timerID))
          timer := g.timer.expire n ts.id }

theorem onTimeout_ok_iff {n : Nat} {flow : Flow} :
    g.onTimeout n flow = .ok g' ↔ Fired n flow g g' := by
  constructor
  · intro h
    unfold onTimeout at h
    cases hon : g.timer.running n with
    | false =>
      simp only [hon, Bool.false_eq_true, if_false] at h
      obtain rfl := Except.ok.inj h
      exact .absent hon
    | true =>
      simp only [hon, if_true] at h
      cases hts : g.timer.objects n with
      | none =>
        rw [hts] at h
        cases h
      | some ts =>
        cases hheap : g.heap ts.para with
        | none =>
          simp only [hts, hheap] at h
          cases h
        | some o =>
          cases o with
          | stopped id timerID =>
            simp only [hts, hheap] at h
            cases h
          | running s =>
            simp only [hts, hheap, checkMediaFlow_eq] at h
            cases hflow : s.flows flow with
            | true =>
              simp only [hflow, if_true] at h
              obtain rfl := Except.ok.inj h
              exact .kept hon hts hheap hflow
            | false =>
              simp only [hflow, Bool.false_eq_true, if_false] at h
              obtain rfl := Except.ok.inj h
              exact .tornDown hon hts hheap hflow
  · intro h
    unfold onTimeout
    cases h with
    | absent hoff => simp [hoff]
    | kept hon hts hheap hflow =>
      simp only [hon, if_true, hts, hheap, checkMediaFlow_eq, hflow]
    | tornDown hon hts hheap hflow =>
      simp only [hon, if_true, hts, hheap, checkMediaFlow_eq, hflow, Bool.false_eq_true, if_false]

end Gateway

/-- A step of the gateway is a round of the loop or a timer. -/
theorem gateway_step_ok {cfg : Config} {g g' : Gateway} {e : Event} {log : List Entry}
    (h : (gateway cfg).step g e = .ok (g', log)) :
    (∃ text env sMsg used g₁, e = .message text env ∧
        MessageParser.parserSessionMessage cfg.json env.mem text = .ok sMsg ∧
        Gateway.Received cfg env text sMsg g used g₁ log ∧ g' = g₁.wait cfg used) ∨
      ∃ n flow, e = .expire n flow ∧ log = [] ∧ Gateway.Fired n flow g g' := by
  cases e with
  | message text env =>
    obtain ⟨sMsg, used, g₁, hparse, hreceived, hwait⟩ := Gateway.receive_ok_iff.1 h
    exact .inl ⟨text, env, sMsg, used, g₁, rfl, hparse, hreceived, hwait⟩
  | expire n flow =>
    refine .inr ⟨n, flow, rfl, ?_⟩
    simp only [gateway] at h
    split at h
    · cases h
    · rename_i g₁ htimeout
      obtain ⟨rfl, rfl⟩ := Prod.mk.inj (Except.ok.inj h)
      exact ⟨rfl, Gateway.onTimeout_ok_iff.1 htimeout⟩

end MediaGateway
