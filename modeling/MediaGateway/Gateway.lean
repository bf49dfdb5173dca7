import MediaGateway.FastWriter
import MediaGateway.Lib.Machine
import MediaGateway.MediaSession

/-!
# The gateway

`mediagateway.cpp`: the map of sessions, `handleSessionMessage` and the loop of
`connectToSignalingGateway`, together with the timers that call
`checkMediaFlow`.

Session objects are numbered by creation.  A number that is no longer in the
heap is a freed object and is never given out again, so a pointer to a freed
object stays one; using it is the fault `useAfterFree`.  Reaching an agent of a
stopped session is the fault `nullDeref`.

The state is the one in which the loop waits for a message: a spare session
exists.  `Event` has the two things that can happen then, a message and the
expiration of a timer, each handled as a whole.

A crash is not always a fault: a write behind a buffer and the destructor of a session
that was never started (`delete`) leave a process of which nothing is known, and the
run goes on here.  `Harmless` is the condition under which neither happens.
-/

namespace MediaGateway

open Lib

/-- The session objects, the map, the spare session of the loop and the
timers. -/
structure Gateway where
  heap : Nat → Option SessionObj
  next : Nat
  sessions : Bytes → Option Nat
  spare : Nat
  timer : Timer

/-- What the gateway does, and for which session and call. -/
inductive Entry
  /-- a handler of the session was called -/
  | handled (session : Nat) (offerSessionID : Bytes) (h : MediaSession.Handler)
  /-- the handler did something -/
  | did (session : Nat) (offerSessionID : Bytes) (act : Action)
  deriving DecidableEq

namespace Entry

def session : Entry → Nat
  | .handled session _ _ => session
  | .did session _ _ => session

def offerSessionID : Entry → Bytes
  | .handled _ offerSessionID _ => offerSessionID
  | .did _ offerSessionID _ => offerSessionID

end Entry

/-- What happens while the loop waits. -/
inductive Event
  /-- a message arrives -/
  | message (text : Bytes) (env : Env)
  /-- the timer thread `n` wakes up, with the packet counters at `flow` -/
  | expire (n : Nat) (flow : MediaSession.Flow)

/-- The arrival of a message as `FastWriter` writes it. -/
def Event.of (m : SessionMessage) : Event :=
  .message (Json.fastWrite (MessageParser.messageValue m)) Env.plain

namespace Gateway

/-! ## The objects -/

/-- `new MediaSession()` at the head of the loop. -/
def newSpare (cfg : Config) (g : Gateway) : Gateway :=
  { g with
    heap := Function.update g.heap g.next (some (.running (MediaSession.fresh cfg)))
    next := g.next + 1
    spare := g.next }

/-- The loop before the first message. -/
def init (cfg : Config) : Gateway :=
  newSpare cfg
    { heap := fun _ => none
      next := 0
      sessions := fun _ => none
      spare := 0
      timer := Timer.init }

/-- `session->setOfferSessionId(offerSessionID)`. -/
def setOfferSessionId (session : Nat) (offerSessionID : Bytes) (g : Gateway) :
    Except Fault Gateway :=
  match g.heap session with
  | none => .error .useAfterFree
  | some (.stopped _ timerID) =>
    .ok { g with
      heap := Function.update g.heap session (some (.stopped offerSessionID timerID)) }
  | some (.running s) =>
    .ok { g with
      heap := Function.update g.heap session (some (.running { s with offerSessionID })) }

/-- A session with the effects of one handler. -/
def afterHandler (cfg : Config) (h : MediaSession.Handler) (env : Env) (session : Nat)
    (sMsg : SessionMessage) (s : MediaSession) (g : Gateway) : Gateway :=
  let r := MediaSession.handle cfg h env session sMsg s g.timer
  { g with heap := Function.update g.heap session (some (.running r.1)), timer := r.2.1 }

/-- What one handler is logged with. -/
def entries (cfg : Config) (h : MediaSession.Handler) (env : Env) (session : Nat)
    (sMsg : SessionMessage) (s : MediaSession) (g : Gateway) : List Entry :=
  .handled session sMsg.roap.offerSessionID h ::
    (MediaSession.handle cfg h env session sMsg s g.timer).2.2.map
      (.did session sMsg.roap.offerSessionID)

/-- `session->handle...(sMsg)`. -/
def call (cfg : Config) (h : MediaSession.Handler) (env : Env) (session : Nat)
    (sMsg : SessionMessage) (g : Gateway) : Except Fault (Gateway × List Entry) :=
  match g.heap session with
  | none => .error .useAfterFree
  | some (.stopped _ _) => .error .nullDeref
  | some (.running s) =>
    .ok (g.afterHandler cfg h env session sMsg s, g.entries cfg h env session sMsg s)

/-- `delete session`: the destructor stops the timer that `timerID` names.  It also
cancels the threads of the codec converters, which only `doTailingJobs` starts: for a
session without tailing jobs it passes numbers that were never set to
`pthread_cancel`, and what becomes of the process then is not defined.  Here it goes
on, and `HarmlessIn` has the condition. -/
def delete (session timerID : Nat) (g : Gateway) : Gateway :=
  { g with
    heap := Function.update g.heap session none
    timer := if timerID ≠ 0 then (g.timer.stopTimer timerID).2 else g.timer }

/-! ## Messages -/

/-- `isFromBrowser`. -/
def isFromBrowser (message : Bytes) : Bool :=
  Bytes.contains message (bytes "crypto") || Bytes.contains message (bytes "fingerprint")

/-- The branch for an offer. -/
def handleOffer (cfg : Config) (env : Env) (message : Bytes) (sMsg : SessionMessage)
    (session : Nat) (g : Gateway) : Except Fault (Bool × Gateway × List Entry) :=
  let offerSessionID := sMsg.roap.offerSessionID
  match g.sessions offerSessionID with
  | some _ => .error .assertUsed
  | none =>
    match g.setOfferSessionId session offerSessionID with
    | .error f => .error f
    | .ok g =>
      let g := { g with sessions := Function.update g.sessions offerSessionID (some session) }
      match g.call cfg (if isFromBrowser message then .offerFromWeb else .offerFromIMS) env
          session sMsg with
      | .error f => .error f
      | .ok (g, log) => .ok (true, g, log)

/-- The branch for every other type. -/
def handleOther (cfg : Config) (env : Env) (message : Bytes) (sMsg : SessionMessage)
    (g : Gateway) : Except Fault (Bool × Gateway × List Entry) :=
  let offerSessionID := sMsg.roap.offerSessionID
  match g.sessions offerSessionID with
  | none => .ok (false, g, [])
  | some session =>
    match g.heap session with
    | none => .error .useAfterFree
    | some (.stopped _ _) =>
      .ok (false, { g with sessions := Function.update g.sessions offerSessionID none }, [])
    | some (.running s) =>
      if sMsg.roap.type = RoapType.candidate then
        match g.call cfg .candidateFromWeb env session sMsg with
        | .error f => .error f
        | .ok (g, log) => .ok (false, g, log)
      else if sMsg.roap.type = RoapType.answer then
        match g.call cfg (if isFromBrowser message then .answerFromWeb else .answerFromIMS) env
            session sMsg with
        | .error f => .error f
        | .ok (g, log) => .ok (false, g, log)
      else if sMsg.roap.type = RoapType.ok then
        .ok (false, g, [])
      else if sMsg.roap.type = RoapType.shutdownR then
        .ok
          ( false
          , { g.delete session s.timerID with
              sessions := Function.update g.sessions offerSessionID none }
          , [] )
      else
        .ok (false, g, [])

/-- `handleSessionMessage`: what it returns, the state and what was done. -/
def handleSessionMessage (cfg : Config) (env : Env) (message : Bytes) (session : Nat)
    (g : Gateway) : Except Fault (Bool × Gateway × List Entry) :=
  match MessageParser.parserSessionMessage cfg.json env.mem message with
  | .error f => .error f
  | .ok sMsg =>
    if sMsg.roap.offerSessionID = [] then
      .ok (false, g, [])
    else if sMsg.roap.type = RoapType.offer then
      g.handleOffer cfg env message sMsg session
    else
      g.handleOther cfg env message sMsg

/-- One round of the loop. -/
def receive (cfg : Config) (env : Env) (message : Bytes) (g : Gateway) :
    Except Fault (Gateway × List Entry) :=
  match g.handleSessionMessage cfg env message g.spare with
  | .error f => .error f
  | .ok (used, g, log) => .ok (if used then g.newSpare cfg else g, log)

/-! ## Timers -/

/-- `onTimeout` in the thread `n`, which calls `checkMediaFlow`.  A thread that
does not exist never wakes up. -/
def onTimeout (n : Nat) (flow : MediaSession.Flow) (g : Gateway) : Except Fault Gateway :=
  if g.timer.running n then
    match g.timer.objects n with
    | none => .error .useAfterFree
    | some ts =>
      match g.heap ts.para with
      | none => .error .useAfterFree
      | some (.stopped _ _) => .error .nullDeref
      | some (.running s) =>
        let r := (s.withFlow flow).checkMediaFlow ts.para g.timer
        .ok { g with
          heap := Function.update g.heap ts.para (some r.1)
          timer := r.2.expire n ts.id }
  else
    .ok g

end Gateway

open Gateway

/-- The gateway as a machine. -/
def gateway (cfg : Config) : Machine Gateway Event Entry Fault where
  step := fun g e =>
    match e with
    | .message text env => g.receive cfg env text
    | .expire n flow =>
      match g.onTimeout n flow with
      | .error f => .error f
      | .ok g => .ok (g, [])

end MediaGateway
