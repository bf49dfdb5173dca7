import MediaGateway.CommonType
import MediaGateway.Lib.Framing
import MediaGateway.Lib.Machine
import Mathlib.Logic.Function.Basic

/-!
# Sub media gateways

`submg.cpp`, and `CodecConverter::run` of `codecconverter.cpp`.  The thread that
handles the calls sends a START message to one of the sub-MGs and polls
`curstate` until an answer has come.  The thread of `SubMG::run` accepts the
sub-MGs, reads their answers and stores them in `curstate` and `addr`.

The two threads share the static members of `SubMG`.  A step is one statement of
one of the threads that touches a shared member, and the list of events says in
which order the steps are taken and what the system calls return.  A loop that
polls takes one step for each time that it looks.

The bytes of a number are in memory with the least significant one first.  What
else a `CtrlMsg` looks like in memory depends on `sizeof(long)` (`Long`).  An ID is
the unsigned number that `ntohl` returns: where a `long` has 32 bits, one of `2 ^ 31`
or more is negative, and never in use either way.  `SubMG::run` is modelled from the
point where it listens, and `fds` as a set of any descriptors: `FD_SET` has room for
those below `FD_SETSIZE` only, so the model is of a process that has fewer open.
-/

namespace MediaGateway

open Lib

def SIZE : Nat := 1005

/-! ## Control messages -/

namespace CTRLMSGTYPE

def START : UInt8 := 0
def OK_FOR_START : UInt8 := 1

end CTRLMSGTYPE

/-- The type `long`. -/
inductive Long
  | bits32
  | bits64
  deriving DecidableEq, Repr

/-- `sizeof(long)`, which is also what a `long` is aligned to. -/
def Long.size : Long → Nat
  | .bits32 => 4
  | .bits64 => 8

/-- `CtrlMsg` with the values of its members once `ntohs` and `ntohl` have been
applied.  `pad` is what stands in the four bytes before `ID`, which nothing
sets; there are such bytes where a `long` has 64 bits. -/
structure CtrlMsg where
  msgType : UInt8
  codec : UInt8
  port : UInt16
  pad : UInt32
  ID : Nat
  deriving DecidableEq, Repr

namespace CtrlMsg

/-- `sizeof(CtrlMsg)`: `ID` starts at a multiple of the size of a `long`. -/
def size (long : Long) : Nat := 2 * long.size

/-- The message in memory.  `ID` is the value of `htonl`, which has 32 bits: the upper
half of a longer `long` is zero. -/
def bytes (long : Long) (m : CtrlMsg) : Bytes :=
  [ m.msgType, m.codec, UInt8.ofNat (m.port.toNat / 2 ^ 8), UInt8.ofNat m.port.toNat ] ++
    (Framing.header m.pad.toNat).take (long.size - 4) ++ Framing.header m.ID ++
      List.replicate (long.size - 4) 0

/-- The members of the message that a buffer starts with.  `ntohl` takes the lower
half of a longer `ID`. -/
def ofBuffer (long : Long) (buf : Bytes) : CtrlMsg where
  msgType := buf.getD 0 0
  codec := buf.getD 1 0
  port := UInt16.ofNat (Framing.ofHeader ((buf.drop 2).take 2))
  pad := UInt32.ofNat (Framing.ofHeader ((buf.drop 4).take (long.size - 4)))
  ID := Framing.ofHeader ((buf.drop long.size).take 4)

/-- The beginning of the buffer after `memset` and `recv`. -/
def received (long : Long) (data : Bytes) : CtrlMsg :=
  ofBuffer long ((data ++ List.replicate (size long) 0).take (size long))

end CtrlMsg

/-! ## The two threads -/

namespace SubMG

/-- What the two threads run with: the table that `main` builds, and the size of a
`long`. -/
structure Config where
  codec : SIPCodec
  long : Long
  deriving DecidableEq, Repr

/-- What one call of `CodecConverter::run` works with: the codec is the one that
`SIPCodec` selects, `destPort` is what the uninitialised local holds. -/
structure Request where
  type : Bool
  codec : UInt8
  myRecvPort : UInt16
  destPort : UInt16
  pad : UInt32
  deriving DecidableEq, Repr

/-- The statement that the thread of `CodecConverter::run` comes to next. -/
inductive Requester
  | idle
  /-- the loop of `getVacID` -/
  | getVacID (r : Request)
  /-- `if(avaSubMG.size() == 0)` -/
  | available (r : Request) (idx : Nat)
  /-- `send` -/
  | sending (r : Request) (idx : Nat)
  /-- `curstate[idx] = 1`, the message having gone to `subMG` -/
  | sent (r : Request) (idx : Nat) (subMG : Bytes × Nat)
  /-- `while(curstate[idx] == 1)` -/
  | polling (r : Request) (idx : Nat) (subMG : Bytes × Nat)
  /-- `assert(curstate[idx] == 2)` -/
  | checking (r : Request) (idx : Nat)
  /-- `destIP = addr[idx].first` -/
  | readFirst (r : Request) (idx : Nat)
  /-- `destPort = addr[idx].second` -/
  | readSecond (r : Request) (idx : Nat) (destIP : Bytes)
  /-- `setDestination(destIP, destPort)`, `ab` being what `startFFmpeg` returned if it
  was called -/
  | returned (type : Bool) (ab : Option Int) (destIP : Bytes) (destPort : UInt16)
  /-- `helper->run` -/
  | running (type : Bool) (ab : Option Int)
  deriving DecidableEq, Repr

/-- One round of the loop of `SubMG::run`: the index of the `for` loop and the
descriptors that `select` found ready. -/
structure Round where
  i : Nat
  fds : List Nat
  listening : Bool
  deriving DecidableEq, Repr

/-- The statement that the thread of `SubMG::run` comes to next. -/
inductive Control
  /-- the beginning of the `while` loop, up to `select` -/
  | top
  /-- the body of the `for` loop, up to `recv` -/
  | scan (r : Round)
  /-- `while(!curstate[msg.ID])` -/
  | wait (r : Round) (msg : CtrlMsg)
  /-- `curstate[msg.ID] = 2` -/
  | setState (r : Round) (msg : CtrlMsg)
  /-- `addr[msg.ID].first = avaSubMG[i].first` -/
  | setFirst (r : Round) (msg : CtrlMsg)
  /-- `addr[msg.ID].second = msg.port` -/
  | setSecond (r : Round) (msg : CtrlMsg)
  deriving DecidableEq, Repr

/-- The static members, and where the threads stand. -/
structure State where
  /-- IP and descriptor of each sub-MG -/
  avaSubMG : List (Bytes × Nat)
  idCnt : Nat
  curstate : Nat → Nat
  addr : Nat → Bytes × UInt16
  requester : Requester
  control : Control

def init : State where
  avaSubMG := []
  idCnt := 0
  curstate := fun _ => 0
  addr := fun _ => ([], 0)
  requester := .idle
  control := .top

/-- `avaSubMG[i]`. -/
def State.subMG (s : State) (i : Nat) : Bytes × Nat := s.avaSubMG.getD i ([], 0)

/-- What is done in a run. -/
inductive Entry
  /-- a START message went to a sub-MG -/
  | sent (subMG : Bytes × Nat) (msg : CtrlMsg)
  /-- `recv` returned data of a sub-MG -/
  | received (subMG : Bytes × Nat) (data : Bytes)
  /-- an answer is in `curstate` and `addr` -/
  | applied (subMG : Bytes × Nat) (ID : Nat) (port : UInt16)
  /-- `Helper::setDestination` -/
  | setDestination (type : Bool) (ab : Option Int) (destIP : Bytes) (destPort : UInt16)
  /-- `Helper::run` -/
  | run (type : Bool) (ab : Option Int)
  deriving DecidableEq, Repr

/-- How the process can end. -/
inductive Fault
  /-- `assert(msg.msgType == OK_FOR_START)` -/
  | assertType
  /-- `assert(curstate[idx] == 2)` -/
  | assertState
  /-- `rand() % avaSubMG.size()` with no sub-MG -/
  | divideByZero
  deriving DecidableEq, Repr

/-- What the system calls of one step return. -/
structure Outside where
  rand : Nat
  /-- what `send` returns -/
  num : Int
  /-- the descriptors of sub-MGs that `select` leaves in the set -/
  ready : List Nat
  /-- whether it leaves `sockfd` there -/
  listening : Bool
  /-- what `recv` returns, nothing when the connection is closed or has failed -/
  data : Bytes
  /-- IP and descriptor that `accept` returns, if it succeeds -/
  client : Option (Bytes × Nat)
  deriving DecidableEq, Repr

/-- Who takes the next step. -/
inductive Event
  /-- `CodecConverter::run` of a converter is called -/
  | call (type : Bool) (myRecvPort destPort : UInt16) (pad : UInt32)
  | requester (env : Outside)
  | control (env : Outside)
  deriving DecidableEq, Repr

/-! ### The thread of `CodecConverter::run` -/

/-- The beginning of `CodecConverter::run`: which codec is asked for, if any. -/
def selectCodec (codec : SIPCodec) (type : Bool) : Option UInt8 :=
  if type = false then
    if codec.H264 then some 1 else if codec.H263 then some 0 else none
  else
    if codec.H264 then some 3 else if codec.H263 then some 2 else none

/-- `CodecConverter::run` is called while the thread is free. -/
def call (cfg : Config) (type : Bool) (myRecvPort destPort : UInt16) (pad : UInt32)
    (s : State) : State :=
  match s.requester with
  | .idle =>
    match selectCodec cfg.codec type with
    | some codec => { s with requester := .getVacID { type, codec, myRecvPort, destPort, pad } }
    | none => { s with requester := .returned type none [] destPort }
  | _ => s

/-- One step of the thread. -/
def requesterStep (env : Outside) (s : State) : Except Fault (State × List Entry) :=
  match s.requester with
  | .idle => .ok (s, [])
  | .getVacID r =>
    let n := s.idCnt + 1
    if n = 0x7fffffff then .ok ({ s with idCnt := 0 }, [])
    else if s.curstate n ≠ 0 then .ok ({ s with idCnt := n }, [])
    else .ok ({ s with idCnt := n, requester := .available r n }, [])
  | .available r idx =>
    if s.avaSubMG.length = 0 then
      .ok ({ s with requester := .returned r.type (some (-1)) [] r.destPort }, [])
    else
      .ok ({ s with requester := .sending r idx }, [])
  | .sending r idx =>
    if s.avaSubMG.length = 0 then .error .divideByZero
    else
      let subMG := s.subMG (env.rand % s.avaSubMG.length)
      if env.num ≤ 0 then
        .ok ({ s with requester := .returned r.type (some (-2)) [] r.destPort }, [])
      else
        .ok ({ s with requester := .sent r idx subMG },
          [.sent subMG
            { msgType := CTRLMSGTYPE.START, codec := r.codec, port := r.myRecvPort, pad := r.pad
              ID := idx }])
  | .sent r idx subMG =>
    .ok ({ s with
      curstate := Function.update s.curstate idx 1, requester := .polling r idx subMG }, [])
  | .polling r idx _ =>
    if s.curstate idx = 1 then .ok (s, [])
    else .ok ({ s with requester := .checking r idx }, [])
  | .checking r idx =>
    if s.curstate idx = 2 then .ok ({ s with requester := .readFirst r idx }, [])
    else .error .assertState
  | .readFirst r idx => .ok ({ s with requester := .readSecond r idx (s.addr idx).1 }, [])
  | .readSecond r idx destIP =>
    .ok ({ s with requester := .returned r.type (some idx) destIP (s.addr idx).2 }, [])
  | .returned type ab destIP destPort =>
    .ok ({ s with requester := .running type ab }, [.setDestination type ab destIP destPort])
  | .running type ab => .ok ({ s with requester := .idle }, [.run type ab])

/-! ### The thread of `SubMG::run` -/

/-- `accept`, when `select` found `sockfd` ready: a sub-MG whose IP is there already
is refused. -/
def accept (r : Round) (env : Outside) (s : State) : State :=
  if r.listening then
    match env.client with
    | none => { s with control := .top }
    | some (IP, clientfd) =>
      if s.avaSubMG.any fun subMG => subMG.1 == IP then { s with control := .top }
      else { s with avaSubMG := s.avaSubMG ++ [(IP, clientfd)], control := .top }
  else
    { s with control := .top }

/-- One step of the thread. -/
def controlStep (cfg : Config) (env : Outside) (s : State) : Except Fault (State × List Entry) :=
  match s.control with
  | .top =>
    let fds := env.ready.filter fun fd => fd ∈ s.avaSubMG.map Prod.snd
    .ok ({ s with control := .scan { i := 0, fds, listening := env.listening } }, [])
  | .scan r =>
    if r.i < s.avaSubMG.length then
      if (s.subMG r.i).2 ∈ r.fds then
        let data := env.data.take SIZE
        if data = [] then
          .ok ({ s with
            avaSubMG := s.avaSubMG.eraseIdx r.i, control := .scan { r with i := r.i + 1 } }, [])
        else
          let msg := CtrlMsg.received cfg.long data
          if msg.msgType = CTRLMSGTYPE.OK_FOR_START then
            .ok ({ s with control := .wait r msg }, [.received (s.subMG r.i) data])
          else
            .error .assertType
      else
        .ok ({ s with control := .scan { r with i := r.i + 1 } }, [])
    else
      .ok (accept r env s, [])
  | .wait r msg =>
    if s.curstate msg.ID = 0 then .ok (s, [])
    else .ok ({ s with control := .setState r msg }, [])
  | .setState r msg =>
    .ok ({ s with
      curstate := Function.update s.curstate msg.ID 2, control := .setFirst r msg }, [])
  | .setFirst r msg =>
    .ok ({ s with
      addr := Function.update s.addr msg.ID ((s.subMG r.i).1, (s.addr msg.ID).2)
      control := .setSecond r msg }, [])
  | .setSecond r msg =>
    .ok ({ s with
      addr := Function.update s.addr msg.ID ((s.addr msg.ID).1, msg.port)
      control := .scan { r with i := r.i + 1 } }, [.applied (s.subMG r.i) msg.ID msg.port])

/-- One step of the process. -/
def step (cfg : Config) (s : State) : Event → Except Fault (State × List Entry)
  | .call type myRecvPort destPort pad => .ok (call cfg type myRecvPort destPort pad s, [])
  | .requester env => requesterStep env s
  | .control env => controlStep cfg env s

/-- Both threads as one machine. -/
def threads (cfg : Config) : Machine State Event Entry Fault where
  step := step cfg

/-! ### Small runs -/

/-- The table of `main`, where a `long` has 64 bits. -/
def Config.main : Config where
  codec := SIPCodec.main
  long := .bits64

/-- Nothing comes from outside. -/
def Outside.quiet : Outside where
  rand := 0
  num := 0
  ready := []
  listening := false
  data := []
  client := none

/-- One sub-MG connects, with descriptor `7`. -/
def connects : List Event :=
  [ .control { Outside.quiet with listening := true }
  , .control { Outside.quiet with client := some (bytes "10.0.0.9", 7) } ]

/-- A converter sends a request and begins to poll. -/
def asks : List Event :=
  [ .call false 5000 0 0, .requester .quiet, .requester .quiet
  , .requester { Outside.quiet with num := CtrlMsg.size .bits64 }, .requester .quiet ]

/-- Data of the sub-MG is received. -/
def sends (data : Bytes) : List Event :=
  [.control { Outside.quiet with ready := [7] }, .control { Outside.quiet with data }]

/-- The answer to the first request. -/
def firstAnswer : CtrlMsg where
  msgType := CTRLMSGTYPE.OK_FOR_START
  codec := 1
  port := 6000
  pad := 0
  ID := 1

/-- The bytes it comes in. -/
def firstData : Bytes := firstAnswer.bytes .bits64

/-- A request that is answered, read and used. -/
def oneCall : List Event :=
  connects ++ asks ++ sends firstData ++ List.replicate 4 (.control .quiet) ++
    List.replicate 6 (.requester .quiet)

end SubMG

end MediaGateway
