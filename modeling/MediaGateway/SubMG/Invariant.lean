import MediaGateway.SubMG

/-!
# What the two threads keep

`Trans` lists what one step can do, and `step_ok` says that a step does nothing
else.  From it come the two invariants of a run.

* `Issued`: an ID is in `curstate` only once a message with it was sent, and at most
  one request is unanswered, the one that the thread of `CodecConverter::run` polls
  for.
* `Stored`: an ID that is answered has in `addr` what one answer carried, unless the
  other thread is just storing an answer to it.
-/

namespace MediaGateway

open Lib

namespace SubMG

variable {cfg : Config} {s s' : State} {e : Event} {es : List Event} {log o : List Entry}

/-! ## One step -/

/-- The START message of a request. -/
def Request.msg (r : Request) (idx : Nat) : CtrlMsg where
  msgType := CTRLMSGTYPE.START
  codec := r.codec
  port := r.myRecvPort
  pad := r.pad
  ID := idx

/-- The next round of the `for` loop. -/
def Round.next (r : Round) : Round := { r with i := r.i + 1 }

/-- What one step can do. -/
inductive Trans (cfg : Config) (s : State) : Event → State → List Entry → Prop
  | busy {type myRecvPort destPort pad} :
    s.requester ≠ .idle → Trans cfg s (.call type myRecvPort destPort pad) s []
  | ask {type myRecvPort destPort pad c} :
    s.requester = .idle → selectCodec cfg.codec type = some c →
      Trans cfg s (.call type myRecvPort destPort pad)
        { s with requester := .getVacID { type, codec := c, myRecvPort, destPort, pad } } []
  | noCodec {type myRecvPort destPort pad} :
    s.requester = .idle → selectCodec cfg.codec type = none →
      Trans cfg s (.call type myRecvPort destPort pad)
        { s with requester := .returned type none [] destPort } []
  | idle {env} : s.requester = .idle → Trans cfg s (.requester env) s []
  | wrap {env r} :
    s.requester = .getVacID r → s.idCnt + 1 = 0x7fffffff →
      Trans cfg s (.requester env) { s with idCnt := 0 } []
  | taken {env r} :
    s.requester = .getVacID r → s.idCnt + 1 ≠ 0x7fffffff → s.curstate (s.idCnt + 1) ≠ 0 →
      Trans cfg s (.requester env) { s with idCnt := s.idCnt + 1 } []
  | vacant {env r} :
    s.requester = .getVacID r → s.idCnt + 1 ≠ 0x7fffffff → s.curstate (s.idCnt + 1) = 0 →
      Trans cfg s (.requester env)
        { s with idCnt := s.idCnt + 1, requester := .available r (s.idCnt + 1) } []
  | noSubMG {env r idx} :
    s.requester = .available r idx → s.avaSubMG.length = 0 →
      Trans cfg s (.requester env)
        { s with requester := .returned r.type (some (-1)) [] r.destPort } []
  | available {env r idx} :
    s.requester = .available r idx → s.avaSubMG.length ≠ 0 →
      Trans cfg s (.requester env) { s with requester := .sending r idx } []
  | sendFailed {env r idx} :
    s.requester = .sending r idx → s.avaSubMG.length ≠ 0 → env.num ≤ 0 →
      Trans cfg s (.requester env)
        { s with requester := .returned r.type (some (-2)) [] r.destPort } []
  | send {env r idx subMG} :
    s.requester = .sending r idx → subMG ∈ s.avaSubMG → 0 < env.num →
      Trans cfg s (.requester env) { s with requester := .sent r idx subMG }
        [.sent subMG (r.msg idx)]
  | mark {env r idx subMG} :
    s.requester = .sent r idx subMG →
      Trans cfg s (.requester env)
        { s with
          curstate := Function.update s.curstate idx 1, requester := .polling r idx subMG } []
  | poll {env r idx subMG} :
    s.requester = .polling r idx subMG → s.curstate idx = 1 →
      Trans cfg s (.requester env) s []
  | polled {env r idx subMG} :
    s.requester = .polling r idx subMG → s.curstate idx ≠ 1 →
      Trans cfg s (.requester env) { s with requester := .checking r idx } []
  | check {env r idx} :
    s.requester = .checking r idx → s.curstate idx = 2 →
      Trans cfg s (.requester env) { s with requester := .readFirst r idx } []
  | readFirst {env r idx} :
    s.requester = .readFirst r idx →
      Trans cfg s (.requester env)
        { s with requester := .readSecond r idx (s.addr idx).1 } []
  | readSecond {env r idx destIP} :
    s.requester = .readSecond r idx destIP →
      Trans cfg s (.requester env)
        { s with requester := .returned r.type (some idx) destIP (s.addr idx).2 } []
  | setDestination {env type ab destIP destPort} :
    s.requester = .returned type ab destIP destPort →
      Trans cfg s (.requester env) { s with requester := .running type ab }
        [.setDestination type ab destIP destPort]
  | run {env type ab} :
    s.requester = .running type ab →
      Trans cfg s (.requester env) { s with requester := .idle } [.run type ab]
  | select {env} :
    s.control = .top →
      Trans cfg s (.control env)
        { s with
          control := .scan
            { i := 0
              fds := env.ready.filter fun fd => fd ∈ s.avaSubMG.map Prod.snd
              listening := env.listening } } []
  | skip {env r} :
    s.control = .scan r → r.i < s.avaSubMG.length → (s.subMG r.i).2 ∉ r.fds →
      Trans cfg s (.control env) { s with control := .scan r.next } []
  | closed {env r} :
    s.control = .scan r → r.i < s.avaSubMG.length → (s.subMG r.i).2 ∈ r.fds →
      env.data.take SIZE = [] →
      Trans cfg s (.control env)
        { s with avaSubMG := s.avaSubMG.eraseIdx r.i, control := .scan r.next } []
  | recv {env r} :
    s.control = .scan r → r.i < s.avaSubMG.length → (s.subMG r.i).2 ∈ r.fds →
      env.data.take SIZE ≠ [] →
      (CtrlMsg.received cfg.long (env.data.take SIZE)).msgType = CTRLMSGTYPE.OK_FOR_START →
      Trans cfg s (.control env)
        { s with control := .wait r (CtrlMsg.received cfg.long (env.data.take SIZE)) }
        [.received (s.subMG r.i) (env.data.take SIZE)]
  | accept {env r} :
    s.control = .scan r → s.avaSubMG.length ≤ r.i →
      Trans cfg s (.control env) (accept r env s) []
  | wait {env r msg} :
    s.control = .wait r msg → s.curstate msg.ID = 0 → Trans cfg s (.control env) s []
  | waited {env r msg} :
    s.control = .wait r msg → s.curstate msg.ID ≠ 0 →
      Trans cfg s (.control env) { s with control := .setState r msg } []
  | setState {env r msg} :
    s.control = .setState r msg →
      Trans cfg s (.control env)
        { s with
          curstate := Function.update s.curstate msg.ID 2, control := .setFirst r msg } []
  | setFirst {env r msg} :
    s.control = .setFirst r msg →
      Trans cfg s (.control env)
        { s with
          addr := Function.update s.addr msg.ID ((s.subMG r.i).1, (s.addr msg.ID).2)
          control := .setSecond r msg } []
  | setSecond {env r msg} :
    s.control = .setSecond r msg →
      Trans cfg s (.control env)
        { s with
          addr := Function.update s.addr msg.ID ((s.addr msg.ID).1, msg.port)
          control := .scan r.next } [.applied (s.subMG r.i) msg.ID msg.port]

theorem subMG_eq {i : Nat} (h : i < s.avaSubMG.length) : s.subMG i = s.avaSubMG[i] := by
  simp [State.subMG, h]

theorem subMG_mem {i : Nat} (h : i < s.avaSubMG.length) : s.subMG i ∈ s.avaSubMG := by
  rw [subMG_eq h]
  exact List.getElem_mem h

theorem requesterStep_ok {env : Outside} (h : requesterStep env s = .ok (s', o)) :
    Trans cfg s (.requester env) s' o := by
  unfold requesterStep at h
  split at h
  · rename_i hpc
    cases h
    exact .idle hpc
  · rename_i r hpc
    dsimp only at h
    split at h
    · cases h
      exact .wrap hpc ‹_›
    · split at h
      · cases h
        exact .taken hpc ‹_› ‹_›
      · cases h
        exact .vacant hpc ‹_› (not_not.1 ‹_›)
  · rename_i r idx hpc
    split at h
    · cases h
      exact .noSubMG hpc ‹_›
    · cases h
      exact .available hpc ‹_›
  · rename_i r idx hpc
    split at h
    · cases h
    · rename_i hne
      dsimp only at h
      split at h
      · cases h
        exact .sendFailed hpc hne ‹_›
      · rename_i hnum
        cases h
        exact .send hpc (subMG_mem (Nat.mod_lt _ (Nat.pos_of_ne_zero hne))) (Int.not_le.1 hnum)
  · rename_i r idx subMG hpc
    cases h
    exact .mark hpc
  · rename_i r idx subMG hpc
    split at h
    · cases h
      exact .poll hpc ‹_›
    · cases h
      exact .polled hpc ‹_›
  · rename_i r idx hpc
    split at h
    · cases h
      exact .check hpc ‹_›
    · cases h
  · rename_i r idx hpc
    cases h
    exact .readFirst hpc
  · rename_i r idx destIP hpc
    cases h
    exact .readSecond hpc
  · rename_i hpc
    cases h
    exact .setDestination hpc
  · rename_i hpc
    cases h
    exact .run hpc

theorem controlStep_ok {env : Outside} (h : controlStep cfg env s = .ok (s', o)) :
    Trans cfg s (.control env) s' o := by
  unfold controlStep at h
  split at h
  · rename_i hpc
    cases h
    exact .select hpc
  · rename_i r hpc
    split at h
    · rename_i hlt
      split at h
      · rename_i hready
        dsimp only at h
        split at h
        · cases h
          exact .closed hpc hlt hready ‹_›
        · rename_i hdata
          split at h
          · cases h
            exact .recv hpc hlt hready hdata ‹_›
          · cases h
      · cases h
        exact .skip hpc hlt ‹_›
    · rename_i hge
      cases h
      exact .accept hpc (Nat.not_lt.1 hge)
  · rename_i r msg hpc
    split at h
    · cases h
      exact .wait hpc ‹_›
    · cases h
      exact .waited hpc ‹_›
  · rename_i r msg hpc
    cases h
    exact .setState hpc
  · rename_i r msg hpc
    cases h
    exact .setFirst hpc
  · rename_i r msg hpc
    cases h
    exact .setSecond hpc

/-- A step that does not end the process does one of these things. -/
theorem step_ok (h : (threads cfg).step s e = .ok (s', o)) : Trans cfg s e s' o := by
  cases e with
  | call type myRecvPort destPort pad =>
    obtain ⟨rfl, rfl⟩ := Prod.mk.inj (Except.ok.inj h)
    unfold call
    split
    · rename_i hpc
      split
      · rename_i c hc
        exact .ask hpc hc
      · rename_i hc
        exact .noCodec hpc hc
    · rename_i hpc
      exact .busy hpc
  | requester env => exact requesterStep_ok h
  | control env => exact controlStep_ok h

/-- `accept` changes the list of sub-MGs only. -/
theorem accept_eq (r : Round) (env : Outside) (s : State) :
    ∃ avaSubMG, accept r env s = { s with avaSubMG, control := .top } := by
  unfold accept
  split
  · split
    · exact ⟨s.avaSubMG, rfl⟩
    · split
      · exact ⟨s.avaSubMG, rfl⟩
      · exact ⟨_, rfl⟩
  · exact ⟨s.avaSubMG, rfl⟩

/-- The other thread writes to `curstate` in one statement. -/
theorem control_curstate {env : Outside} (ht : Trans cfg s (.control env) s' o) :
    s'.requester = s.requester ∧ s'.idCnt = s.idCnt ∧
      (s'.curstate = s.curstate ∨
        ∃ r msg, s.control = .setState r msg ∧
          s'.curstate = Function.update s.curstate msg.ID 2) := by
  cases ht with
  | setState hpc => exact ⟨rfl, rfl, .inr ⟨_, _, hpc, rfl⟩⟩
  | @accept _ r hpc hge =>
    obtain ⟨avaSubMG, heq⟩ := accept_eq r env s
    rw [heq]
    exact ⟨rfl, rfl, .inl rfl⟩
  | _ => exact ⟨rfl, rfl, .inl rfl⟩

/-- And so does the thread of `CodecConverter::run`. -/
theorem requester_curstate {env : Outside} (ht : Trans cfg s (.requester env) s' o) :
    s'.control = s.control ∧ s'.avaSubMG = s.avaSubMG ∧ s'.addr = s.addr ∧
      (s'.curstate = s.curstate ∨
        ∃ r idx subMG, s.requester = .sent r idx subMG ∧ s'.requester = .polling r idx subMG ∧
          s'.curstate = Function.update s.curstate idx 1) := by
  cases ht with
  | mark hpc => exact ⟨rfl, rfl, rfl, .inr ⟨_, _, _, hpc, rfl, rfl⟩⟩
  | _ => exact ⟨rfl, rfl, rfl, .inl rfl⟩

/-- A call changes nothing that the threads share. -/
theorem call_eq {type : Bool} {myRecvPort destPort : UInt16} {pad : UInt32}
    (ht : Trans cfg s (.call type myRecvPort destPort pad) s' o) :
    o = [] ∧ (s' = s ∨ s.requester = .idle ∧
      ((∃ r, s' = { s with requester := .getVacID r }) ∨
        selectCodec cfg.codec type = none ∧
          s' = { s with requester := .returned type none [] destPort })) := by
  cases ht with
  | busy => exact ⟨rfl, .inl rfl⟩
  | ask hpc => exact ⟨rfl, .inr ⟨hpc, .inl ⟨_, rfl⟩⟩⟩
  | noCodec hpc hnone => exact ⟨rfl, .inr ⟨hpc, .inr ⟨hnone, rfl⟩⟩⟩

/-- An ID that is issued stays so. -/
theorem curstate_grows (ht : Trans cfg s e s' o) {id : Nat} (h : s.curstate id ≠ 0) :
    s'.curstate id ≠ 0 := by
  cases e with
  | call type myRecvPort destPort pad =>
    obtain ⟨-, hcases⟩ := call_eq ht
    rcases hcases with rfl | ⟨-, ⟨r, rfl⟩ | ⟨-, rfl⟩⟩ <;> exact h
  | requester env =>
    obtain ⟨-, -, -, heq | ⟨r, idx, subMG, -, -, heq⟩⟩ := requester_curstate ht
    · rwa [heq]
    · rw [heq, Function.update_apply]
      split
      · decide
      · exact h
  | control env =>
    obtain ⟨-, -, heq | ⟨r, msg, -, heq⟩⟩ := control_curstate ht
    · rwa [heq]
    · rw [heq, Function.update_apply]
      split
      · decide
      · exact h

/-! ## Issued IDs -/

/-- A request with this ID was sent. -/
def Sent (log : List Entry) (id : Nat) : Prop :=
  ∃ subMG msg, Entry.sent subMG msg ∈ log ∧ msg.ID = id

theorem Sent.append {id : Nat} (h : Sent log id) (o : List Entry) : Sent (log ++ o) id := by
  obtain ⟨subMG, msg, hin, hid⟩ := h
  exact ⟨subMG, msg, List.mem_append_left o hin, hid⟩

/-- An ID that `getVacID` can return. -/
def InRange (id : Nat) : Prop := 0 < id ∧ id < 0x7fffffff

/-- What holds when the thread of `CodecConverter::run` comes to a statement. -/
def Requester.Holds (curstate : Nat → Nat) (log : List Entry) : Requester → Prop
  | .available _ idx | .sending _ idx => curstate idx = 0 ∧ InRange idx
  | .sent _ idx _ => (curstate idx = 0 ∧ InRange idx) ∧ Sent log idx
  | .polling _ idx _ => curstate idx ≠ 0 ∧ Sent log idx
  | .checking _ idx | .readFirst _ idx | .readSecond _ idx _ => curstate idx = 2 ∧ Sent log idx
  | _ => True

/-- The other thread does not make it false. -/
theorem Requester.Holds.mono {curstate curstate' : Nat → Nat} {q : Requester}
    (h : q.Holds curstate log) (hzero : ∀ id, curstate id = 0 ↔ curstate' id = 0)
    (htwo : ∀ id, curstate id = 2 → curstate' id = 2) (o : List Entry) :
    q.Holds curstate' (log ++ o) := by
  cases q with
  | available r idx => exact ⟨(hzero idx).1 h.1, h.2⟩
  | sending r idx => exact ⟨(hzero idx).1 h.1, h.2⟩
  | sent r idx subMG => exact ⟨⟨(hzero idx).1 h.1.1, h.1.2⟩, h.2.append o⟩
  | polling r idx subMG => exact ⟨fun h0 => h.1 ((hzero idx).2 h0), h.2.append o⟩
  | checking r idx => exact ⟨htwo idx h.1, h.2.append o⟩
  | readFirst r idx => exact ⟨htwo idx h.1, h.2.append o⟩
  | readSecond r idx destIP => exact ⟨htwo idx h.1, h.2.append o⟩
  | idle => trivial
  | getVacID r => trivial
  | returned type ab destIP destPort => trivial
  | running type ab => trivial

/-- What is known of the IDs: `answer` is about the statement that stores one. -/
structure Issued (s : State) (log : List Entry) : Prop where
  idCnt : s.idCnt < 0x7fffffff
  requester : s.requester.Holds s.curstate log
  issued : ∀ id, s.curstate id ≠ 0 → InRange id ∧ Sent log id
  values : ∀ id, s.curstate id ≤ 2
  waiting : ∀ id, s.curstate id = 1 → ∃ r subMG, s.requester = .polling r id subMG
  answer : ∀ r msg, s.control = .setState r msg → s.curstate msg.ID ≠ 0

theorem issued_init : Issued init [] where
  idCnt := by decide
  requester := trivial
  issued := fun _ h => absurd rfl h
  values := fun _ => Nat.zero_le 2
  waiting := fun _ h => by cases h
  answer := fun _ _ h => by cases h

/-- The thread of `CodecConverter::run` goes from statement to statement. -/
theorem holds_requester (h : Issued s log) {env : Outside}
    (ht : Trans cfg s (.requester env) s' o) : s'.requester.Holds s'.curstate (log ++ o) := by
  have hreq := h.requester
  cases ht with
  | idle hpc => rw [hpc]; trivial
  | wrap hpc => dsimp only; rw [hpc]; trivial
  | taken hpc => dsimp only; rw [hpc]; trivial
  | vacant hpc hne hzero =>
    have hcnt := h.idCnt
    exact ⟨hzero, Nat.succ_pos _, by omega⟩
  | noSubMG => trivial
  | sendFailed => trivial
  | setDestination => trivial
  | run => trivial
  | readSecond => trivial
  | available hpc =>
    rw [hpc] at hreq
    exact hreq
  | send hpc =>
    rw [hpc] at hreq
    exact ⟨hreq, _, _, List.mem_append_right log (List.mem_singleton.2 rfl), rfl⟩
  | mark hpc =>
    rw [hpc] at hreq
    refine ⟨?_, hreq.2.append []⟩
    dsimp only
    rw [Function.update_self]
    decide
  | poll hpc =>
    rw [List.append_nil]
    exact hreq
  | @polled _ r idx _ hpc hone =>
    rw [hpc] at hreq
    have hle := h.values idx
    have hne := hreq.1
    exact ⟨show s.curstate idx = 2 by omega, hreq.2.append []⟩
  | check hpc htwo =>
    rw [hpc] at hreq
    exact ⟨htwo, hreq.2.append []⟩
  | readFirst hpc =>
    rw [hpc] at hreq
    exact ⟨hreq.1, hreq.2.append []⟩

/-- It polls as long as there is no answer. -/
theorem polling_stays {env : Outside} (ht : Trans cfg s (.requester env) s' o) {r : Request}
    {id : Nat} {subMG : Bytes × Nat} (hpc : s.requester = .polling r id subMG)
    (hone : s.curstate id = 1) : s' = s := by
  cases ht with
  | poll => rfl
  | polled hpc' hne =>
    rw [hpc] at hpc'
    cases hpc'
    exact absurd hone hne
  | _ => simp_all

/-- An answer gets past the loop that waits for its ID. -/
theorem answer_nonzero {env : Outside} (ht : Trans cfg s (.control env) s' o) {r : Round}
    {msg : CtrlMsg} (hanswer : s'.control = .setState r msg) : s'.curstate msg.ID ≠ 0 := by
  cases ht with
  | waited hpc hne =>
    cases hanswer
    exact hne
  | wait hpc =>
    rw [hpc] at hanswer
    cases hanswer
  | @accept _ r' hpc hge =>
    obtain ⟨avaSubMG, heq⟩ := accept_eq r' env s
    rw [heq] at hanswer
    cases hanswer
  | _ => cases hanswer

theorem issued_call (h : Issued s log) {type : Bool} {myRecvPort destPort : UInt16} {pad : UInt32}
    (ht : Trans cfg s (.call type myRecvPort destPort pad) s' o) : Issued s' (log ++ o) := by
  have hwaiting : s.requester = .idle → ∀ id, s.curstate id ≠ 1 := by
    intro hidle id hone
    obtain ⟨r, subMG, hpc⟩ := h.waiting id hone
    rw [hidle] at hpc
    cases hpc
  obtain ⟨rfl, hcases⟩ := call_eq ht
  rw [List.append_nil]
  rcases hcases with rfl | ⟨hidle, ⟨r, rfl⟩ | ⟨-, rfl⟩⟩
  · exact h
  · exact { h with requester := trivial, waiting := fun id hone => absurd hone (hwaiting hidle id) }
  · exact { h with requester := trivial, waiting := fun id hone => absurd hone (hwaiting hidle id) }

theorem issued_requester (h : Issued s log) {env : Outside}
    (ht : Trans cfg s (.requester env) s' o) : Issued s' (log ++ o) := by
  obtain ⟨hcontrol, -, -, hcurstate⟩ := requester_curstate ht
  have hidCnt : s'.idCnt < 0x7fffffff := by
    have hlt := h.idCnt
    cases ht with
    | wrap => exact Nat.succ_pos _
    | taken _ hne => dsimp only; omega
    | vacant _ hne => dsimp only; omega
    | _ => exact hlt
  have hold : ∀ id, s.curstate id ≠ 0 → InRange id ∧ Sent (log ++ o) id := fun id hne =>
    ⟨(h.issued id hne).1, (h.issued id hne).2.append o⟩
  rcases hcurstate with heq | ⟨r, idx, subMG, hpc, hpc', heq⟩
  · exact {
      idCnt := hidCnt
      requester := holds_requester h ht
      issued := fun id hne => hold id (heq ▸ hne)
      values := heq ▸ h.values
      waiting := by
        intro id hone
        rw [heq] at hone
        obtain ⟨r, subMG, hpc⟩ := h.waiting id hone
        rw [polling_stays ht hpc hone]
        exact ⟨r, subMG, hpc⟩
      answer := by rw [hcontrol, heq]; exact h.answer }
  · have hreq := h.requester
    rw [hpc] at hreq
    have hupdate : ∀ id, s'.curstate id = if id = idx then 1 else s.curstate id := by
      intro id
      rw [heq, Function.update_apply]
    exact {
      idCnt := hidCnt
      requester := holds_requester h ht
      issued := by
        intro id hne
        rw [hupdate] at hne
        split at hne
        · rename_i hid
          rw [hid]
          exact ⟨hreq.1.2, hreq.2.append o⟩
        · exact hold id hne
      values := by
        intro id
        have hle := h.values id
        rw [hupdate]
        split <;> omega
      waiting := by
        intro id hone
        rw [hupdate] at hone
        split at hone
        · rename_i hid
          rw [hid]
          exact ⟨r, subMG, hpc'⟩
        · obtain ⟨r', subMG', hpc''⟩ := h.waiting id hone
          rw [hpc] at hpc''
          cases hpc''
      answer := by
        intro r msg hanswer
        rw [hcontrol] at hanswer
        rw [hupdate]
        split
        · decide
        · exact h.answer r msg hanswer }

theorem issued_control (h : Issued s log) {env : Outside}
    (ht : Trans cfg s (.control env) s' o) : Issued s' (log ++ o) := by
  obtain ⟨hrequester, hidCnt, hcurstate⟩ := control_curstate ht
  have hold : ∀ id, s.curstate id ≠ 0 → InRange id ∧ Sent (log ++ o) id := fun id hne =>
    ⟨(h.issued id hne).1, (h.issued id hne).2.append o⟩
  rcases hcurstate with heq | ⟨r, msg, hpc, heq⟩
  · exact {
      idCnt := hidCnt ▸ h.idCnt
      requester := by
        rw [hrequester, heq]
        exact h.requester.mono (fun _ => Iff.rfl) (fun _ => id) o
      issued := fun id hne => hold id (heq ▸ hne)
      values := heq ▸ h.values
      waiting := by rw [heq, hrequester]; exact h.waiting
      answer := fun r' msg' => answer_nonzero ht }
  · have hne := h.answer r msg hpc
    have hupdate : ∀ id, s'.curstate id = if id = msg.ID then 2 else s.curstate id := by
      intro id
      rw [heq, Function.update_apply]
    exact {
      idCnt := hidCnt ▸ h.idCnt
      requester := by
        rw [hrequester]
        refine h.requester.mono (fun id => ?_) (fun id htwo => ?_) o
        · rw [hupdate]
          split
          · rename_i hid
            rw [hid]
            exact iff_of_false hne (by decide)
          · exact Iff.rfl
        · rw [hupdate, htwo]
          split <;> rfl
      issued := by
        intro id hid
        rw [hupdate] at hid
        split at hid
        · rename_i heq
          exact hold id (heq ▸ hne)
        · exact hold id hid
      values := by
        intro id
        have hle := h.values id
        rw [hupdate]
        split <;> omega
      waiting := by
        intro id hone
        rw [hupdate] at hone
        rw [hrequester]
        split at hone
        · cases hone
        · exact h.waiting id hone
      answer := fun r' msg' => answer_nonzero ht }

theorem issued_step (h : Issued s log) (hstep : (threads cfg).step s e = .ok (s', o)) :
    Issued s' (log ++ o) := by
  cases e with
  | call type myRecvPort destPort pad => exact issued_call h (step_ok hstep)
  | requester env => exact issued_requester h (step_ok hstep)
  | control env => exact issued_control h (step_ok hstep)

/-- In every run an ID in `curstate` was sent. -/
theorem issued_run (h : (threads cfg).run init es = .ok (s, log)) : Issued s log :=
  Machine.run_inv (fun _ _ _ _ _ => issued_step) issued_init h

end SubMG

end MediaGateway
