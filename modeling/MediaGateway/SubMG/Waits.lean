import MediaGateway.SubMG.Invariant

/-!
# What the threads wait for

`startFFmpeg` polls until its request is answered, and the thread of `SubMG::run`
polls until the ID of an answer is one that `startFFmpeg` uses.  Nothing ends either
loop when the sub-MG that was asked goes away, or when an answer carries an ID that
nobody asked for.

`waits_safe` says that these two are all that can go wrong: in a run in which
neither happens, the sub-MG that owes an answer is still there, and the other thread
waits for an issued ID only.
-/

namespace MediaGateway

open Lib

namespace SubMG

variable {cfg : Config} {s s' : State} {e : Event} {es : List Event} {log o : List Entry}

/-! ## Who waits for what -/

/-- A request with this ID went to this sub-MG. -/
def SentTo (log : List Entry) (id : Nat) (subMG : Bytes × Nat) : Prop :=
  ∃ msg, Entry.sent subMG msg ∈ log ∧ msg.ID = id

theorem SentTo.append {id : Nat} {subMG : Bytes × Nat} (h : SentTo log id subMG)
    (o : List Entry) : SentTo (log ++ o) id subMG := by
  obtain ⟨msg, hin, hid⟩ := h
  exact ⟨msg, List.mem_append_left o hin, hid⟩

/-- A request that still waits was sent to a sub-MG that is still there, and the
thread of `SubMG::run` waits for an ID that was sent. -/
structure Waits (s : State) (log : List Entry) : Prop where
  request : ∀ id, s.curstate id = 1 → ∃ subMG ∈ s.avaSubMG, SentTo log id subMG
  answer : ∀ r msg, s.control = .wait r msg → Sent log msg.ID

/-- The sub-MG that owes an answer. -/
def State.owing? (s : State) : Option (Bytes × Nat) :=
  match s.requester with
  | .sent _ _ subMG => some subMG
  | .polling _ idx subMG => if s.curstate idx = 1 then some subMG else none
  | _ => none

/-- The ID was issued: it is in `curstate`, or `startFFmpeg` is just putting it
there. -/
def State.issued (s : State) (id : Nat) : Bool :=
  match s.requester with
  | .sent _ idx _ => decide (s.curstate id ≠ 0 ∨ idx = id)
  | _ => decide (s.curstate id ≠ 0)

/-- The step can be answered: no sub-MG that owes an answer goes away, and an answer
that arrives carries an ID that was issued. -/
def answerable (cfg : Config) (s : State) : Event → Bool
  | .control env =>
    match s.control with
    | .scan r =>
      if r.i < s.avaSubMG.length ∧ (s.subMG r.i).2 ∈ r.fds then
        let data := env.data.take SIZE
        if data = [] then decide (s.owing? ≠ some (s.subMG r.i))
        else s.issued (CtrlMsg.received cfg.long data).ID
      else
        true
    | _ => true
  | _ => true

/-! ## The invariant -/

/-- What holds of a run whose steps can be answered. -/
structure Owed (s : State) (log : List Entry) : Prop where
  issued : Issued s log
  sent : ∀ r idx subMG, s.requester = .sent r idx subMG → SentTo log idx subMG
  polling : ∀ r idx subMG, s.requester = .polling r idx subMG → SentTo log idx subMG
  owing : ∀ subMG, s.owing? = some subMG → subMG ∈ s.avaSubMG
  answer : ∀ r msg, s.control = .wait r msg → Sent log msg.ID

theorem owed_init : Owed init [] where
  issued := issued_init
  sent := fun _ _ _ h => by cases h
  polling := fun _ _ _ h => by cases h
  owing := fun _ h => by cases h
  answer := fun _ _ h => by cases h

theorem Owed.waits (h : Owed s log) : Waits s log where
  request := by
    intro id hone
    obtain ⟨r, subMG, hpc⟩ := h.issued.waiting id hone
    refine ⟨subMG, h.owing subMG ?_, h.polling r id subMG hpc⟩
    rw [State.owing?, hpc]
    exact if_pos hone
  answer := h.answer

theorem sent_of_issued (h : Owed s log) {id : Nat} (hid : s.issued id = true) : Sent log id := by
  unfold State.issued at hid
  split at hid
  · rename_i r idx subMG hpc
    rcases of_decide_eq_true hid with hne | rfl
    · exact (h.issued.issued id hne).2
    · obtain ⟨msg, hin, hmsg⟩ := h.sent r idx subMG hpc
      exact ⟨subMG, msg, hin, hmsg⟩
  · exact (h.issued.issued id (of_decide_eq_true hid)).2

/-- The thread of `CodecConverter::run`: who owes it an answer is there. -/
theorem owing_requester (h : Owed s log) {env : Outside}
    (ht : Trans cfg s (.requester env) s' o) :
    (∀ r idx subMG, s'.requester = .sent r idx subMG → SentTo (log ++ o) idx subMG) ∧
      (∀ r idx subMG, s'.requester = .polling r idx subMG → SentTo (log ++ o) idx subMG) ∧
      ∀ subMG, s'.owing? = some subMG → subMG ∈ s'.avaSubMG := by
  cases ht with
  | @send _ r idx subMG hpc hmem hnum =>
    refine ⟨fun r' idx' subMG' hpc' => ?_, fun r' idx' subMG' hpc' => (by cases hpc'),
      fun subMG' howing => ?_⟩
    · cases hpc'
      exact ⟨_, List.mem_append_right log (List.mem_singleton.2 rfl), rfl⟩
    · cases howing
      exact hmem
  | @mark _ r idx subMG hpc =>
    refine ⟨fun r' idx' subMG' hpc' => (by cases hpc'), fun r' idx' subMG' hpc' => ?_,
      fun subMG' howing => ?_⟩
    · cases hpc'
      exact (h.sent r idx subMG hpc).append []
    · have hsame : some subMG = some subMG' := by
        rw [← howing]
        exact (if_pos (Function.update_self ..)).symm
      exact h.owing subMG' (by rw [State.owing?, hpc, ← hsame])
  | idle | wrap | taken | poll =>
    exact ⟨fun r idx subMG hpc => (h.sent r idx subMG hpc).append [],
      fun r idx subMG hpc => (h.polling r idx subMG hpc).append [], h.owing⟩
  | _ =>
    exact ⟨fun _ _ _ hpc => (by cases hpc), fun _ _ _ hpc => (by cases hpc),
      fun _ howing => (by cases howing)⟩

/-- The thread of `SubMG::run` makes nobody owe an answer. -/
theorem owing_of_control {env : Outside} (ht : Trans cfg s (.control env) s' o)
    {subMG : Bytes × Nat} (howing : s'.owing? = some subMG) : s.owing? = some subMG := by
  obtain ⟨hrequester, -, hcurstate⟩ := control_curstate ht
  rcases hcurstate with heq | ⟨r, msg, -, heq⟩
  · rwa [State.owing?, hrequester, heq] at howing
  · rw [State.owing?, hrequester, heq] at howing
    rw [State.owing?]
    cases hpc : s.requester with
    | sent r' idx subMG' =>
      rw [hpc] at howing
      exact howing
    | polling r' idx subMG' =>
      rw [hpc] at howing
      dsimp only at howing ⊢
      rw [Function.update_apply] at howing
      split at howing
      · cases howing
      · exact howing
    | _ =>
      rw [hpc] at howing
      cases howing

/-- A sub-MG that stays. -/
theorem mem_eraseIdx {i : Nat} {subMG : Bytes × Nat} (hmem : subMG ∈ s.avaSubMG)
    (hne : subMG ≠ s.subMG i) : subMG ∈ s.avaSubMG.eraseIdx i := by
  obtain ⟨j, hj, rfl⟩ := List.getElem_of_mem hmem
  refine List.mem_eraseIdx_iff_getElem.2 ⟨j, hj, ?_, rfl⟩
  intro heq
  subst heq
  exact hne (by simp [State.subMG, hj])

/-- It leaves a sub-MG in place that owes an answer. -/
theorem owing_control (h : Owed s log) {env : Outside}
    (hanswerable : answerable cfg s (.control env) = true)
    (ht : Trans cfg s (.control env) s' o) {subMG : Bytes × Nat}
    (howing : s'.owing? = some subMG) : subMG ∈ s'.avaSubMG := by
  have hbefore := owing_of_control ht howing
  have hmem := h.owing subMG hbefore
  cases ht with
  | closed hpc hlt hready hdata =>
    simp only [answerable, hpc, hlt, hready, hdata, and_self, if_true,
      decide_eq_true_eq] at hanswerable
    exact mem_eraseIdx hmem fun heq => hanswerable (by rw [hbefore, heq])
  | @accept _ r hpc hge =>
    unfold accept
    split
    · split
      · exact hmem
      · split
        · exact hmem
        · exact List.mem_append_left _ hmem
    · exact hmem
  | _ => exact hmem

/-- It begins to wait when an answer has arrived. -/
theorem answer_control (h : Owed s log) {env : Outside}
    (hanswerable : answerable cfg s (.control env) = true)
    (ht : Trans cfg s (.control env) s' o) {r : Round} {msg : CtrlMsg}
    (hwait : s'.control = .wait r msg) : Sent (log ++ o) msg.ID := by
  cases ht with
  | recv hpc hlt hready hdata htype =>
    simp only [answerable, hpc, hlt, hready, and_self, if_true, if_neg hdata] at hanswerable
    cases hwait
    exact (sent_of_issued h hanswerable).append _
  | wait hpc => exact (h.answer r msg hwait).append []
  | @accept _ r' hpc hge =>
    obtain ⟨avaSubMG, heq⟩ := accept_eq r' env s
    rw [heq] at hwait
    cases hwait
  | _ => cases hwait

theorem owed_step (h : Owed s log) (hanswerable : answerable cfg s e = true)
    (hstep : (threads cfg).step s e = .ok (s', o)) : Owed s' (log ++ o) := by
  have hissued := issued_step h.issued hstep
  have ht := step_ok hstep
  cases e with
  | call type myRecvPort destPort pad =>
    obtain ⟨rfl, hcases⟩ := call_eq ht
    rw [List.append_nil] at hissued ⊢
    rcases hcases with rfl | ⟨-, ⟨r, rfl⟩ | ⟨-, rfl⟩⟩
    · exact h
    · exact ⟨hissued, fun _ _ _ hpc => (by cases hpc), fun _ _ _ hpc => (by cases hpc),
        fun _ howing => (by cases howing), h.answer⟩
    · exact ⟨hissued, fun _ _ _ hpc => (by cases hpc), fun _ _ _ hpc => (by cases hpc),
        fun _ howing => (by cases howing), h.answer⟩
  | requester env =>
    obtain ⟨hsent, hpolling, howing⟩ := owing_requester h ht
    refine ⟨hissued, hsent, hpolling, howing, fun r msg hwait => ?_⟩
    rw [(requester_curstate ht).1] at hwait
    exact (h.answer r msg hwait).append o
  | control env =>
    have hrequester := (control_curstate ht).1
    refine ⟨hissued, fun r idx subMG hpc => ?_, fun r idx subMG hpc => ?_,
      fun subMG howing => owing_control h hanswerable ht howing,
      fun r msg hwait => answer_control h hanswerable ht hwait⟩
    · exact (h.sent r idx subMG (hrequester ▸ hpc)).append o
    · exact (h.polling r idx subMG (hrequester ▸ hpc)).append o

/-- In every run whose steps can be answered, the sub-MG that owes an answer is
still there, and the thread of `SubMG::run` waits for an issued ID only. -/
theorem waits_safe (cfg : Config) (es : List Event)
    (hrun : (threads cfg).run init es = .ok (s, log))
    (hanswerable : (threads cfg).Meets (fun s e => answerable cfg s e = true) init es) :
    Waits s log := by
  have hinv : Owed s ([] ++ log) :=
    Machine.run_inv_log (fun _ _ _ _ _ hinv h hstep => owed_step hinv h hstep)
      owed_init hanswerable hrun
  exact hinv.waits

/-- A request is answered by the sub-MG that it was sent to. -/
theorem waits_call :
    ∃ s log, (threads Config.main).run init oneCall = .ok (s, log) ∧ Waits s log := by
  obtain ⟨s, log, hrun⟩ := Machine.fault_eq_none
    (show (threads Config.main).fault init oneCall = none by decide +kernel)
  exact ⟨s, log, hrun, waits_safe Config.main oneCall hrun (by decide +kernel)⟩

/-- A sub-MG closes its connection while its answer is waited for; and an answer with
an ID that nobody has asked for. -/
theorem not_waits :
    (∃ s log,
      (threads Config.main).run init (connects ++ asks ++ sends []) = .ok (s, log) ∧
        ¬ Waits s log) ∧
      ∃ s log,
        (threads Config.main).run init (connects ++ sends firstData) = .ok (s, log) ∧
          ¬ Waits s log := by
  constructor
  · obtain ⟨s, log, hrun, hend⟩ := Machine.exists_of_map
      (show ((threads Config.main).run init (connects ++ asks ++ sends [])).toOption.map
        (fun r => (r.1.avaSubMG, r.1.curstate 1)) = some ([], 1) by decide +kernel)
    obtain ⟨hava, hone⟩ := Prod.mk.inj hend
    refine ⟨s, log, hrun, fun h => ?_⟩
    obtain ⟨subMG, hmem, -⟩ := h.request 1 hone
    rw [hava] at hmem
    cases hmem
  · obtain ⟨s, log, hrun, hend⟩ := Machine.exists_of_map
      (show ((threads Config.main).run init
        (connects ++ sends firstData)).toOption.map (fun r => (r.1.control, r.2)) =
          some (.wait { i := 0, fds := [7], listening := false } firstAnswer,
            [.received (bytes "10.0.0.9", 7) firstData]) by decide +kernel)
    obtain ⟨hwait, hlog⟩ := Prod.mk.inj hend
    refine ⟨s, log, hrun, fun h => ?_⟩
    obtain ⟨subMG, msg, hin, -⟩ := h.answer _ _ hwait
    dsimp only at hlog
    rw [hlog] at hin
    cases List.mem_singleton.1 hin

end SubMG

end MediaGateway
