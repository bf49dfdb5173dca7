import MediaGateway.Lib.Cyclic
import MediaGateway.SubMG.Invariant
import Mathlib.Data.List.Nodup

/-!
# The search for a vacant ID

`getVacID` counts on from `idCnt`, past `0x7fffffff` back to `1`, until it comes to an ID
that `curstate` does not have.  While it searches, the other thread only writes to
`curstate` what is there already.  So the search is one of a fixed table, and it ends at
the first vacant ID if there is one.

An ID that was given away successfully stays in `curstate`, and `getVacID` passes it.
-/

namespace MediaGateway

open Lib

namespace SubMG

variable {cfg : Config} {s s' : State} {e : Event} {es : List Event} {log o : List Entry}

/-! ## The search -/

/-- The next candidate, in cyclic order. -/
def nextID (id : Nat) : Nat := Cyclic.next 0x7fffffff id

/-- The first vacant ID behind `idCnt`. -/
def FirstVacant (curstate : Nat → Nat) (idCnt id : Nat) : Prop :=
  FirstAfter nextID (fun id => curstate id = 0) idCnt id

theorem FirstVacant.inRange {curstate : Nat → Nat} {idCnt id : Nat}
    (h : FirstVacant curstate idCnt id) (hcnt : idCnt < 0x7fffffff) : InRange id := by
  obtain ⟨k, rfl, -, -⟩ := h
  refine ⟨?_, Cyclic.iterate_next_lt (by decide) hcnt (k + 1)⟩
  rw [Function.iterate_succ_apply']
  exact Cyclic.next_pos _ _

/-- From `idCnt` the loop finds `id` in so many rounds. -/
inductive Finds (curstate : Nat → Nat) (id : Nat) : Nat → Nat → Prop
  | vacant {idCnt} :
    idCnt + 1 ≠ 0x7fffffff → curstate (idCnt + 1) = 0 → idCnt + 1 = id →
      Finds curstate id 1 idCnt
  | taken {rounds idCnt} :
    idCnt + 1 ≠ 0x7fffffff → curstate (idCnt + 1) ≠ 0 → Finds curstate id rounds (idCnt + 1) →
      Finds curstate id (rounds + 1) idCnt
  | wrap {rounds idCnt} :
    idCnt + 1 = 0x7fffffff → Finds curstate id rounds 0 → Finds curstate id (rounds + 1) idCnt

variable {curstate : Nat → Nat} {idCnt id rounds : Nat}

theorem exists_finds (h : FirstVacant curstate idCnt id) :
    ∃ rounds, Finds curstate id rounds idCnt := by
  have hone : ∀ {n}, n + 1 ≠ 0x7fffffff → nextID n = n + 1 := fun hne => if_neg hne
  have hlast : ∀ {n}, n + 1 = 0x7fffffff → nextID n = 0 + 1 := fun heq => if_pos heq
  refine firstAfter_induction (P := fun n => ∃ rounds, Finds curstate id rounds n) h ?_ ?_
  · intro n hid hvacant
    by_cases hwrap : n + 1 = 0x7fffffff
    · rw [hlast hwrap] at hid
      exact ⟨2, .wrap hwrap (.vacant (by decide) (hid ▸ hvacant) hid)⟩
    · rw [hone hwrap] at hid
      exact ⟨1, .vacant hwrap (hid ▸ hvacant) hid⟩
  · intro n htaken _ hfinds
    obtain ⟨rounds, hfinds⟩ := hfinds
    by_cases hwrap : n + 1 = 0x7fffffff
    · rw [hlast hwrap] at htaken hfinds
      exact ⟨rounds + 2, .wrap hwrap (.taken (by decide) htaken hfinds)⟩
    · rw [hone hwrap] at htaken hfinds
      exact ⟨rounds + 1, .taken hwrap htaken hfinds⟩

theorem Finds.pos (h : Finds curstate id rounds idCnt) : 0 < rounds := by
  cases h <;> exact Nat.succ_pos _

/-! ## The two threads -/

/-- The step is one of the thread of `CodecConverter::run`. -/
def Event.isRequester : Event → Bool
  | .requester _ => true
  | _ => false

/-- While that thread is busy and does not poll, the others change nothing that `getVacID`
reads. -/
theorem search_frame (h : Issued s log) (hbusy : s.requester ≠ .idle)
    (hpolls : ∀ r id subMG, s.requester ≠ .polling r id subMG) (he : e.isRequester = false)
    (hstep : (threads cfg).step s e = .ok (s', o)) :
    s'.requester = s.requester ∧ s'.idCnt = s.idCnt ∧ s'.curstate = s.curstate := by
  have ht := step_ok hstep
  cases e with
  | call type myRecvPort destPort pad =>
    obtain ⟨-, rfl | ⟨hidle, -⟩⟩ := call_eq ht
    · exact ⟨rfl, rfl, rfl⟩
    · exact absurd hidle hbusy
  | requester env => cases he
  | control env =>
    obtain ⟨hrequester, hidCnt, heq | ⟨r, msg, hpc, heq⟩⟩ := control_curstate ht
    · exact ⟨hrequester, hidCnt, heq⟩
    · -- an answer that is stored has an ID that was answered before
      have hne := h.answer r msg hpc
      have hle := h.values msg.ID
      have hone : s.curstate msg.ID ≠ 1 := by
        intro hone
        obtain ⟨r', subMG, hpolling⟩ := h.waiting msg.ID hone
        exact hpolls r' msg.ID subMG hpolling
      have htwo : 2 = s.curstate msg.ID := by omega
      refine ⟨hrequester, hidCnt, ?_⟩
      rw [heq, htwo, Function.update_eq_self]

/-- One round of the search. -/
theorem search_step (cfg : Config) {r : Request} (hpc : s.requester = .getVacID r)
    (h : Finds s.curstate id (rounds + 1) s.idCnt) (env : Outside) :
    ∃ s', (threads cfg).step s (.requester env) = .ok (s', []) ∧ s'.curstate = s.curstate ∧
      ((rounds = 0 ∧ s'.requester = .available r id ∧ s'.idCnt = id) ∨
        s'.requester = .getVacID r ∧ Finds s.curstate id rounds s'.idCnt) := by
  show ∃ s', requesterStep env s = .ok (s', []) ∧ _
  cases h with
  | vacant hne hzero hid =>
    subst hid
    refine ⟨{ s with idCnt := s.idCnt + 1, requester := .available r (s.idCnt + 1) }, ?_, rfl,
      .inl ⟨rfl, rfl, rfl⟩⟩
    simp only [requesterStep, hpc, if_neg hne, hzero, ne_eq, not_true_eq_false, if_false]
  | taken hne htaken hrest =>
    refine ⟨{ s with idCnt := s.idCnt + 1 }, ?_, rfl, .inr ⟨hpc, hrest⟩⟩
    simp only [requesterStep, hpc, if_neg hne, if_pos htaken]
  | wrap hwrap hrest =>
    refine ⟨{ s with idCnt := 0 }, ?_, rfl, .inr ⟨hpc, hrest⟩⟩
    simp only [requesterStep, hpc, if_pos hwrap]

/-- The thread has found its ID and takes no further step. -/
theorem found_stays (h : Issued s log) {r : Request} (hpc : s.requester = .available r id)
    (hes : es.countP Event.isRequester = 0) (hrun : (threads cfg).run s es = .ok (s', o)) :
    s'.requester = .available r id ∧ s'.idCnt = s.idCnt ∧ s'.curstate = s.curstate := by
  induction es generalizing s log o with
  | nil =>
    obtain ⟨rfl, -⟩ := Machine.run_nil_ok.1 hrun
    exact ⟨hpc, rfl, rfl⟩
  | cons e es ih =>
    obtain ⟨s₁, o₁, o₂, hstep, hrest, -⟩ := Machine.run_cons_ok.1 hrun
    rw [List.countP_eq_zero, List.forall_mem_cons] at hes
    have he : e.isRequester = false := Bool.eq_false_iff.2 hes.1
    obtain ⟨hrequester, hidCnt, hcurstate⟩ := search_frame h (by rw [hpc]; nofun)
      (by rw [hpc]; exact fun _ _ _ => nofun) he hstep
    have hlater := ih (issued_step h hstep) (hrequester.trans hpc)
      (List.countP_eq_zero.2 hes.2) hrest
    rwa [hidCnt, hcurstate] at hlater

/-- However the threads alternate, the search ends after its rounds. -/
theorem search_run (h : Issued s log) {r : Request} (hpc : s.requester = .getVacID r)
    (hfinds : Finds s.curstate id rounds s.idCnt) (hes : es.countP Event.isRequester = rounds)
    (hrun : (threads cfg).run s es = .ok (s', o)) :
    s'.requester = .available r id ∧ s'.idCnt = id ∧ s'.curstate = s.curstate := by
  induction es generalizing s log o rounds with
  | nil =>
    have hpos := hfinds.pos
    rw [← hes] at hpos
    exact absurd hpos (Nat.lt_irrefl 0)
  | cons e es ih =>
    obtain ⟨s₁, o₁, o₂, hstep, hrest, -⟩ := Machine.run_cons_ok.1 hrun
    have hissued := issued_step h hstep
    by_cases he : e.isRequester = true
    · obtain ⟨env, rfl⟩ : ∃ env, e = .requester env := by
        cases e with
        | requester env => exact ⟨env, rfl⟩
        | call => cases he
        | control => cases he
      rw [List.countP_cons_of_pos he] at hes
      obtain ⟨s₂, hstep₂, hcurstate, hcases⟩ :=
        search_step cfg hpc (hes ▸ hfinds) env
      rw [hstep] at hstep₂
      obtain ⟨rfl, -⟩ := Prod.mk.inj (Except.ok.inj hstep₂)
      rcases hcases with ⟨hzero, hfound, hid⟩ | ⟨hpc', hfinds'⟩
      · have hlater := found_stays hissued hfound hzero hrest
        rwa [hid, hcurstate] at hlater
      · have hlater := ih hissued hpc' (hcurstate ▸ hfinds') rfl hrest
        rwa [hcurstate] at hlater
    · have hquiet : e.isRequester = false := Bool.eq_false_iff.2 he
      obtain ⟨hrequester, hidCnt, hcurstate⟩ := search_frame h (by rw [hpc]; nofun)
        (by rw [hpc]; exact fun _ _ _ => nofun) hquiet hstep
      rw [List.countP_cons_of_neg he] at hes
      have hlater := ih hissued (hrequester.trans hpc) (by rwa [hcurstate, hidCnt]) hes hrest
      rwa [hcurstate] at hlater

/-- The thread can take all its rounds. -/
theorem search_runs {r : Request} (hpc : s.requester = .getVacID r)
    (hfinds : Finds s.curstate id rounds s.idCnt) (env : Outside) :
    ∃ s', (threads cfg).run s (List.replicate rounds (.requester env)) = .ok (s', []) := by
  induction rounds generalizing s with
  | zero => exact ⟨s, rfl⟩
  | succ rounds ih =>
    obtain ⟨s₁, hstep, hcurstate, hcases⟩ := search_step cfg hpc hfinds env
    rcases hcases with ⟨rfl, -, -⟩ | ⟨hpc', hfinds'⟩
    · exact ⟨s₁, Machine.run_cons_ok.2 ⟨s₁, [], [], hstep, rfl, rfl⟩⟩
    · obtain ⟨s₂, hrun⟩ := ih hpc' (hcurstate ▸ hfinds')
      exact ⟨s₂, Machine.run_cons_ok.2 ⟨s₁, [], [], hstep, hrun, rfl⟩⟩

/-! ## The calls of a run -/

/-- The IDs that `startFFmpeg` returned, the calls that failed apart. -/
def successes (log : List Entry) : List Nat :=
  log.filterMap fun entry => match entry with
    | .setDestination _ (some (.ofNat id)) _ _ => some id
    | _ => none

/-- The ID of the call that is under way, once its message was sent. -/
def Requester.given? : Requester → Option Nat
  | .polling _ idx _ | .checking _ idx | .readFirst _ idx | .readSecond _ idx _ => some idx
  | .returned _ (some (.ofNat idx)) _ _ => some idx
  | _ => none

/-- The IDs of the calls that succeeded are in `curstate` and differ from each other and from
the one of the call under way. -/
structure Distinct (s : State) (log : List Entry) : Prop where
  issued : Issued s log
  used : ∀ id ∈ successes log, s.curstate id ≠ 0
  given : ∀ id, s.requester.given? = some id → s.curstate id ≠ 0 ∧ id ∉ successes log
  nodup : (successes log).Nodup

theorem distinct_init : Distinct init [] where
  issued := issued_init
  used := fun _ h => absurd h List.not_mem_nil
  given := fun _ h => nomatch h
  nodup := List.nodup_nil

/-- A call gets its ID when its message was sent, and returns it. -/
theorem given_step (ht : Trans cfg s e s' o) :
    (∃ id, s.requester.given? = some id ∧ successes o = [id] ∧ s'.requester.given? = none) ∨
      (successes o = [] ∧ ∀ id, s'.requester.given? = some id →
        s.requester.given? = some id ∨
          s'.curstate id ≠ 0 ∧ ∃ r subMG, s.requester = .sent r id subMG) := by
  cases ht with
  | @setDestination env type ab destIP destPort hpc =>
    match ab with
    | some (.ofNat id) => exact .inl ⟨id, by rw [hpc]; rfl, rfl, rfl⟩
    | some (.negSucc n) => exact .inr ⟨rfl, fun _ hid => nomatch hid⟩
    | none => exact .inr ⟨rfl, fun _ hid => nomatch hid⟩
  | @mark env r idx subMG hpc =>
    refine .inr ⟨rfl, fun id hid => .inr ?_⟩
    obtain rfl : idx = id := Option.some.inj hid
    refine ⟨?_, r, subMG, hpc⟩
    show Function.update s.curstate idx 1 idx ≠ 0
    rw [Function.update_self]
    decide
  | polled hpc => exact .inr ⟨rfl, fun id hid => .inl (by rw [hpc]; exact hid)⟩
  | check hpc => exact .inr ⟨rfl, fun id hid => .inl (by rw [hpc]; exact hid)⟩
  | readFirst hpc => exact .inr ⟨rfl, fun id hid => .inl (by rw [hpc]; exact hid)⟩
  | readSecond hpc => exact .inr ⟨rfl, fun id hid => .inl (by rw [hpc]; exact hid)⟩
  | @accept env r hpc hge =>
    obtain ⟨avaSubMG, heq⟩ := accept_eq r env s
    rw [heq]
    exact .inr ⟨rfl, fun id hid => .inl hid⟩
  | ask => exact .inr ⟨rfl, fun _ hid => nomatch hid⟩
  | noCodec => exact .inr ⟨rfl, fun _ hid => nomatch hid⟩
  | vacant => exact .inr ⟨rfl, fun _ hid => nomatch hid⟩
  | noSubMG => exact .inr ⟨rfl, fun _ hid => nomatch hid⟩
  | available => exact .inr ⟨rfl, fun _ hid => nomatch hid⟩
  | sendFailed => exact .inr ⟨rfl, fun _ hid => nomatch hid⟩
  | send => exact .inr ⟨rfl, fun _ hid => nomatch hid⟩
  | run => exact .inr ⟨rfl, fun _ hid => nomatch hid⟩
  | _ => exact .inr ⟨rfl, fun id hid => .inl hid⟩

theorem distinct_step (h : Distinct s log) (hstep : (threads cfg).step s e = .ok (s', o)) :
    Distinct s' (log ++ o) := by
  have ht := step_ok hstep
  have hused : ∀ id ∈ successes log, s'.curstate id ≠ 0 := fun id hid =>
    curstate_grows ht (h.used id hid)
  have happend : successes (log ++ o) = successes log ++ successes o := List.filterMap_append
  rcases given_step ht with ⟨id, hgiven, ho, hnone⟩ | ⟨ho, hgiven⟩
  · obtain ⟨hne, hnew⟩ := h.given id hgiven
    rw [ho] at happend
    refine ⟨issued_step h.issued hstep, ?_, ?_, ?_⟩
    · intro id' hid'
      rw [happend] at hid'
      rcases List.mem_append.1 hid' with hold | hlast
      · exact hused id' hold
      · rw [List.mem_singleton.1 hlast]
        exact curstate_grows ht hne
    · intro id' hid'
      rw [hnone] at hid'
      cases hid'
    · rw [happend]
      exact List.nodup_append'.2 ⟨h.nodup, List.nodup_singleton _, List.disjoint_singleton.2 hnew⟩
  · rw [ho, List.append_nil] at happend
    refine ⟨issued_step h.issued hstep, ?_, ?_, ?_⟩
    · rwa [happend]
    · intro id hid
      rw [happend]
      rcases hgiven id hid with hold | ⟨hne, r, subMG, hpc⟩
      · exact ⟨curstate_grows ht (h.given id hold).1, (h.given id hold).2⟩
      · -- until now the ID was vacant
        have hreq := h.issued.requester
        rw [hpc] at hreq
        exact ⟨hne, fun hmem => h.used id hmem hreq.1.1⟩
    · rw [happend]
      exact h.nodup

/-- In every run: if an ID is vacant, `getVacID` ends, with the first vacant one behind `idCnt`
and `curstate` as it was; and the calls that succeed get different IDs. -/
theorem getVacID_run (cfg : Config) (es : List Event)
    (hrun : (threads cfg).run init es = .ok (s, log)) :
    (∀ r, s.requester = .getVacID r → (∃ v, InRange v ∧ s.curstate v = 0) →
      ∃ id, InRange id ∧ FirstVacant s.curstate s.idCnt id ∧
        ∃ rounds,
          (∀ env, ∃ s',
            (threads cfg).run s (List.replicate rounds (.requester env)) = .ok (s', [])) ∧
          ∀ es' s' o, es'.countP Event.isRequester = rounds →
            (threads cfg).run s es' = .ok (s', o) →
              s'.requester = .available r id ∧ s'.idCnt = id ∧ s'.curstate = s.curstate) ∧
      (successes log).Nodup := by
  have hdistinct : Distinct s log :=
    Machine.run_inv (fun _ _ _ _ _ hinv hstep => distinct_step hinv hstep) distinct_init hrun
  refine ⟨?_, hdistinct.nodup⟩
  intro r hpc hvacant
  obtain ⟨v, ⟨hpos, hlt⟩, hzero⟩ := hvacant
  have hcnt := hdistinct.issued.idCnt
  obtain ⟨k, hk⟩ := Cyclic.exists_iterate_next hcnt hpos hlt
  obtain ⟨id, hfirst⟩ : ∃ id, FirstVacant s.curstate s.idCnt id :=
    exists_firstAfter ⟨k, hk.symm ▸ hzero⟩
  obtain ⟨rounds, hfinds⟩ := exists_finds hfirst
  refine ⟨id, hfirst.inRange hcnt, hfirst, rounds, search_runs hpc hfinds, ?_⟩
  intro es' s' o hes hrun'
  exact search_run hdistinct.issued hpc hfinds hes hrun'

/-- The call after one that got the ID `1`. -/
theorem getVacID_run_second :
    ∃ s log, (threads Config.main).run init (oneCall ++ [.call false 5000 0 0]) = .ok (s, log) ∧
      (∃ id, InRange id ∧ FirstVacant s.curstate s.idCnt id) ∧ (successes log).Nodup := by
  obtain ⟨s, log, hrun, hend⟩ := Machine.exists_of_map
    (show ((threads Config.main).run init (oneCall ++ [.call false 5000 0 0])).toOption.map
        (fun r => (r.1.requester, r.1.curstate 2)) =
      some (.getVacID ⟨false, 1, 5000, 0, 0⟩, 0) by decide +kernel)
  obtain ⟨hpc, hzero⟩ := Prod.mk.inj hend
  obtain ⟨hsearch, hnodup⟩ :=
    getVacID_run Config.main (oneCall ++ [.call false 5000 0 0]) hrun
  obtain ⟨id, hrange, hfirst, -⟩ := hsearch _ hpc ⟨2, ⟨by decide, by decide⟩, hzero⟩
  exact ⟨s, log, hrun, ⟨id, hrange, hfirst⟩, hnodup⟩

end SubMG

end MediaGateway
