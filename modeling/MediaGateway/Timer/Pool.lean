import MediaGateway.Lib.Machine
import MediaGateway.Timer
import Mathlib.Data.Set.Insert
import Mathlib.Order.BooleanAlgebra.Set
import Mathlib.Tactic.Tauto

/-!
# The timers of a run

A program sets and stops timers, and the threads of the timers run its callbacks, which
may set and stop timers as well.  The log has every number that `setTimer` returned,
every result of `stopTimer` and every callback that ran.

While fewer than `0x7ffffffe` timers are set, the numbers do not repeat and the tables
hold the timers that are pending by the log.  A timer whose callback runs is still in
the tables (it is busy); the end of `onTimeout` takes it out.
-/

namespace MediaGateway.Timer

open Lib

/-! ## Requests and expirations -/

/-- What a program asks for. -/
inductive Request where
  | set (para : Nat)
  | stop (id : Int)
  deriving DecidableEq, Repr

/-- A request, or the wait of thread `n` is over and its callback makes requests. -/
inductive Event where
  | request (r : Request)
  | expiration (n : Nat) (callback : List Request)
  deriving DecidableEq, Repr

/-- `freed` is a thread that reads its `Ts` object after that was deleted. -/
inductive Entry where
  | set (id : Int) (para : Nat)
  | stop (id result : Int)
  | fire (id : Int) (para : Nat)
  | freed (n : Nat)
  deriving DecidableEq, Repr

/-- `stopTimer` for any number.  `tpool` has no negative ones. -/
def stop (id : Int) (t : Timer) : Int × Timer :=
  match id with
  | .ofNat id => t.stopTimer id
  | .negSucc _ => (-1, t)

/-- Requests one after another. -/
def requests : Transducer Timer Request Entry where
  step t r :=
    match r with
    | .set para => ((t.setTimer para).2, [.set (t.setTimer para).1 para])
    | .stop id => ((t.stop id).2, [.stop id (t.stop id).1])

/-- `onTimeout` in thread `n`. -/
def onTimeout (n : Nat) (callback : List Request) (t : Timer) : Timer × List Entry :=
  match t.objects n with
  | none => ({ t with running := Function.update t.running n false }, [.freed n])
  | some ts =>
    let r := requests.run t callback
    (r.1.expire n ts.id, .fire ts.id ts.para :: r.2)

/-- A thread that was cancelled or has ended does not expire. -/
def system : Transducer Timer Event Entry where
  step t e :=
    match e with
    | .request r => requests.step t r
    | .expiration n callback =>
      if t.running n = true then t.onTimeout n callback else (t, [])

/-- A callback stops other timers, not its own. -/
def OthersOnly (t : Timer) : Event → Prop
  | .request _ => True
  | .expiration n callback =>
    t.running n = true → ∀ ts ∈ t.objects n, .stop ts.id ∉ callback

instance (t : Timer) : (e : Event) → Decidable (t.OthersOnly e)
  | .request _ => .isTrue trivial
  | .expiration n callback =>
    inferInstanceAs
      (Decidable (t.running n = true → ∀ ts ∈ t.objects n, Request.stop ts.id ∉ callback))

/-! ## The log -/

def Entry.isSet : Entry → Bool
  | .set _ _ => true
  | _ => false

/-- How many timers were set. -/
def sets (log : List Entry) : Nat := log.countP Entry.isSet

/-- `id` was neither stopped nor has its callback run. -/
def Unspent (log : List Entry) (id : Int) : Prop :=
  (∀ para, .fire id para ∉ log) ∧ .stop id 0 ∉ log

/-- The timer `id` was set and is unspent. -/
def Pending (log : List Entry) (id : Int) (para : Nat) : Prop :=
  .set id para ∈ log ∧ Unspent log id

/-- An entry behind a log: a new number, the result that the pending timers give, the
callback of a pending timer. -/
def Explained (log : List Entry) : Entry → Prop
  | .set id _ => id ≠ 0 ∧ ∀ para, .set id para ∉ log
  | .stop id result =>
    (result = 0 ∧ ∃ para, Pending log id para) ∨ (result = -1 ∧ ∀ para, ¬ Pending log id para)
  | .fire id para => Pending log id para
  | .freed _ => False

def Sound (log : List Entry) : Prop :=
  ∀ pre x post, log = pre ++ x :: post → Explained pre x

theorem sound_snoc {log : List Entry} {x : Entry} :
    Sound (log ++ [x]) ↔ Sound log ∧ Explained log x :=
  forall_split_snoc

variable {log : List Entry} {id : Int} {para : Nat}

theorem pending_snoc_set {id' : Int} {para' : Nat} :
    Pending (log ++ [.set id' para']) id para ↔
      Pending log id para ∨ (id = id' ∧ para = para' ∧ Unspent log id) := by
  simp only [Pending, Unspent, List.mem_append, List.mem_singleton, Entry.set.injEq, reduceCtorEq,
    or_false]
  tauto

theorem pending_snoc_stop {id' result : Int} :
    Pending (log ++ [.stop id' result]) id para ↔
      Pending log id para ∧ ¬ (id = id' ∧ result = 0) := by
  simp only [Pending, Unspent, List.mem_append, List.mem_singleton, Entry.stop.injEq, reduceCtorEq,
    or_false]
  tauto

theorem pending_snoc_fire {id' : Int} {para' : Nat} :
    Pending (log ++ [.fire id' para']) id para ↔ Pending log id para ∧ id ≠ id' := by
  simp only [Pending, Unspent, List.mem_append, List.mem_singleton, Entry.fire.injEq, reduceCtorEq,
    or_false]
  constructor
  · intro h
    obtain ⟨hset, hfire, hstop⟩ := h
    refine ⟨⟨hset, fun p hp => hfire p (.inl hp), hstop⟩, ?_⟩
    intro heq
    exact hfire para' (.inr ⟨heq, rfl⟩)
  · intro h
    obtain ⟨⟨hset, hfire, hstop⟩, hne⟩ := h
    exact ⟨hset, fun p hp => hp.elim (hfire p) fun heq => hne heq.1, hstop⟩

/-- A number that was never returned is unspent. -/
theorem Sound.unspent (h : Sound log) (hset : ∀ para, .set id para ∉ log) : Unspent log id := by
  constructor
  · intro para hmem
    obtain ⟨pre, post, rfl⟩ := List.append_of_mem hmem
    have hpending : Pending pre id para := h pre _ post rfl
    exact hset para (List.mem_append_left _ hpending.1)
  · intro hmem
    obtain ⟨pre, post, rfl⟩ := List.append_of_mem hmem
    rcases h pre _ post rfl with ⟨-, para, hpending⟩ | ⟨hzero, -⟩
    · exact hset para (List.mem_append_left _ hpending.1)
    · exact absurd hzero (by decide)

/-! ## The tables -/

/-- Thread `n` does not run, and neither its `Ts` object nor its number is there. -/
structure Gone (t : Timer) (n : Nat) : Prop where
  running : t.running n = false
  object : t.objects n = none
  tpool : t.tpool (n + 1) = none

/-- The tables have the timers that are pending by the log, and the busy ones.  Thread `n`
has the number `n + 1`. -/
structure Inv (busy : Set Nat) (t : Timer) (log : List Entry) : Prop where
  cnt : t.cnt = t.made
  made : t.made = sets log
  zero : t.tpool 0 = none
  set_mem : ∀ (id : Int) para, .set id para ∈ log → ∃ n, n < t.made ∧ id = (n + 1 : Nat)
  sound : Sound log
  pending : ∀ n para, Pending log (n + 1 : Nat) para → t.Armed n ⟨n + 1, para⟩
  firing : ∀ n ∈ busy, n < t.made ∧ (∃ para, t.Armed n ⟨n + 1, para⟩) ∧
    ∀ para, ¬ Pending log (n + 1 : Nat) para
  gone : ∀ n, (∀ para, ¬ Pending log (n + 1 : Nat) para) → n ∉ busy → t.Gone n

variable {busy : Set Nat} {t : Timer} {n : Nat}

theorem inv_init : Inv ∅ init [] where
  cnt := rfl
  made := rfl
  zero := rfl
  set_mem := fun _ _ h => absurd h List.not_mem_nil
  sound := by
    intro pre x post h
    simp at h
  pending := fun _ _ h => absurd h.1 List.not_mem_nil
  firing := fun _ h => nomatch h
  gone := fun _ _ _ => ⟨rfl, rfl, rfl⟩

/-! ### `setTimer` -/

theorem Armed.setTimer {ts : Ts} (h : t.Armed n ts) (hn : n ≠ t.made)
    (hid : ts.id ≠ nextId t.cnt) (para : Nat) : (t.setTimer para).2.Armed n ts where
  running := (Function.update_of_ne hn ..).trans h.running
  object := (Function.update_of_ne hn ..).trans h.object
  tpool := (Function.update_of_ne hid ..).trans h.tpool
  tpool2 := (Function.update_of_ne hid ..).trans h.tpool2

theorem Gone.setTimer (h : t.Gone n) (hn : n ≠ t.made) (hid : n + 1 ≠ nextId t.cnt) (para : Nat) :
    (t.setTimer para).2.Gone n where
  running := (Function.update_of_ne hn ..).trans h.running
  object := (Function.update_of_ne hn ..).trans h.object
  tpool := (Function.update_of_ne hid ..).trans h.tpool

theorem armed_setTimer (t : Timer) (para : Nat) :
    (t.setTimer para).2.Armed t.made ⟨nextId t.cnt, para⟩ :=
  ⟨Function.update_self .., Function.update_self .., Function.update_self ..,
    Function.update_self ..⟩

/-- The counter does not start again. -/
theorem Inv.nextId_eq (h : Inv busy t log) (hroom : sets log + 1 < 0x7ffffffe) :
    nextId t.cnt = t.made + 1 := by
  have hmade := h.made
  rw [nextId, h.cnt, if_neg]
  omega

theorem Inv.not_set (h : Inv busy t log) (para : Nat) : .set (t.made + 1 : Nat) para ∉ log := by
  intro hmem
  obtain ⟨n, hn, heq⟩ := h.set_mem _ para hmem
  omega

theorem Inv.setTimer (h : Inv busy t log) (hroom : sets log + 1 < 0x7ffffffe) (para : Nat) :
    Inv busy (t.setTimer para).2 (log ++ [.set (t.setTimer para).1 para]) := by
  have hid := h.nextId_eq hroom
  have hnew := h.not_set
  have hunspent := h.sound.unspent hnew
  have hfst : (t.setTimer para).1 = t.made + 1 := hid
  -- the other timers pend as before
  have hother : ∀ n, n ≠ t.made → ∀ p,
      Pending (log ++ [.set (t.made + 1 : Nat) para]) (n + 1 : Nat) p ↔
        Pending log (n + 1 : Nat) p := by
    intro n hn p
    rw [pending_snoc_set]
    refine or_iff_left ?_
    intro heq
    have hcast := heq.1
    omega
  rw [hfst]
  exact
    { cnt := hid
      made := by
        show t.made + 1 = sets (log ++ [.set (t.made + 1 : Nat) para])
        rw [h.made, sets, sets, List.countP_append]
        rfl
      zero := (Function.update_of_ne (by omega) ..).trans h.zero
      set_mem := by
        intro id p hmem
        rcases List.mem_append.1 hmem with hold | hlast
        · obtain ⟨n, hn, heq⟩ := h.set_mem id p hold
          exact ⟨n, Nat.lt_succ_of_lt hn, heq⟩
        · obtain ⟨rfl, -⟩ := Entry.set.inj (List.mem_singleton.1 hlast)
          exact ⟨t.made, Nat.lt_succ_self _, rfl⟩
      sound := sound_snoc.2 ⟨h.sound, by omega, hnew⟩
      pending := by
        intro n p hp
        by_cases hn : n = t.made
        · subst hn
          rcases pending_snoc_set.1 hp with hold | ⟨-, rfl, -⟩
          · exact absurd hold.1 (hnew p)
          · rw [← hid]
            exact armed_setTimer t p
        · exact (h.pending n p ((hother n hn p).1 hp)).setTimer hn (by show n + 1 ≠ _; omega) para
      firing := by
        intro n hn
        obtain ⟨hlt, ⟨p, harmed⟩, hnot⟩ := h.firing n hn
        have hne : n ≠ t.made := Nat.ne_of_lt hlt
        refine ⟨Nat.lt_succ_of_lt hlt, ⟨p, harmed.setTimer hne (by show n + 1 ≠ _; omega) para⟩, ?_⟩
        intro p' hp'
        exact hnot p' ((hother n hne p').1 hp')
      gone := by
        intro n hnot hbusy
        have hne : n ≠ t.made := by
          intro heq
          subst heq
          exact hnot para (pending_snoc_set.2 (.inr ⟨rfl, rfl, hunspent⟩))
        have hgone := h.gone n (fun p hp => hnot p ((hother n hne p).2 hp)) hbusy
        exact hgone.setTimer hne (by omega) para }

/-! ### The end of a timer -/

theorem Armed.clear {m id : Nat} {ts : Ts} (h : t.Armed n ts) (hn : n ≠ m) (hid : ts.id ≠ id) :
    (t.clear m id).Armed n ts where
  running := (Function.update_of_ne hn ..).trans h.running
  object := (Function.update_of_ne hn ..).trans h.object
  tpool := (Function.update_of_ne hid ..).trans h.tpool
  tpool2 := h.tpool2

theorem gone_clear (t : Timer) (n : Nat) : (t.clear n (n + 1)).Gone n :=
  ⟨Function.update_self .., Function.update_self .., Function.update_self ..⟩

theorem Gone.clear {m : Nat} (h : t.Gone n) (hn : n ≠ m) : (t.clear m (m + 1)).Gone n where
  running := (Function.update_of_ne hn ..).trans h.running
  object := (Function.update_of_ne hn ..).trans h.object
  tpool := (Function.update_of_ne (by omega) ..).trans h.tpool

/-- An entry that is not `set`.  The timers that it ends are busy until the tables are
changed. -/
theorem Inv.snoc (h : Inv busy t log) {x : Entry} (hset : x.isSet = false)
    (hx : Explained log x) (ended : Set Nat)
    (hended : ∀ n ∈ ended, ∃ para, Pending log (n + 1 : Nat) para)
    (hpending : ∀ n para, Pending (log ++ [x]) (n + 1 : Nat) para ↔
      Pending log (n + 1 : Nat) para ∧ n ∉ ended) :
    Inv (busy ∪ ended) t (log ++ [x]) where
  cnt := h.cnt
  made := by
    rw [h.made, sets, sets, List.countP_append, List.countP_singleton, hset]
    rfl
  zero := h.zero
  set_mem := by
    intro id para hmem
    rcases List.mem_append.1 hmem with hold | hlast
    · exact h.set_mem id para hold
    · rw [← List.mem_singleton.1 hlast] at hset
      cases hset
  sound := sound_snoc.2 ⟨h.sound, hx⟩
  pending := fun n para hp => h.pending n para ((hpending n para).1 hp).1
  firing := by
    intro n hn
    rcases hn with hold | hnew
    · obtain ⟨hlt, harmed, hnot⟩ := h.firing n hold
      exact ⟨hlt, harmed, fun para hp => hnot para ((hpending n para).1 hp).1⟩
    · obtain ⟨para, hp⟩ := hended n hnew
      obtain ⟨m, hm, heq⟩ := h.set_mem _ para hp.1
      refine ⟨by omega, ⟨para, h.pending n para hp⟩, ?_⟩
      intro para' hp'
      exact ((hpending n para').1 hp').2 hnew
  gone := by
    intro n hnot hn
    refine h.gone n ?_ fun hbusy => hn (.inl hbusy)
    intro para hp
    exact hnot para ((hpending n para).2 ⟨hp, fun hended => hn (.inr hended)⟩)

/-- An entry that ends the timer of thread `n`. -/
theorem Inv.ends (h : Inv busy t log) {x : Entry} (hset : x.isSet = false) (hx : Explained log x)
    (hp : Pending log (n + 1 : Nat) para)
    (hpending : ∀ id para, Pending (log ++ [x]) id para ↔
      Pending log id para ∧ id ≠ (n + 1 : Nat)) :
    Inv (busy ∪ {n}) t (log ++ [x]) := by
  refine h.snoc hset hx {n} ?_ ?_
  · intro m hm
    rw [Set.mem_singleton_iff.1 hm]
    exact ⟨para, hp⟩
  · intro m para'
    rw [hpending, Set.mem_singleton_iff]
    refine and_congr_right fun _ => not_congr ?_
    omega

/-- A busy timer leaves the tables. -/
theorem Inv.clear (h : Inv busy t log) (hn : n ∈ busy) :
    Inv (busy \ {n}) (t.clear n (n + 1)) log where
  cnt := h.cnt
  made := h.made
  zero := by
    have hne : 0 ≠ n + 1 := by omega
    show Function.update t.tpool (n + 1) none 0 = none
    rw [Function.update_of_ne hne, h.zero]
  set_mem := h.set_mem
  sound := h.sound
  pending := by
    intro m para hp
    have hne : m ≠ n := by
      intro heq
      subst heq
      exact (h.firing m hn).2.2 para hp
    exact (h.pending m para hp).clear hne (by show m + 1 ≠ n + 1; omega)
  firing := by
    intro m hm
    obtain ⟨hmem, hne⟩ := hm
    obtain ⟨hlt, ⟨para, harmed⟩, hnot⟩ := h.firing m hmem
    have hid : m + 1 ≠ n + 1 := fun heq => hne (Nat.succ.inj heq)
    exact ⟨hlt, ⟨para, harmed.clear hne hid⟩, hnot⟩
  gone := by
    intro m hnot hm
    by_cases heq : m = n
    · subst heq
      exact gone_clear t m
    · exact (h.gone m hnot fun hmem => hm ⟨hmem, heq⟩).clear heq

/-! ## Steps -/

/-- `stopTimer` of a pending timer. -/
theorem Inv.stop_pending (h : Inv busy t log) (hbusy : n ∉ busy)
    (hp : Pending log (n + 1 : Nat) para) :
    Inv busy (t.stop (n + 1 : Nat)).2 (log ++ [.stop (n + 1 : Nat) (t.stop (n + 1 : Nat)).1]) := by
  have hstop : t.stop (n + 1 : Nat) = (0, t.clear n (n + 1)) :=
    stopTimer_armed (h.pending n para hp)
  have hends : Inv (busy ∪ {n}) t (log ++ [.stop (n + 1 : Nat) 0]) := by
    refine h.ends rfl (.inl ⟨rfl, para, hp⟩) hp ?_
    intro id para'
    rw [pending_snoc_stop, eq_self, and_true]
  have hclear := hends.clear (n := n) (.inr rfl)
  rw [hstop]
  rwa [Set.union_sdiff_right, Set.sdiff_singleton_eq_self hbusy] at hclear

/-- `stopTimer` of a number that is not one of a pending timer. -/
theorem Inv.stop_other (h : Inv busy t log) (hspare : ∀ n ∈ busy, id ≠ (n + 1 : Nat))
    (hp : ∀ para, ¬ Pending log id para) :
    Inv busy (t.stop id).2 (log ++ [.stop id (t.stop id).1]) := by
  have hnone : ∀ m : Nat, id = m → t.tpool m = none := by
    intro m hm
    cases m with
    | zero => exact h.zero
    | succ n =>
      refine (h.gone n ?_ fun hn => hspare n hn hm).tpool
      intro para hpending
      exact hp para (hm ▸ hpending)
  have hstop : t.stop id = (-1, t) := by
    cases id with
    | ofNat m =>
      show t.stopTimer m = (-1, t)
      rw [stopTimer, hnone m rfl]
    | negSucc m => rfl
  have hsnoc : Inv (busy ∪ ∅) t (log ++ [.stop id (-1)]) := by
    refine h.snoc (x := .stop id (-1)) rfl (.inr ⟨rfl, hp⟩) ∅
      (fun _ hn => absurd hn (Set.notMem_empty _)) ?_
    intro m para
    rw [pending_snoc_stop]
    simp
  rw [hstop]
  rwa [Set.union_empty] at hsnoc

/-- `stopTimer` of a timer that is not busy. -/
theorem Inv.stop (h : Inv busy t log) (hspare : ∀ n ∈ busy, id ≠ (n + 1 : Nat)) :
    Inv busy (t.stop id).2 (log ++ [.stop id (t.stop id).1]) := by
  by_cases hp : ∃ para, Pending log id para
  · obtain ⟨para, hp⟩ := hp
    obtain ⟨n, -, rfl⟩ := h.set_mem id para hp.1
    exact h.stop_pending (fun hn => hspare n hn rfl) hp
  · exact h.stop_other hspare fun para hpending => hp ⟨para, hpending⟩

theorem sets_append (xs ys : List Entry) : sets (xs ++ ys) = sets xs + sets ys :=
  List.countP_append

theorem sets_lt_left (xs ys : List Entry) (h : sets (xs ++ ys) < 0x7ffffffe) :
    sets xs < 0x7ffffffe := by
  rw [sets_append] at h
  omega

theorem Inv.request (h : Inv busy t log) {r : Request}
    (hspare : ∀ n ∈ busy, r ≠ .stop (n + 1 : Nat))
    (hroom : sets (log ++ (requests.step t r).2) < 0x7ffffffe) :
    Inv busy (requests.step t r).1 (log ++ (requests.step t r).2) := by
  cases r with
  | set para =>
    rw [sets_append] at hroom
    exact h.setTimer hroom para
  | stop id => exact h.stop fun n hn heq => hspare n hn (congrArg Request.stop heq)

/-- The requests of a callback. -/
theorem Inv.requests (h : Inv busy t log) {rs : List Request}
    (hspare : ∀ r ∈ rs, ∀ n ∈ busy, r ≠ .stop (n + 1 : Nat))
    (hroom : sets (log ++ (requests.run t rs).2) < 0x7ffffffe) :
    Inv busy (requests.run t rs).1 (log ++ (requests.run t rs).2) := by
  have hmeets := Transducer.meets_of_forall (T := Timer.requests) (s := t) hspare
  refine (Transducer.run_inv_log (Q := fun _ _ => True)
    (G := fun log => sets log < 0x7ffffffe) sets_lt_left ?_ h hmeets hroom).2
  intro t log r hinv hr hlt
  exact ⟨trivial, hinv.request hr hlt⟩

/-- A thread that runs has its `Ts` object. -/
theorem Inv.armed_of_running (h : Inv busy t log) (hn : t.running n = true) :
    ∃ para, t.Armed n ⟨n + 1, para⟩ := by
  by_cases hp : ∃ para, Pending log (n + 1 : Nat) para
  · obtain ⟨para, hp⟩ := hp
    exact ⟨para, h.pending n para hp⟩
  · by_cases hbusy : n ∈ busy
    · exact (h.firing n hbusy).2.1
    · have hgone := h.gone n (fun para hpending => hp ⟨para, hpending⟩) hbusy
      rw [hgone.running] at hn
      cases hn

/-- Between the events the timers in the tables are the pending ones. -/
theorem Inv.pending_of_armed (h : Inv ∅ t log) {ts : Ts} (harmed : t.Armed n ts) :
    ts.id = n + 1 ∧ Pending log ts.id ts.para := by
  have hp : ∃ para, Pending log (n + 1 : Nat) para := by
    by_contra hnot
    have hgone := h.gone n (fun para hpending => hnot ⟨para, hpending⟩) (Set.notMem_empty n)
    have hoff := hgone.running
    rw [harmed.running] at hoff
    cases hoff
  obtain ⟨para, hp⟩ := hp
  have hobject := (h.pending n para hp).object
  rw [harmed.object] at hobject
  obtain rfl := Option.some.inj hobject
  exact ⟨rfl, hp⟩

theorem Inv.pending_iff (h : Inv ∅ t log) :
    Pending log id para ↔ ∃ n ts, t.Armed n ts ∧ (ts.id : Int) = id ∧ ts.para = para := by
  constructor
  · intro hp
    obtain ⟨n, -, rfl⟩ := h.set_mem id para hp.1
    exact ⟨n, ⟨n + 1, para⟩, h.pending n para hp, rfl, rfl⟩
  · intro hex
    obtain ⟨n, ts, harmed, rfl, rfl⟩ := hex
    exact (h.pending_of_armed harmed).2

/-- `onTimeout`: the callback of a pending timer, and the timer leaves the tables. -/
theorem Inv.onTimeout (h : Inv ∅ t log) (hn : t.running n = true) {callback : List Request}
    (hothers : ∀ ts ∈ t.objects n, .stop ts.id ∉ callback)
    (hroom : sets (log ++ (t.onTimeout n callback).2) < 0x7ffffffe) :
    (∃ para, (t.onTimeout n callback).2 =
      .fire (n + 1 : Nat) para :: (Timer.requests.run t callback).2) ∧
      Inv ∅ (t.onTimeout n callback).1 (log ++ (t.onTimeout n callback).2) := by
  obtain ⟨para, harmed⟩ := h.armed_of_running hn
  have heq : t.onTimeout n callback =
      ((Timer.requests.run t callback).1.expire n (n + 1),
        .fire (n + 1 : Nat) para :: (Timer.requests.run t callback).2) := by
    simp only [Timer.onTimeout, harmed.object]
  rw [heq] at hroom ⊢
  refine ⟨⟨para, rfl⟩, ?_⟩
  have hp : Pending log (n + 1 : Nat) para := (h.pending_of_armed harmed).2
  have hfired : Inv (∅ ∪ {n}) t (log ++ [.fire (n + 1 : Nat) para]) :=
    h.ends rfl hp hp fun _ _ => pending_snoc_fire
  rw [Set.empty_union] at hfired
  have hspare : ∀ r ∈ callback, ∀ m ∈ ({n} : Set Nat), r ≠ .stop (m + 1 : Nat) := by
    intro r hr m hm heq
    rw [Set.mem_singleton_iff.1 hm] at heq
    exact hothers _ harmed.object (heq ▸ hr)
  show Inv ∅ ((Timer.requests.run t callback).1.expire n (n + 1))
    (log ++ .fire (n + 1 : Nat) para :: (Timer.requests.run t callback).2)
  rw [List.append_cons] at hroom ⊢
  have hend := hfired.requests hspare hroom
  obtain ⟨-, ⟨para', harmed'⟩, -⟩ := hend.firing n rfl
  have hclear := hend.clear (n := n) rfl
  rwa [Set.sdiff_self, ← expire_armed harmed'] at hclear

/-! ## Runs -/

/-- The event asks for the end of the timer `id` of thread `n`. -/
def Event.Ends (n : Nat) (id : Int) : Event → Prop
  | .request r => r = .stop id
  | .expiration m callback => n = m ∨ .stop id ∈ callback

/-- Every other timer stays as it is. -/
def Unchanged (t : Timer) (e : Event) : Prop :=
  ∀ n ts, t.Armed n ts → ¬ e.Ends n ts.id → (system.step t e).1.Armed n ts

theorem Pending.append (h : Pending log id para) {o : List Entry} (ho : Unspent o id) :
    Pending (log ++ o) id para := by
  obtain ⟨hset, hfire, hstop⟩ := h
  refine ⟨List.mem_append_left _ hset, ?_, ?_⟩
  · intro p hmem
    rcases List.mem_append.1 hmem with hold | hnew
    · exact hfire p hold
    · exact ho.1 p hnew
  · intro hmem
    rcases List.mem_append.1 hmem with hold | hnew
    · exact hstop hold
    · exact ho.2 hnew

theorem unspent_cons {x : Entry} {o : List Entry} (hfire : ∀ para, x ≠ .fire id para)
    (hstop : x ≠ .stop id 0) (ho : Unspent o id) : Unspent (x :: o) id := by
  constructor
  · intro para hmem
    rcases List.mem_cons.1 hmem with heq | hlater
    · exact hfire para heq.symm
    · exact ho.1 para hlater
  · intro hmem
    rcases List.mem_cons.1 hmem with heq | hlater
    · exact hstop heq.symm
    · exact ho.2 hlater

theorem unspent_nil : Unspent [] id := ⟨fun _ => List.not_mem_nil, List.not_mem_nil⟩

/-- Requests end no timer but the ones they name. -/
theorem unspent_requests {rs : List Request} (h : .stop id ∉ rs) (t : Timer) :
    Unspent (requests.run t rs).2 id := by
  induction rs generalizing t with
  | nil => exact unspent_nil
  | cons r rs ih =>
    obtain ⟨hr, hrest⟩ := not_or.1 (mt List.mem_cons.2 h)
    have hlater := ih hrest (requests.step t r).1
    rw [Transducer.run_cons]
    cases r with
    | set para => exact unspent_cons (fun _ => nofun) nofun hlater
    | stop id' =>
      refine unspent_cons (fun _ => nofun) ?_ hlater
      intro heq
      exact hr (congrArg Request.stop (Entry.stop.inj heq).1.symm)

/-- One event. -/
theorem Inv.step (h : Inv ∅ t log) {e : Event} (hothers : t.OthersOnly e)
    (hroom : sets (log ++ (system.step t e).2) < 0x7ffffffe) :
    t.Unchanged e ∧ Inv ∅ (system.step t e).1 (log ++ (system.step t e).2) := by
  have hnext : Inv ∅ (system.step t e).1 (log ++ (system.step t e).2) ∧
      ∀ n ts, t.Armed n ts → ¬ e.Ends n ts.id → Unspent (system.step t e).2 ts.id := by
    cases e with
    | request r =>
      refine ⟨h.request (fun n hn => absurd hn (Set.notMem_empty n)) hroom, ?_⟩
      intro n ts harmed hends
      have hnot : .stop ts.id ∉ [r] := fun hmem => hends (List.mem_singleton.1 hmem).symm
      have hone := unspent_requests hnot t
      rwa [Transducer.run_cons, Transducer.run_nil, List.append_nil] at hone
    | expiration n callback =>
      by_cases hn : t.running n = true
      · have hstep : system.step t (.expiration n callback) = t.onTimeout n callback := if_pos hn
        rw [hstep] at hroom ⊢
        obtain ⟨⟨para, hlog⟩, hinv⟩ := h.onTimeout hn (hothers hn) hroom
        refine ⟨hinv, ?_⟩
        intro m ts harmed hends
        obtain ⟨hne, hstop⟩ := not_or.1 hends
        rw [hlog]
        refine unspent_cons ?_ nofun (unspent_requests hstop t)
        intro p heq
        have hid := (h.pending_of_armed harmed).1
        have hcast := (Entry.fire.inj heq).1
        omega
      · have hstep : system.step t (.expiration n callback) = (t, []) := if_neg hn
        rw [hstep, List.append_nil]
        exact ⟨h, fun _ _ _ _ => unspent_nil⟩
  obtain ⟨hinv, hunspent⟩ := hnext
  refine ⟨?_, hinv⟩
  intro n ts harmed hends
  obtain ⟨hid, hp⟩ := h.pending_of_armed harmed
  have hlater := hp.append (hunspent n ts harmed hends)
  obtain ⟨id', para'⟩ := ts
  obtain rfl : id' = n + 1 := hid
  exact hinv.pending n para' hlater

/-- In every run that sets fewer than `0x7ffffffe` timers and whose callbacks leave their own
timer alone: numbers are never `0` and never repeat, `stopTimer` returns `0` exactly for a
pending timer, a callback runs for a pending timer only, and the tables hold the pending
timers. -/
theorem run_pool (es : List Event) (hothers : system.Meets OthersOnly init es)
    (hsets : sets (system.run init es).2 < 0x7ffffffe) :
    Sound (system.run init es).2 ∧ system.Meets Unchanged init es ∧
      ∀ id para, Pending (system.run init es).2 id para ↔
        ∃ n ts, (system.run init es).1.Armed n ts ∧ (ts.id : Int) = id ∧ ts.para = para := by
  obtain ⟨hunchanged, hinv⟩ := Transducer.run_inv_log (T := system) (P := OthersOnly)
    (Q := Unchanged) (G := fun log => sets log < 0x7ffffffe) sets_lt_left
    (fun t log e h hP hG => h.step hP hG) inv_init hothers hsets
  exact ⟨hinv.sound, hunchanged, fun id para => hinv.pending_iff⟩

/-- A callback that stops another timer and sets two. -/
theorem run_pool_callback :
    let es : List Event :=
      [.request (.set 7), .request (.set 8), .expiration 0 [.set 9, .stop 2, .set 10],
        .request (.stop 1), .request (.stop 3), .expiration 3 []]
    Sound (system.run init es).2 ∧ system.Meets Unchanged init es ∧
      ∀ id para, Pending (system.run init es).2 id para ↔
        ∃ n ts, (system.run init es).1.Armed n ts ∧ (ts.id : Int) = id ∧ ts.para = para :=
  run_pool _ (by decide) (by decide)

end MediaGateway.Timer
