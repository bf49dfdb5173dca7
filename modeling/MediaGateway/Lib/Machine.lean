/-!
# Machines, runs and step conditions

A program that reacts to events one at a time is a step function.  This module
has the two forms the development uses and the rules that lift facts about one
step to whole runs.

* `Transducer` is the total form: a step always returns a state and the list
  of what it emitted.
* `Machine` is the form that can fail: a step may end in a fault, and a run
  stops at its first fault.

`Meets P s es` says that every step of the run of `es` from `s` satisfies `P`,
a condition on the state before the step and on the event.  `run_inv_log` is the
invariant rule under such a condition, over the state and everything emitted so
far.  `observe` collects what a function reads off the states and events of a
run.

Nothing here mentions a particular program.
-/

namespace MediaGateway.Lib

/-- What holds of each event of a list and of the events before it, one event
later. -/
theorem forall_split_snoc {ε : Type} {P : List ε → ε → Prop} {es : List ε} {e : ε} :
    (∀ pre x post, es ++ [e] = pre ++ x :: post → P pre x) ↔
      (∀ pre x post, es = pre ++ x :: post → P pre x) ∧ P es e := by
  constructor
  · intro h
    refine ⟨fun pre x post heq => h pre x (post ++ [e]) ?_, h es e [] rfl⟩
    rw [heq, List.append_assoc, List.cons_append]
  · intro hboth pre x post heq
    rcases hboth with ⟨hinit, hlast⟩
    rcases List.eq_nil_or_concat post with rfl | ⟨post', y, rfl⟩
    · obtain ⟨rfl, hx⟩ := List.append_inj' heq rfl
      obtain rfl := List.singleton_inj.1 hx
      exact hlast
    · rw [List.concat_eq_append, ← List.cons_append, ← List.append_assoc] at heq
      obtain ⟨rfl, -⟩ := List.append_inj' heq rfl
      exact hinit pre x post' rfl

/-! ## Total machines -/

/-- A machine whose step always succeeds. -/
structure Transducer (σ ε ο : Type) where
  step : σ → ε → σ × List ο

namespace Transducer

variable {σ ε ο β : Type} (T : Transducer σ ε ο)

/-- The state after a list of events, and everything emitted on the way. -/
def run : σ → List ε → σ × List ο
  | s, [] => (s, [])
  | s, e :: es =>
    ((run (T.step s e).1 es).1, (T.step s e).2 ++ (run (T.step s e).1 es).2)

@[simp] theorem run_nil (s : σ) : T.run s [] = (s, []) := rfl

theorem run_cons (s : σ) (e : ε) (es : List ε) :
    T.run s (e :: es) =
      ((T.run (T.step s e).1 es).1, (T.step s e).2 ++ (T.run (T.step s e).1 es).2) :=
  rfl

theorem run_append (s : σ) (xs ys : List ε) :
    T.run s (xs ++ ys) =
      ((T.run (T.run s xs).1 ys).1, (T.run s xs).2 ++ (T.run (T.run s xs).1 ys).2) := by
  induction xs generalizing s with
  | nil => simp
  | cons x xs ih => simp [run_cons, ih, List.append_assoc]

/-- Every step of the run satisfies `P`. -/
def Meets (P : σ → ε → Prop) : σ → List ε → Prop
  | _, [] => True
  | s, e :: es => P s e ∧ Meets P (T.step s e).1 es

/-- What `f` reads off each state and event of the run and off what the step
emitted. -/
def observe (f : σ → ε → List ο → List β) : σ → List ε → List β
  | _, [] => []
  | s, e :: es => f s e (T.step s e).2 ++ observe f (T.step s e).1 es

variable {T}

@[simp] theorem meets_nil {P : σ → ε → Prop} {s : σ} : T.Meets P s [] := trivial

theorem meets_cons {P : σ → ε → Prop} {s : σ} {e : ε} {es : List ε} :
    T.Meets P s (e :: es) ↔ P s e ∧ T.Meets P (T.step s e).1 es :=
  Iff.rfl

/-- Conditions that agree under an invariant are met by the same runs. -/
theorem meets_congr {P Q : σ → ε → Prop} {Inv : σ → Prop}
    (hstep : ∀ s e, Inv s → Inv (T.step s e).1) (hiff : ∀ s e, Inv s → (P s e ↔ Q s e))
    {s : σ} (hs : Inv s) (es : List ε) : T.Meets P s es ↔ T.Meets Q s es := by
  induction es generalizing s with
  | nil => exact Iff.rfl
  | cons e es ih => rw [meets_cons, meets_cons, hiff s e hs, ih (hstep s e hs)]

/-- A condition on the events alone. -/
theorem meets_of_forall {P : ε → Prop} {s : σ} {es : List ε} (h : ∀ e ∈ es, P e) :
    T.Meets (fun _ => P) s es := by
  induction es generalizing s with
  | nil => trivial
  | cons e es ih =>
    exact ⟨h e List.mem_cons_self, ih fun e' he' => h e' (List.mem_cons_of_mem e he')⟩

/-- A condition that can be decided for a step can be decided for a run. -/
instance decidableMeets {P : σ → ε → Prop} [∀ s e, Decidable (P s e)] :
    (s : σ) → (es : List ε) → Decidable (T.Meets P s es)
  | _, [] => .isTrue trivial
  | s, e :: es =>
    have := decidableMeets (P := P) (T.step s e).1 es
    inferInstanceAs (Decidable (P s e ∧ T.Meets P (T.step s e).1 es))

/-- The invariant rule over states and everything emitted so far, and what each step
does by the invariant.  `G` bounds what the whole run emits. -/
theorem run_inv_log {P Q : σ → ε → Prop} {G : List ο → Prop} {Inv : σ → List ο → Prop}
    (hG : ∀ xs ys, G (xs ++ ys) → G xs)
    (hstep : ∀ s log e, Inv s log → P s e → G (log ++ (T.step s e).2) →
      Q s e ∧ Inv (T.step s e).1 (log ++ (T.step s e).2))
    {s : σ} {es : List ε} {log : List ο} (hs : Inv s log) (hmeets : T.Meets P s es)
    (hlog : G (log ++ (T.run s es).2)) :
    T.Meets Q s es ∧ Inv (T.run s es).1 (log ++ (T.run s es).2) := by
  induction es generalizing s log with
  | nil =>
    rw [run_nil, List.append_nil]
    exact ⟨trivial, hs⟩
  | cons e es ih =>
    rw [run_cons, ← List.append_assoc] at hlog ⊢
    obtain ⟨hQ, hnext⟩ := hstep s log e hs hmeets.1 (hG _ _ hlog)
    obtain ⟨hrest, hend⟩ := ih hnext hmeets.2 hlog
    exact ⟨⟨hQ, hrest⟩, hend⟩

/-- The refinement rule: a machine whose steps follow those of another one runs as that one
does. -/
theorem run_refines {τ ο' : Type} {A : Transducer τ ε ο'} {P : σ → ε → Prop} {f : ο' → ο}
    {R : σ → τ → Prop}
    (hstep : ∀ s t e, R s t → P s e →
      R (T.step s e).1 (A.step t e).1 ∧ (T.step s e).2 = (A.step t e).2.map f)
    {s : σ} {t : τ} {es : List ε} (hs : R s t) (hmeets : T.Meets P s es) :
    R (T.run s es).1 (A.run t es).1 ∧ (T.run s es).2 = (A.run t es).2.map f := by
  induction es generalizing s t with
  | nil => exact ⟨hs, rfl⟩
  | cons e es ih =>
    obtain ⟨hnext, hemit⟩ := hstep s t e hs hmeets.1
    obtain ⟨hend, hrest⟩ := ih hnext hmeets.2
    rw [run_cons, run_cons]
    refine ⟨hend, ?_⟩
    rw [hemit, hrest, List.map_append]

end Transducer

/-! ## Machines with faults -/

/-- A machine whose step may end in a fault. -/
structure Machine (σ ε ο φ : Type) where
  step : σ → ε → Except φ (σ × List ο)

namespace Machine

variable {σ ε ο φ β : Type} (M : Machine σ ε ο φ)

/-- The run of a list of events.  It stops at the first fault. -/
def run : σ → List ε → Except φ (σ × List ο)
  | s, [] => .ok (s, [])
  | s, e :: es =>
    match M.step s e with
    | .error f => .error f
    | .ok (s₁, o₁) =>
      match run s₁ es with
      | .error f => .error f
      | .ok (s₂, o₂) => .ok (s₂, o₁ ++ o₂)

/-- What a run emits before it ends, in a fault or not. -/
def emitted : σ → List ε → List ο
  | _, [] => []
  | s, e :: es =>
    match M.step s e with
    | .error _ => []
    | .ok (s₁, o₁) => o₁ ++ emitted s₁ es

/-- The fault that the run ends in. -/
def fault (s : σ) (es : List ε) : Option φ :=
  match M.run s es with
  | .error f => some f
  | .ok _ => none

/-- Every step the run takes satisfies `P`. -/
def Meets (P : σ → ε → Prop) : σ → List ε → Prop
  | _, [] => True
  | s, e :: es => P s e ∧ ∀ s₁ o₁, M.step s e = .ok (s₁, o₁) → Meets P s₁ es

/-- What `f` reads off each state and event of the run. -/
def observe (f : σ → ε → List β) : σ → List ε → List β
  | _, [] => []
  | s, e :: es =>
    f s e ++
      match M.step s e with
      | .error _ => []
      | .ok (s₁, _) => observe f s₁ es

variable {M}

@[simp] theorem run_nil (s : σ) : M.run s [] = .ok (s, []) := rfl

theorem run_nil_ok {s s₁ : σ} {o : List ο} : M.run s [] = .ok (s₁, o) ↔ s₁ = s ∧ o = [] := by
  constructor
  · intro heq
    rcases heq with ⟨⟩
    exact ⟨rfl, rfl⟩
  · intro heqs
    rcases heqs with ⟨rfl, rfl⟩
    rfl

theorem run_cons_ok {s s₂ : σ} {e : ε} {es : List ε} {o : List ο} :
    M.run s (e :: es) = .ok (s₂, o) ↔
      ∃ s₁ o₁ o₂, M.step s e = .ok (s₁, o₁) ∧ M.run s₁ es = .ok (s₂, o₂) ∧
        o = o₁ ++ o₂ := by
  constructor
  · intro h
    simp only [run] at h
    split at h
    · cases h
    · rename_i s₁ o₁ hstep
      split at h
      · cases h
      · rename_i s₂' o₂ hrun
        obtain ⟨rfl, rfl⟩ := Prod.mk.inj (Except.ok.inj h)
        exact ⟨s₁, o₁, o₂, hstep, hrun, rfl⟩
  · intro hex
    rcases hex with ⟨s₁, o₁, o₂, hstep, hrun, rfl⟩
    simp only [run, hstep, hrun]

theorem run_append_ok {s s₂ : σ} {xs ys : List ε} {o : List ο} :
    M.run s (xs ++ ys) = .ok (s₂, o) ↔
      ∃ s₁ o₁ o₂, M.run s xs = .ok (s₁, o₁) ∧ M.run s₁ ys = .ok (s₂, o₂) ∧
        o = o₁ ++ o₂ := by
  induction xs generalizing s o with
  | nil =>
    constructor
    · intro h
      exact ⟨s, [], o, rfl, h, rfl⟩
    · intro hex
      rcases hex with ⟨s₁, o₁, o₂, hnil, hys, rfl⟩
      obtain ⟨rfl, rfl⟩ := run_nil_ok.1 hnil
      exact hys
  | cons x xs ih =>
    rw [List.cons_append]
    constructor
    · intro h
      obtain ⟨t, p, q, hx, hrest, rfl⟩ := run_cons_ok.1 h
      obtain ⟨s₁, o₁, o₂, hxs, hys, rfl⟩ := ih.1 hrest
      refine ⟨s₁, p ++ o₁, o₂, run_cons_ok.2 ⟨t, p, o₁, hx, hxs, rfl⟩, hys, ?_⟩
      rw [List.append_assoc]
    · intro hex
      rcases hex with ⟨s₁, o₁, o₂, hxs, hys, rfl⟩
      obtain ⟨t, p, q, hx, hrest, rfl⟩ := run_cons_ok.1 hxs
      refine run_cons_ok.2 ⟨t, p, q ++ o₂, hx, ih.2 ⟨s₁, q, o₂, hrest, hys, rfl⟩, ?_⟩
      rw [List.append_assoc]

theorem fault_eq_some {s : σ} {es : List ε} {f : φ} (h : M.fault s es = some f) :
    M.run s es = .error f := by
  unfold fault at h
  split at h
  · rename_i g hrun
    rw [hrun, Option.some.inj h]
  · cases h

theorem fault_eq_none {s : σ} {es : List ε} (h : M.fault s es = none) :
    ∃ s₁ o₁, M.run s es = .ok (s₁, o₁) := by
  unfold fault at h
  split at h
  · cases h
  · rename_i r hrun
    exact ⟨r.1, r.2, hrun⟩

/-- A run without a fault emits everything. -/
theorem emitted_of_ok {s s₁ : σ} {es : List ε} {o : List ο} (h : M.run s es = .ok (s₁, o)) :
    M.emitted s es = o := by
  induction es generalizing s o with
  | nil => exact (run_nil_ok.1 h).2.symm
  | cons e es ih =>
    obtain ⟨s₂, o₁, o₂, hstep, hrun, rfl⟩ := run_cons_ok.1 h
    simp only [emitted, hstep, ih hrun]

/-- A run that has been evaluated, with what was read off its end. -/
theorem exists_of_map {s : σ} {es : List ε} {f : σ × List ο → β} {b : β}
    (h : (M.run s es).toOption.map f = some b) :
    ∃ s₁ o₁, M.run s es = .ok (s₁, o₁) ∧ f (s₁, o₁) = b := by
  cases hrun : M.run s es with
  | error g =>
    rw [hrun] at h
    cases h
  | ok r =>
    rw [hrun] at h
    exact ⟨r.1, r.2, rfl, Option.some.inj h⟩

/-- A run of one more event. -/
theorem run_snoc_ok {s s₂ : σ} {xs : List ε} {e : ε} {o : List ο} :
    M.run s (xs ++ [e]) = .ok (s₂, o) ↔
      ∃ s₁ o₁ o₂, M.run s xs = .ok (s₁, o₁) ∧ M.step s₁ e = .ok (s₂, o₂) ∧
        o = o₁ ++ o₂ := by
  rw [run_append_ok]
  constructor
  · intro hex
    rcases hex with ⟨s₁, o₁, o₂, hxs, he, rfl⟩
    obtain ⟨t, p, q, hstep, hnil, rfl⟩ := run_cons_ok.1 he
    obtain ⟨rfl, rfl⟩ := run_nil_ok.1 hnil
    exact ⟨s₁, o₁, p, hxs, hstep, by rw [List.append_nil]⟩
  · intro hex
    rcases hex with ⟨s₁, o₁, o₂, hxs, hstep, rfl⟩
    refine ⟨s₁, o₁, o₂, hxs, run_cons_ok.2 ⟨s₂, o₂, [], hstep, rfl, ?_⟩, rfl⟩
    rw [List.append_nil]

/-- A run ends in the fault `f` exactly when some step of it does. -/
theorem run_error_iff {s : σ} {es : List ε} {f : φ} :
    M.run s es = .error f ↔
      ∃ pre e post s₁ o₁, es = pre ++ e :: post ∧ M.run s pre = .ok (s₁, o₁) ∧
        M.step s₁ e = .error f := by
  induction es generalizing s with
  | nil => simp
  | cons x xs ih =>
    constructor
    · intro h
      simp only [run] at h
      split at h
      · rename_i g hstep
        obtain rfl := Except.error.inj h
        exact ⟨[], x, xs, s, [], rfl, rfl, hstep⟩
      · rename_i s₁ o₁ hstep
        split at h
        · rename_i g hrun
          obtain rfl := Except.error.inj h
          obtain ⟨pre, e, post, t, p, rfl, hpre, hfault⟩ := ih.1 hrun
          exact ⟨x :: pre, e, post, t, o₁ ++ p, rfl,
            run_cons_ok.2 ⟨s₁, o₁, p, hstep, hpre, rfl⟩, hfault⟩
        · cases h
    · intro hex
      rcases hex with ⟨pre, e, post, t, p, heq, hpre, hfault⟩
      cases pre with
      | nil =>
        obtain ⟨rfl, rfl⟩ := List.cons.inj heq
        obtain ⟨rfl, rfl⟩ := run_nil_ok.1 hpre
        simp only [run, hfault]
      | cons y pre =>
        obtain ⟨rfl, rfl⟩ := List.cons.inj heq
        obtain ⟨s₁, o₁, o₂, hstep, hrest, rfl⟩ := run_cons_ok.1 hpre
        simp only [run, hstep, ih.2 ⟨pre, e, post, t, o₂, rfl, hrest, hfault⟩]

@[simp] theorem meets_nil {P : σ → ε → Prop} {s : σ} : M.Meets P s [] := trivial

/-- What a run meets, its beginning meets. -/
theorem meets_left {P : σ → ε → Prop} {s s₁ : σ} {xs ys : List ε} {e : ε} {o : List ο}
    (h : M.Meets P s (xs ++ e :: ys)) (hrun : M.run s xs = .ok (s₁, o)) :
    M.Meets P s xs ∧ P s₁ e := by
  induction xs generalizing s o with
  | nil =>
    obtain ⟨rfl, rfl⟩ := run_nil_ok.1 hrun
    exact ⟨trivial, h.1⟩
  | cons x xs ih =>
    obtain ⟨t, p, q, hx, hxs, rfl⟩ := run_cons_ok.1 hrun
    obtain ⟨hrest, he⟩ := ih (h.2 t p hx) hxs
    refine ⟨⟨h.1, fun t' p' hx' => ?_⟩, he⟩
    rw [hx] at hx'
    obtain ⟨rfl, rfl⟩ := Prod.mk.inj (Except.ok.inj hx')
    exact hrest

/-- The condition of a run of one more event. -/
theorem meets_snoc {P : σ → ε → Prop} {s s₁ : σ} {xs : List ε} {e : ε} {o : List ο}
    (hrun : M.run s xs = .ok (s₁, o)) : M.Meets P s (xs ++ [e]) ↔ M.Meets P s xs ∧ P s₁ e := by
  refine ⟨fun h => meets_left h hrun, ?_⟩
  induction xs generalizing s o with
  | nil =>
    obtain ⟨rfl, rfl⟩ := run_nil_ok.1 hrun
    intro hboth
    rcases hboth with ⟨-, he⟩
    exact ⟨he, fun _ _ _ => trivial⟩
  | cons x xs ih =>
    obtain ⟨t, p, q, hx, hxs, rfl⟩ := run_cons_ok.1 hrun
    intro hall
    rcases hall with ⟨⟨hP, hrest⟩, he⟩
    refine ⟨hP, fun t' p' hx' => ?_⟩
    rw [hx] at hx'
    obtain ⟨rfl, rfl⟩ := Prod.mk.inj (Except.ok.inj hx')
    exact ih hxs ⟨hrest t p hx, he⟩

/-- A condition that can be decided for a step can be decided for a run. -/
instance decidableMeets {P : σ → ε → Prop} [∀ s e, Decidable (P s e)] :
    (s : σ) → (es : List ε) → Decidable (M.Meets P s es)
  | _, [] => .isTrue trivial
  | s, e :: es =>
    match hstep : M.step s e with
    | .error _ =>
      decidable_of_iff (P s e)
        ⟨fun h => ⟨h, fun s₁ o₁ h₁ => by rw [hstep] at h₁; cases h₁⟩, And.left⟩
    | .ok (s₁, o₁) =>
      have := decidableMeets (P := P) s₁ es
      decidable_of_iff (P s e ∧ M.Meets P s₁ es)
        ⟨fun h => ⟨h.1, fun s₂ o₂ h₂ => by rw [hstep] at h₂; cases h₂; exact h.2⟩,
          fun h => ⟨h.1, h.2 s₁ o₁ hstep⟩⟩

/-- The invariant rule over states and everything emitted so far. -/
theorem run_inv_log {P : σ → ε → Prop} {Inv : σ → List ο → Prop}
    (hstep : ∀ s log e s₁ o₁, Inv s log → P s e → M.step s e = .ok (s₁, o₁) →
      Inv s₁ (log ++ o₁))
    {s s₂ : σ} {es : List ε} {log o : List ο} (hs : Inv s log)
    (hmeets : M.Meets P s es) (hrun : M.run s es = .ok (s₂, o)) :
    Inv s₂ (log ++ o) := by
  induction es generalizing s log o with
  | nil =>
    obtain ⟨rfl, rfl⟩ := run_nil_ok.1 hrun
    rwa [List.append_nil]
  | cons e es ih =>
    obtain ⟨s₁, o₁, o₂, he, hes, rfl⟩ := run_cons_ok.1 hrun
    rw [← List.append_assoc]
    exact ih (hstep s log e s₁ o₁ hs hmeets.1 he) (hmeets.2 s₁ o₁ he) hes

/-- A weaker condition. -/
theorem meets_imp {P Q : σ → ε → Prop} (h : ∀ s e, P s e → Q s e) {s : σ} {es : List ε}
    (hmeets : M.Meets P s es) : M.Meets Q s es := by
  induction es generalizing s with
  | nil => trivial
  | cons e es ih =>
    exact ⟨h s e hmeets.1, fun s₁ o₁ hstep => ih (hmeets.2 s₁ o₁ hstep)⟩

/-- The condition that excludes nothing. -/
theorem meets_true {s : σ} {es : List ε} : M.Meets (fun _ _ => True) s es := by
  induction es generalizing s with
  | nil => trivial
  | cons e es ih => exact ⟨trivial, fun s₁ _ _ => ih⟩

/-- The invariant rule for all runs from a start in which nothing is emitted yet. -/
theorem run_inv {Inv : σ → List ο → Prop}
    (hstep : ∀ s log e s₁ o₁, Inv s log → M.step s e = .ok (s₁, o₁) → Inv s₁ (log ++ o₁))
    {s s₂ : σ} {es : List ε} {o : List ο} (hs : Inv s []) (hrun : M.run s es = .ok (s₂, o)) :
    Inv s₂ o :=
  run_inv_log (fun s log e s₁ o₁ hinv _ hok => hstep s log e s₁ o₁ hinv hok) hs meets_true hrun

theorem observe_cons_ok {f : σ → ε → List β} {s s₁ : σ} {e : ε} {es : List ε}
    {o₁ : List ο} (h : M.step s e = .ok (s₁, o₁)) :
    M.observe f s (e :: es) = f s e ++ M.observe f s₁ es := by
  simp only [observe, h]

theorem observe_singleton (f : σ → ε → List β) (s : σ) (e : ε) : M.observe f s [e] = f s e := by
  simp only [observe]
  split <;> exact List.append_nil _

/-- What is observed of a run of one more event. -/
theorem observe_snoc {f : σ → ε → List β} {s s₁ : σ} {es : List ε} {e : ε}
    {o : List ο} (h : M.run s es = .ok (s₁, o)) :
    M.observe f s (es ++ [e]) = M.observe f s es ++ f s₁ e := by
  induction es generalizing s o with
  | nil =>
    obtain ⟨rfl, rfl⟩ := run_nil_ok.1 h
    simp only [observe, List.nil_append]
    split <;> simp
  | cons x xs ih =>
    obtain ⟨t, o₁, o₂, hx, hxs, rfl⟩ := run_cons_ok.1 h
    rw [List.cons_append, observe_cons_ok hx, observe_cons_ok hx, ih hxs,
      List.append_assoc]

/-- The invariant rule over states and everything observed so far.  `G` is a condition on
what the whole run observes. -/
theorem observe_inv {f : σ → ε → List β} {P : σ → ε → Prop} {G : List β → Prop}
    {Inv : σ → List β → Prop} (hG : ∀ xs ys, G (xs ++ ys) → G xs)
    (hstep : ∀ s log e s₁ o₁, Inv s log → P s e → G (log ++ f s e) →
      M.step s e = .ok (s₁, o₁) → Inv s₁ (log ++ f s e))
    {s s₂ : σ} {es : List ε} {log : List β} {o : List ο} (hs : Inv s log)
    (hmeets : M.Meets P s es) (hrun : M.run s es = .ok (s₂, o))
    (hlog : G (log ++ M.observe f s es)) : Inv s₂ (log ++ M.observe f s es) := by
  induction es generalizing s log o with
  | nil =>
    obtain ⟨rfl, rfl⟩ := run_nil_ok.1 hrun
    rwa [observe, List.append_nil]
  | cons e es ih =>
    obtain ⟨s₁, o₁, o₂, he, hes, rfl⟩ := run_cons_ok.1 hrun
    rw [observe_cons_ok he, ← List.append_assoc] at hlog ⊢
    exact ih (hstep s log e s₁ o₁ hs hmeets.1 (hG _ _ hlog) he) (hmeets.2 s₁ o₁ he) hes hlog

end Machine

end MediaGateway.Lib
