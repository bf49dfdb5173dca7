import Mathlib.Data.List.Basic

/-!
# A counter that several parties share

A counter goes round: it marks every `n`-th item of a list and starts again.
`marks` is one counter over items that belong to several parties, and `own` the
marks that one party sees on its own items.

`regular_own_marks_iff` says when sharing makes no difference: each party sees
every `n`-th of its own items marked exactly when each whole round belongs to one
party.
-/

namespace MediaGateway.Lib.Rounds

variable {α : Type}

/-! ## The counter -/

/-- The items with the marks of a counter that stands at `c`. -/
def marks (n : Nat) : Nat → List α → List (α × Bool)
  | _, [] => []
  | c, a :: rest => (a, c + 1 == n) :: marks n (if c + 1 == n then 0 else c + 1) rest

/-- The marks on the items of the party `a`. -/
def own [DecidableEq α] (a : α) (marked : List (α × Bool)) : List Bool :=
  (marked.filter fun x => x.1 = a).map Prod.snd

/-- Every `n`-th mark is set and no other. -/
def Regular (n : Nat) (flags : List Bool) : Prop :=
  ∀ k b, flags[k]? = some b → (b = true ↔ n ∣ k + 1)

/-- Each whole round of `n` items belongs to one party. -/
def Whole (n : Nat) (owners : List α) : Prop :=
  ∀ pre round post, owners = pre ++ round ++ post → n ∣ pre.length → round.length = n →
    ∀ a ∈ round, ∀ b ∈ round, a = b

/-- Items that do not complete the round. -/
theorem marks_of_lt {n c : Nat} {items : List α} (h : c + items.length < n) :
    marks n c items = items.map fun a => (a, false) := by
  induction items generalizing c with
  | nil => rfl
  | cons a rest ih =>
    rw [List.length_cons] at h
    have hne : (c + 1 == n) = false := beq_false_of_ne (by omega)
    rw [marks, hne, if_neg Bool.false_ne_true, ih (by omega), List.map_cons]

/-- Items that complete the round, and those behind them. -/
theorem marks_round {n c : Nat} {items : List α} {last : α} {rest : List α}
    (h : c + items.length + 1 = n) :
    marks n c (items ++ last :: rest) =
      items.map (fun a => (a, false)) ++ (last, true) :: marks n 0 rest := by
  induction items generalizing c with
  | nil =>
    have heq : (c + 1 == n) = true := beq_iff_eq.2 h
    rw [List.nil_append, marks, heq, if_pos rfl]
    rfl
  | cons a items ih =>
    rw [List.length_cons] at h
    have hne : (c + 1 == n) = false := beq_false_of_ne (by omega)
    rw [List.cons_append, marks, hne, if_neg Bool.false_ne_true, ih (by omega), List.map_cons,
      List.cons_append]

/-! ## Regular marks -/

theorem regular_of_lt {n : Nat} {flags : List Bool} (hlen : flags.length < n)
    (h : ∀ b ∈ flags, b = false) : Regular n flags := by
  intro k b hb
  obtain ⟨hk, -⟩ := List.getElem?_eq_some_iff.1 hb
  have hfalse := h b (List.mem_of_getElem? hb)
  refine iff_of_false (by simp [hfalse]) fun hdvd => ?_
  have hle := Nat.le_of_dvd (Nat.succ_pos k) hdvd
  omega

/-- Behind whole rounds the marks are regular by themselves. -/
theorem regular_append {n : Nat} {xs ys : List Bool} (h : n ∣ xs.length) :
    Regular n (xs ++ ys) ↔ Regular n xs ∧ Regular n ys := by
  constructor
  · intro hreg
    refine ⟨fun k b hb => hreg k b ?_, fun k b hb => ?_⟩
    · obtain ⟨hk, -⟩ := List.getElem?_eq_some_iff.1 hb
      rwa [List.getElem?_append_left hk]
    · have hshift := hreg (xs.length + k) b (by
        rwa [List.getElem?_append_right (Nat.le_add_right ..), Nat.add_sub_cancel_left])
      rw [hshift, Nat.add_assoc]
      exact (Nat.dvd_add_right h)
  · intro hboth k b hb
    rcases hboth with ⟨hx, hy⟩
    rcases Nat.lt_or_ge k xs.length with hk | hk
    · rw [List.getElem?_append_left hk] at hb
      exact hx k b hb
    · rw [List.getElem?_append_right hk] at hb
      rw [hy _ b hb, ← Nat.dvd_add_right h]
      have hsum : xs.length + (k - xs.length + 1) = k + 1 := by omega
      rw [hsum]

/-- One round of marks. -/
theorem regular_round {n c : Nat} (h : c + 1 = n) :
    Regular n (List.replicate c false ++ [true]) := by
  intro k b hb
  obtain ⟨hk, -⟩ := List.getElem?_eq_some_iff.1 hb
  rw [List.length_append, List.length_replicate, List.length_singleton] at hk
  rcases Nat.lt_or_ge k c with hlt | hge
  · rw [List.getElem?_append_left (by rwa [List.length_replicate]),
      List.getElem?_replicate_of_lt hlt] at hb
    refine iff_of_false (by simp [← Option.some.inj hb]) fun hdvd => ?_
    have hle := Nat.le_of_dvd (Nat.succ_pos k) hdvd
    omega
  · obtain rfl : k = c := by omega
    rw [List.getElem?_append_right (Nat.le_of_eq List.length_replicate), List.length_replicate,
      Nat.sub_self] at hb
    apply iff_of_true (Option.some.inj hb).symm
    exact ⟨1, by rw [h, Nat.mul_one]⟩

/-- Marks that are regular up to the first one that is set. -/
theorem dvd_of_regular {n c : Nat} {flags : List Bool}
    (h : Regular n (List.replicate c false ++ true :: flags)) : n ∣ c + 1 := by
  refine (h c true ?_).1 rfl
  rw [List.getElem?_append_right (Nat.le_of_eq List.length_replicate), List.length_replicate,
    Nat.sub_self]
  rfl

/-! ## Whole rounds -/

theorem whole_of_lt {n : Nat} {owners : List α} (h : owners.length < n) : Whole n owners := by
  intro pre round post heq _ hround
  subst heq
  rw [List.length_append, List.length_append] at h
  omega

/-- The first round and the others. -/
theorem whole_round_iff {n : Nat} {items : List α} {last : α} {rest : List α}
    (hlen : items.length + 1 = n) :
    Whole n (items ++ last :: rest) ↔ (∀ a ∈ items, a = last) ∧ Whole n rest := by
  have hfirst : (items ++ [last]).length = n := by
    rw [List.length_append, List.length_singleton, hlen]
  rw [List.append_cons]
  constructor
  · intro h
    constructor
    · intro a ha
      exact h [] (items ++ [last]) rest rfl (Nat.dvd_zero n) hfirst a (List.mem_append_left _ ha)
        last (List.mem_append_right _ (List.mem_singleton.2 rfl))
    · intro pre round post heq' hpre hround
      subst heq'
      refine h (items ++ [last] ++ pre) round post ?_ ?_ hround
      · simp only [List.append_assoc]
      · rw [List.length_append, hfirst]
        exact Nat.dvd_add (Nat.dvd_refl n) hpre
  · intro hboth pre round post heq hpre hround
    rcases hboth with ⟨hsame, hrest⟩
    have hall : ∀ a ∈ items ++ [last], a = last := by
      intro a ha
      rcases List.mem_append.1 ha with ha | ha
      · exact hsame a ha
      · exact List.mem_singleton.1 ha
    rw [List.append_assoc pre] at heq
    by_cases hnil : pre = []
    · rw [hnil, List.nil_append] at heq
      obtain ⟨rfl, -⟩ := List.append_inj heq (hfirst.trans hround.symm)
      intro a ha b hb
      rw [hall a ha, hall b hb]
    · have hle : (items ++ [last]).length ≤ pre.length := by
        rw [hfirst]
        exact Nat.le_of_dvd (List.length_pos_iff.2 hnil) hpre
      obtain ⟨pre', rfl⟩ : ∃ pre', pre = items ++ [last] ++ pre' := by
        obtain ⟨pre', hpre'⟩ := List.prefix_of_prefix_length_le
          (List.prefix_append (items ++ [last]) rest) ⟨_, heq.symm⟩ hle
        exact ⟨pre', hpre'.symm⟩
      rw [List.append_assoc (items ++ [last])] at heq
      refine hrest pre' round post ?_ ?_ hround
      · rw [List.append_assoc]
        exact List.append_cancel_left heq
      · rw [List.length_append, hfirst] at hpre
        exact (Nat.dvd_add_right (Nat.dvd_refl n)).1 hpre

/-! ## Sharing -/

section own

variable [DecidableEq α]

theorem own_append (a : α) (xs ys : List (α × Bool)) :
    own a (xs ++ ys) = own a xs ++ own a ys := by
  rw [own, List.filter_append, List.map_append]
  rfl

theorem own_cons (a : α) (x : α × Bool) (xs : List (α × Bool)) :
    own a (x :: xs) = (if x.1 = a then [x.2] else []) ++ own a xs := by
  by_cases h : x.1 = a <;> simp [own, h]

/-- Items without a mark. -/
theorem own_unmarked (a : α) (items : List α) :
    own a (items.map fun x => (x, false)) = List.replicate (items.count a) false := by
  induction items with
  | nil => rfl
  | cons x items ih =>
    rw [List.map_cons, own_cons, ih, List.count_cons]
    by_cases h : x = a <;> simp [h, List.replicate_succ]

/-- Each party sees every `n`-th of its own items marked exactly when each whole
round belongs to one party. -/
theorem regular_own_marks_iff {n : Nat} (hn : 0 < n) (owners : List α) :
    (∀ a, Regular n (own a (marks n 0 owners))) ↔ Whole n owners := by
  induction hsize : owners.length using Nat.strongRecOn generalizing owners with
  | _ size ih =>
    rcases Nat.lt_or_ge size n with hlt | hge
    · refine iff_of_true (fun a => ?_) (whole_of_lt (by omega))
      rw [marks_of_lt (by omega), own_unmarked]
      refine regular_of_lt ?_ fun b hb => (List.mem_replicate.1 hb).2
      have hcount : owners.count a ≤ owners.length := List.count_le_length
      rw [List.length_replicate]
      omega
    · obtain ⟨items, last, rest, rfl, hlen⟩ : ∃ items last rest,
          owners = items ++ last :: rest ∧ items.length + 1 = n := by
        have hpos : n - 1 < owners.length := by omega
        refine ⟨owners.take (n - 1), owners[n - 1], owners.drop n, ?_, ?_⟩
        · have hdrop := List.drop_eq_getElem_cons hpos
          rw [Nat.sub_add_cancel hn] at hdrop
          rw [← hdrop, List.take_append_drop]
        · rw [List.length_take]
          omega
      have hown : ∀ a, own a (marks n 0 (items ++ last :: rest)) =
          List.replicate (items.count a) false ++
            ((if last = a then [true] else []) ++ own a (marks n 0 rest)) := by
        intro a
        rw [marks_round (by omega), own_append, own_unmarked, own_cons]
      have hrest := ih rest.length (by rw [List.length_append, List.length_cons] at hsize; omega)
        rest rfl
      rw [whole_round_iff hlen, ← hrest]
      have hblock : (∀ a ∈ items, a = last) → ∀ a,
          (Regular n (own a (marks n 0 (items ++ last :: rest))) ↔
            Regular n (own a (marks n 0 rest))) := by
        intro hsame a
        rw [hown]
        by_cases hlast : last = a
        · subst hlast
          have hcount : items.count last = items.length :=
            List.count_eq_length.2 fun b hb => (hsame b hb).symm
          rw [if_pos rfl, hcount, ← List.append_assoc, regular_append]
          · exact and_iff_right (regular_round hlen)
          · refine ⟨1, ?_⟩
            rw [List.length_append, List.length_replicate, List.length_singleton, hlen,
              Nat.mul_one]
        · have hcount : items.count a = 0 :=
            List.count_eq_zero.2 fun ha => hlast (hsame a ha).symm
          rw [if_neg hlast, hcount]
          rfl
      constructor
      · intro hreg
        have hsame : ∀ a ∈ items, a = last := by
          have hlast := hreg last
          rw [hown, if_pos rfl] at hlast
          have hle := Nat.le_of_dvd (Nat.succ_pos _) (dvd_of_regular hlast)
          have hcount : items.count last ≤ items.length := List.count_le_length
          intro a ha
          exact (List.count_eq_length.1 (by omega) a ha).symm
        exact ⟨hsame, fun a => (hblock hsame a).1 (hreg a)⟩
      · intro hboth a
        rcases hboth with ⟨hsame, hreg⟩
        exact (hblock hsame a).2 (hreg a)

end own

end MediaGateway.Lib.Rounds
