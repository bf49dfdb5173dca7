import MediaGateway.Lib.Text

/-!
# Searching a text of lines

A text is written as lines with a CRLF behind each (`unlines`).  The callers of
`find` search the whole text and go on from the position they have found, so each
rule here is about a text that is cut at the position where the search starts:

* `find_append_length` moves the start of a search to the cut.
* `find_append_cons` and `find_unlines` skip text in which the pattern does not
  occur.  A pattern without the byte that ends the text cannot reach over it.
* `find_self`, `find_byte` and `find_crlf` say where a search stops.

`contains_unlines` is what a whole search comes to: a pattern of one line stands in
one of the lines.
-/

namespace MediaGateway.Lib.Bytes

/-! ## The start of a search -/

theorem findFrom_eq_map (pat s : Bytes) (i : Nat) :
    findFrom pat s i = (findFrom pat s 0).map (i + ·) := by
  induction s generalizing i with
  | nil =>
    simp only [findFrom]
    split <;> simp
  | cons c s ih =>
    simp only [findFrom]
    split
    · simp
    · rw [ih (i + 1), ih (0 + 1), Option.map_map]
      congr 1
      funext n
      simp only [Function.comp_apply]
      omega

theorem find_zero (s pat : Bytes) : find s pat 0 = findFrom pat s 0 := by
  rw [find, if_pos (Nat.zero_le _), List.drop_zero]

/-- A search from a cut is a search of what lies behind it. -/
theorem find_append_length (x y pat : Bytes) :
    find (x ++ y) pat x.length = (find y pat 0).map (x.length + ·) := by
  have hle : x.length ≤ (x ++ y).length := by
    rw [List.length_append]
    omega
  rw [find, if_pos hle, List.drop_left, findFrom_eq_map, find_zero]

/-- And so from a position behind the cut. -/
theorem find_append_add (x y pat : Bytes) (n : Nat) :
    find (x ++ y) pat (x.length + n) = (find y pat n).map (x.length + ·) := by
  by_cases hn : n ≤ y.length
  · have hy : y = y.take n ++ y.drop n := (List.take_append_drop n y).symm
    have hlen : (y.take n).length = n := List.length_take_of_le hn
    have hx : (x ++ y.take n).length = x.length + n := by rw [List.length_append, hlen]
    have hleft : find (x ++ y) pat (x.length + n) =
        (find (y.drop n) pat 0).map (x.length + n + ·) := by
      rw [hy, ← List.append_assoc, ← hx, find_append_length, List.drop_left' hlen]
    have hright : find y pat n = (find (y.drop n) pat 0).map (n + ·) := by
      have hcut := find_append_length (y.take n) (y.drop n) pat
      rwa [← hy, hlen] at hcut
    rw [hleft, hright, Option.map_map]
    congr 1
    funext m
    simp only [Function.comp_apply]
    omega
  · have hleft : ¬ x.length + n ≤ (x ++ y).length := by
      rw [List.length_append]
      omega
    rw [find, if_neg hleft, find, if_neg hn]
    rfl

/-! ## Text without the pattern -/

theorem findFrom_cons_of_ne {pat : Bytes} {c d : UInt8} (hc : pat.head? = some d) (hne : c ≠ d)
    (s : Bytes) (i : Nat) : findFrom pat (c :: s) i = findFrom pat s (i + 1) := by
  obtain ⟨rest, rfl⟩ := List.head?_eq_some_iff.1 hc
  rw [findFrom, if_neg]
  intro hpre
  obtain ⟨t, ht⟩ := List.isPrefixOf_iff_prefix.1 hpre
  exact hne (List.cons.inj ht).1.symm

/-- A pattern that does not occur up to a byte it does not have is searched for behind
that byte. -/
theorem find_append_cons {x pat : Bytes} {c : UInt8} (hpat : pat ≠ []) (hc : c ∉ pat)
    (hx : ¬ pat <:+: x) (y : Bytes) :
    find (x ++ c :: y) pat 0 = (find y pat 0).map (x.length + 1 + ·) := by
  rw [find_zero, find_zero]
  induction x with
  | nil =>
    rw [List.nil_append, findFrom, if_neg, findFrom_eq_map]
    · rfl
    · intro hpre
      obtain ⟨t, ht⟩ := List.isPrefixOf_iff_prefix.1 hpre
      cases pat with
      | nil => exact hpat rfl
      | cons d pat =>
        rw [(List.cons.inj ht).1] at hc
        exact hc List.mem_cons_self
  | cons d x ih =>
    have hrest : ¬ pat <:+: x := fun h => hx (h.trans (List.suffix_cons d x).isInfix)
    rw [List.cons_append, findFrom, if_neg, findFrom_eq_map, ih hrest, Option.map_map]
    · congr 1
      funext n
      simp only [Function.comp_apply, List.length_cons]
      omega
    · intro hpre
      obtain ⟨t, ht⟩ := List.isPrefixOf_iff_prefix.1 hpre
      rw [← List.cons_append, List.append_eq_append_iff] at ht
      rcases ht with ⟨a, ha, -⟩ | ⟨a, ha, ht⟩
      · exact hx ⟨[], a, by rw [List.nil_append, ← ha]⟩
      · cases a with
        | nil =>
          rw [List.append_nil] at ha
          exact hx ⟨[], [], by rw [ha, List.nil_append, List.append_nil]⟩
        | cons e a =>
          obtain ⟨rfl, -⟩ := List.cons.inj ht
          exact hc (by rw [ha]; simp)

theorem contains_iff_isInfix {s pat : Bytes} : contains s pat = true ↔ pat <:+: s := by
  rw [contains_iff]
  exact ⟨fun ⟨a, b, h⟩ => ⟨a, b, h.symm⟩, fun ⟨a, b, h⟩ => ⟨a, b, h.symm⟩⟩

theorem find_eq_none_iff {s pat : Bytes} : find s pat 0 = none ↔ ¬ pat <:+: s := by
  rw [← Option.not_isSome_iff_eq_none, not_iff_not, ← contains, contains_iff_isInfix]

/-- A pattern whose last byte does not stand in `y` ends before `y`. -/
theorem infix_of_append {pat x y : Bytes} {c : UInt8} (hlast : pat.getLast? = some c) (hc : c ∉ y)
    (h : pat <:+: x ++ y) : pat <:+: x := by
  obtain ⟨p, rfl⟩ := List.getLast?_eq_some_iff.1 hlast
  obtain ⟨s, t, heq⟩ := h
  rw [List.append_eq_append_iff] at heq
  rcases heq with ⟨a, rfl, -⟩ | ⟨a, hx, hy⟩
  · exact ⟨s, a, rfl⟩
  · rcases List.eq_nil_or_concat a with rfl | ⟨a, d, rfl⟩
    · exact ⟨s, [], by rw [hx, List.append_nil, List.append_nil]⟩
    · rw [List.concat_eq_append, ← List.append_assoc, ← List.append_assoc] at hx
      obtain ⟨-, hend⟩ := List.append_inj' hx rfl
      obtain rfl := List.singleton_inj.1 hend
      exact absurd (by rw [hy]; simp) hc

theorem not_infix_append {pat x y : Bytes} {c : UInt8} (hx : ¬ pat <:+: x)
    (hlast : pat.getLast? = some c) (hc : c ∉ y) : ¬ pat <:+: x ++ y :=
  fun h => hx (infix_of_append hlast hc h)

/-! ## Where a search stops -/

theorem find_self (pat y : Bytes) : find (pat ++ y) pat 0 = some 0 := by
  rw [find_zero]
  cases hs : pat ++ y with
  | nil =>
    have hpat := (List.append_eq_nil_iff.1 hs).1
    rw [hpat]
    rfl
  | cons c s =>
    rw [findFrom, if_pos]
    exact List.isPrefixOf_iff_prefix.2 ⟨y, hs⟩

/-- The first occurrence of a byte. -/
theorem find_byte {x : Bytes} {c : UInt8} (hx : c ∉ x) (y : Bytes) :
    find (x ++ c :: y) [c] 0 = some x.length := by
  rw [find_zero]
  induction x with
  | nil => exact (find_zero _ _).symm.trans (find_self [c] y)
  | cons d x ih =>
    have hne : d ≠ c := fun h => hx (h ▸ List.mem_cons_self)
    rw [List.cons_append, findFrom_cons_of_ne rfl hne, findFrom_eq_map,
      ih fun h => hx (List.mem_cons_of_mem d h), Option.map_some, List.length_cons]
    congr 1
    omega

/-- A byte that is found is the first one. -/
theorem exists_of_find_byte {s : Bytes} {c : UInt8} {pos e : Nat} (h : find s [c] pos = some e) :
    ∃ w r, s.drop pos = w ++ c :: r ∧ c ∉ w ∧ e = pos + w.length := by
  obtain ⟨hle, a, b, hdrop, -⟩ := find_eq_some h
  have hmem : c ∈ s.drop pos := by
    rw [hdrop]
    simp
  obtain ⟨w, r, hsplit, hw⟩ := List.eq_append_cons_of_mem hmem
  have hlen : (s.take pos).length = pos := List.length_take_of_le hle
  have hfind := find_append_length (s.take pos) (s.drop pos) [c]
  rw [List.take_append_drop, hlen, h, hsplit, find_byte hw] at hfind
  exact ⟨w, r, hsplit, hw, Option.some.inj hfind⟩

/-- The end of a line. -/
theorem find_end {x : Bytes} (hx : ¬ [13, 10] <:+: x) (y : Bytes) :
    find (x ++ ([13, 10] ++ y)) [13, 10] 0 = some x.length := by
  rw [find_zero]
  induction x with
  | nil => rfl
  | cons d x ih =>
    have hrest : ¬ [13, 10] <:+: x := fun h => hx (h.trans (List.suffix_cons d x).isInfix)
    have hnot : ¬ [13, 10] <+: d :: (x ++ ([13, 10] ++ y)) := by
      intro hpre
      cases x with
      | nil =>
        obtain ⟨t, ht⟩ := hpre
        cases (List.cons.inj (List.cons.inj ht).2).1
      | cons e x =>
        obtain ⟨t, ht⟩ := hpre
        obtain ⟨rfl, htail⟩ := List.cons.inj ht
        obtain ⟨rfl, -⟩ := List.cons.inj htail
        exact hx ⟨[], x, rfl⟩
    rw [List.cons_append, findFrom, if_neg fun h => hnot (List.isPrefixOf_iff_prefix.1 h),
      findFrom_eq_map, ih hrest, Option.map_some, List.length_cons]
    congr 1
    omega

theorem find_crlf {x : Bytes} (hx : 13 ∉ x) (y : Bytes) :
    find (x ++ ([13, 10] ++ y)) [13, 10] 0 = some x.length :=
  find_end (fun h => hx (h.subset (by decide))) y

/-! ## Lines -/

/-- A text that stands in one line. -/
def InLine (l : Bytes) : Prop := 13 ∉ l ∧ 10 ∉ l

instance (l : Bytes) : Decidable (InLine l) := inferInstanceAs (Decidable (_ ∧ _))

theorem InLine.append {x y : Bytes} (hx : InLine x) (hy : InLine y) : InLine (x ++ y) := by
  simp only [InLine, List.mem_append, not_or]
  exact ⟨⟨hx.1, hy.1⟩, hx.2, hy.2⟩

/-- Each line with a CRLF behind it. -/
def unlines (ls : List Bytes) : Bytes := ls.flatMap fun l => l ++ [13, 10]

@[simp] theorem unlines_nil : unlines [] = [] := rfl

theorem unlines_cons (l : Bytes) (ls : List Bytes) :
    unlines (l :: ls) = l ++ ([13, 10] ++ unlines ls) := by
  rw [unlines, List.flatMap_cons, List.append_assoc]
  rfl

theorem unlines_append (xs ys : List Bytes) : unlines (xs ++ ys) = unlines xs ++ unlines ys :=
  List.flatMap_append

theorem length_le_unlines (ls : List Bytes) : ls.length ≤ (unlines ls).length := by
  induction ls with
  | nil => exact Nat.le_refl 0
  | cons l ls ih =>
    rw [unlines_cons]
    simp only [List.length_append, List.length_cons, List.length_nil]
    omega

/-- Lines without a CRLF inside are determined by the text. -/
theorem unlines_inj {xs ys : List Bytes} (hxs : ∀ l ∈ xs, ¬ [13, 10] <:+: l)
    (hys : ∀ l ∈ ys, ¬ [13, 10] <:+: l) (h : unlines xs = unlines ys) : xs = ys := by
  induction xs generalizing ys with
  | nil =>
    cases ys with
    | nil => rfl
    | cons y ys =>
      rw [unlines_cons] at h
      simp at h
  | cons x xs ih =>
    cases ys with
    | nil =>
      rw [unlines_cons] at h
      simp at h
    | cons y ys =>
      obtain ⟨hx, hrest⟩ := List.forall_mem_cons.1 hxs
      obtain ⟨hy, hrest'⟩ := List.forall_mem_cons.1 hys
      rw [unlines_cons, unlines_cons] at h
      have hend := find_end hx (unlines xs)
      rw [h, find_end hy] at hend
      obtain ⟨heq, htail⟩ := List.append_inj h (Option.some.inj hend).symm
      rw [heq, ih hrest hrest' (List.append_cancel_left htail)]

/-- A line without the pattern, and its CRLF. -/
theorem find_line {l pat : Bytes} (hpat : pat ≠ []) (hin : InLine pat) (hl : ¬ pat <:+: l)
    (y : Bytes) :
    find (l ++ ([13, 10] ++ y)) pat 0 = (find y pat 0).map (l.length + 2 + ·) := by
  have hnil : ¬ pat <:+: [] := fun h => hpat (List.infix_nil.1 h)
  have hcr := find_append_cons hpat hin.1 hl (10 :: y)
  have hlf := find_append_cons hpat hin.2 hnil y
  rw [List.nil_append] at hlf
  rw [List.cons_append, List.cons_append, List.nil_append, hcr, hlf, Option.map_map]
  congr 1
  funext n
  simp only [Function.comp_apply, List.length_nil]
  omega

/-- A search that starts inside such a line starts behind it as well. -/
theorem find_in_line {l pat : Bytes} (hpat : pat ≠ []) (hin : InLine pat) (hl : ¬ pat <:+: l)
    {n : Nat} (hn : n ≤ l.length) (x y : Bytes) :
    find (x ++ (l ++ ([13, 10] ++ y))) pat (x.length + n) =
      (find y pat 0).map (x.length + (l.length + 2) + ·) := by
  have hcut : l = l.take n ++ l.drop n := (List.take_append_drop n l).symm
  have hlen : (l.take n).length = n := List.length_take_of_le hn
  have hdrop : ¬ pat <:+: l.drop n := fun hsub => hl (hsub.trans (List.drop_suffix n l).isInfix)
  have hbehind := find_append_length (l.take n) (l.drop n ++ ([13, 10] ++ y)) pat
  rw [← List.append_assoc, ← hcut, hlen] at hbehind
  rw [find_append_add, hbehind, find_line hpat hin hdrop, Option.map_map, Option.map_map]
  congr 1
  funext m
  simp only [Function.comp_apply, List.length_drop]
  omega

/-- A search that starts in a line, or at its end, and finds nothing in the rest of it. -/
theorem find_from_line {l pat : Bytes} (hpat : pat ≠ []) (hin : InLine pat) {n : Nat}
    (hn : n ≤ l.length + 2) (hl : ¬ pat <:+: l.drop n) (x y : Bytes) :
    find (x ++ (l ++ ([13, 10] ++ y))) pat (x.length + n) =
      (find y pat 0).map ((x ++ (l ++ [13, 10])).length + ·) := by
  have hlen : (x ++ (l ++ [13, 10])).length = x.length + (l.length + 2) := by
    simp only [List.length_append, List.length_cons, List.length_nil]
  have hnil : ¬ pat <:+: [] := fun h => hpat (List.infix_nil.1 h)
  have hcases : n ≤ l.length ∨ n = l.length + 1 ∨ n = l.length + 2 := by omega
  rw [hlen]
  rcases hcases with hle | rfl | rfl
  · have hcut : x ++ (l ++ ([13, 10] ++ y)) =
        (x ++ l.take n) ++ (l.drop n ++ ([13, 10] ++ y)) := by
      rw [List.append_assoc, ← List.append_assoc (l.take n), List.take_append_drop]
    have htake : (x ++ l.take n).length = x.length + n := by
      rw [List.length_append, List.length_take_of_le hle]
    rw [hcut, ← htake, find_append_length, find_line hpat hin hl, Option.map_map]
    congr 1
    funext m
    simp only [Function.comp_apply, List.length_append, List.length_take_of_le hle,
      List.length_drop]
    omega
  · have hcut : x ++ (l ++ ([13, 10] ++ y)) = (x ++ (l ++ [13])) ++ ([] ++ 10 :: y) := by
      simp only [List.append_assoc]
      rfl
    have hpos : x.length + (l.length + 1) = (x ++ (l ++ [13])).length := by
      simp only [List.length_append, List.length_cons, List.length_nil]
    rw [hcut, hpos, find_append_length, find_append_cons hpat hin.2 hnil, Option.map_map]
    congr 1
    funext m
    simp only [Function.comp_apply, List.length_append, List.length_cons, List.length_nil]
    omega
  · have hcut : x ++ (l ++ ([13, 10] ++ y)) = (x ++ (l ++ [13, 10])) ++ y := by
      simp only [List.append_assoc]
    rw [hcut, ← hlen, find_append_length]

theorem find_skip_line {l pat : Bytes} (hpat : pat ≠ []) (hin : InLine pat) (hl : ¬ pat <:+: l)
    (x y : Bytes) :
    find (x ++ (l ++ ([13, 10] ++ y))) pat x.length =
      find (x ++ (l ++ ([13, 10] ++ y))) pat (x.length + (l.length + 2)) := by
  have hlen : (l ++ [13, 10]).length = l.length + 2 := List.length_append
  have hline := find_in_line hpat hin hl (Nat.zero_le _) x y
  have hbehind := find_append_length (x ++ (l ++ [13, 10])) y pat
  rw [List.append_assoc, List.append_assoc, List.length_append, hlen] at hbehind
  rw [hbehind]
  exact hline

/-- So what is found stands behind the line. -/
theorem le_of_find_in_line {v pat : Bytes} (hpat : pat ≠ []) (hin : InLine pat)
    (hv : ¬ pat <:+: v) {n : Nat} (hn : n ≤ v.length) (x y : Bytes) {q : Nat}
    (h : find (x ++ (v ++ ([13, 10] ++ y))) pat (x.length + n) = some q) :
    x.length + v.length + 2 ≤ q := by
  rw [find_in_line hpat hin hv hn, Option.map_eq_some_iff] at h
  obtain ⟨r, -, hr⟩ := h
  omega

/-- Lines without the pattern. -/
theorem find_unlines {ls : List Bytes} {pat : Bytes} (hpat : pat ≠ []) (hin : InLine pat)
    (hls : ∀ l ∈ ls, ¬ pat <:+: l) (y : Bytes) :
    find (unlines ls ++ y) pat 0 = (find y pat 0).map ((unlines ls).length + ·) := by
  induction ls with
  | nil => simp
  | cons l ls ih =>
    rw [unlines_cons, List.append_assoc, List.append_assoc,
      find_line hpat hin (hls l List.mem_cons_self),
      ih fun l' hl' => hls l' (List.mem_cons_of_mem l hl'), Option.map_map]
    congr 1
    funext n
    simp only [Function.comp_apply, List.length_append, List.length_cons, List.length_nil]
    omega

/-- A pattern of one line stands in one of the lines. -/
theorem infix_unlines {ls : List Bytes} {pat : Bytes} (hpat : pat ≠ []) (hin : InLine pat) :
    pat <:+: unlines ls ↔ ∃ l ∈ ls, pat <:+: l := by
  induction ls with
  | nil => simp [hpat]
  | cons l ls ih =>
    rw [unlines_cons, List.exists_mem_cons_iff, ← ih]
    constructor
    · intro h
      rcases infix_of_append_cons hin.1 h with h | h
      · exact .inl h
      · rcases @infix_of_append_cons pat [] (unlines ls) 10 hin.2 h with h | h
        · exact absurd (List.infix_nil.1 h) hpat
        · exact .inr h
    · intro h
      rcases h with h | h
      · exact h.trans (List.prefix_append _ _).isInfix
      · exact h.trans ((List.suffix_append _ _).trans (List.suffix_append _ _)).isInfix

/-- And so does each of its occurrences. -/
theorem exists_line_of_eq {ls : List Bytes} {pat a b : Bytes} (hpat : pat ≠ []) (hin : InLine pat)
    (h : unlines ls = a ++ (pat ++ b)) :
    ∃ l ∈ ls, ∃ a' b' rest, l = a' ++ (pat ++ b') ∧ b = b' ++ ([13, 10] ++ rest) := by
  induction ls generalizing a with
  | nil => simp [hpat] at h
  | cons l ls ih =>
    obtain ⟨p, pat, rfl⟩ := List.exists_cons_of_ne_nil hpat
    have hp : p ≠ 13 ∧ p ≠ 10 :=
      ⟨fun heq => hin.1 (heq ▸ List.mem_cons_self), fun heq => hin.2 (heq ▸ List.mem_cons_self)⟩
    rw [unlines_cons, List.append_eq_append_iff] at h
    rcases h with ⟨c, rfl, hc⟩ | ⟨c, rfl, hc⟩
    · -- the pattern starts behind the line
      match c, hc with
      | [], hc => exact absurd (List.cons.inj hc).1.symm hp.1
      | [d], hc => exact absurd (List.cons.inj (List.cons.inj hc).2).1.symm hp.2
      | d :: e :: c, hc =>
        obtain ⟨l', hl', hex⟩ := ih (List.cons.inj (List.cons.inj hc).2).2
        exact ⟨l', List.mem_cons_of_mem l hl', hex⟩
    · -- it starts in the line and cannot leave it
      rw [List.append_eq_append_iff] at hc
      rcases hc with ⟨d, rfl, hd⟩ | ⟨d, hd, hb⟩
      · exact ⟨_, List.mem_cons_self, a, d, unlines ls, rfl, hd⟩
      · cases d with
        | nil =>
          rw [List.append_nil] at hd
          exact ⟨_, List.mem_cons_self, a, [], unlines ls, by rw [List.append_nil, hd], hb.symm⟩
        | cons e d =>
          obtain rfl := (List.cons.inj hb).1
          exact absurd (by rw [hd]; simp) hin.1

theorem contains_unlines {ls : List Bytes} {pat : Bytes} (hpat : pat ≠ []) (hin : InLine pat) :
    contains (unlines ls) pat = true ↔ ∃ l ∈ ls, pat <:+: l := by
  rw [contains_iff_isInfix, infix_unlines hpat hin]

/-- The first label that starts a line. -/
theorem find_label {label : Bytes} (hlabel : label ≠ []) (hin : InLine label) {pre : List Bytes}
    (hpre : ∀ l ∈ pre, ¬ label <:+: l) (value : Bytes) (post : List Bytes) :
    find (unlines (pre ++ (label ++ value) :: post)) label 0 = some (unlines pre).length := by
  rw [unlines_append, unlines_cons, List.append_assoc, find_unlines hlabel hin hpre, find_self]
  rfl

/-- The text behind the label. -/
theorem unlines_label (pre : List Bytes) (label value : Bytes) (post : List Bytes) :
    unlines (pre ++ (label ++ value) :: post) =
      (unlines pre ++ label) ++ (value ++ ([13, 10] ++ unlines post)) := by
  rw [unlines_append, unlines_cons]
  simp only [List.append_assoc]

/-! ## Parts of a text -/

/-- What stands between a position and the CRLF behind it, replaced. -/
theorem replace_line {s : Bytes} {pos e : Nat} (h : find s [13, 10] pos = some e) (value : Bytes) :
    ∃ x old y, s = x ++ (old ++ ([13, 10] ++ y)) ∧ x.length = pos ∧ e = pos + old.length ∧
      replace s pos (e - pos) value = x ++ (value ++ ([13, 10] ++ y)) := by
  obtain ⟨hle, old, y, hdrop, he⟩ := find_eq_some h
  have hx : (s.take pos).length = pos := List.length_take_of_le hle
  refine ⟨s.take pos, old, y, ?_, hx, he.symm, ?_⟩
  · rw [← List.append_assoc old, ← hdrop, List.take_append_drop]
  · have hbehind : s.drop e = [13, 10] ++ y := by
      rw [← he, ← List.drop_drop, hdrop, List.append_assoc, List.drop_left]
    rw [replace, Nat.add_sub_cancel' (by omega), hbehind, List.append_assoc]

theorem replace_append_length (x old y value : Bytes) :
    replace (x ++ (old ++ y)) x.length old.length value = x ++ (value ++ y) := by
  rw [replace, List.take_left, ← List.drop_drop, List.drop_left, List.drop_left,
    List.append_assoc]

theorem substr_append_length (x t y : Bytes) : substr (x ++ (t ++ y)) x.length t.length = t := by
  rw [substr, List.drop_left, List.take_left]

end MediaGateway.Lib.Bytes
