import MediaGateway.Lib.Decimal

/-!
# Lines of a text

A line starts at the beginning of a text and behind each newline.  `heads` counts
the lines that start with a pattern, and `Crlf` says that each newline ends a CRLF.

The rules say what does not change the count: text without a newline inside a line
that is long enough already (`headsFrom_slot`), and what `replace` writes between a
label and the CRLF behind it (`heads_replace`).
-/

namespace MediaGateway.Lib.Lines

open Bytes

/-! ## Counting lines -/

/-- How many lines start with the pattern, the text standing at the start of a line
or not. -/
def headsFrom (pat : Bytes) : Bool → Bytes → Nat
  | _, [] => 0
  | start, c :: rest =>
    (if start && pat.isPrefixOf (c :: rest) then 1 else 0) + headsFrom pat (c == 10) rest

/-- How many lines of the text start with the pattern. -/
def heads (pat s : Bytes) : Nat := headsFrom pat true s

/-- The text ends in a line that has at least `n` bytes. -/
def endsInLine (n : Nat) (s : Bytes) : Bool :=
  decide (n ≤ (s.reverse.takeWhile (· != 10)).length)

/-- Text without a newline, inside a line. -/
theorem headsFrom_of_free {pat x : Bytes} (hx : 10 ∉ x) (y : Bytes) :
    headsFrom pat false (x ++ y) = headsFrom pat false y := by
  induction x with
  | nil => rfl
  | cons c x ih =>
    have hc : (c == 10) = false := beq_false_of_ne fun h => hx (h ▸ List.mem_cons_self)
    rw [List.cons_append, headsFrom, hc, ih fun h => hx (List.mem_cons_of_mem c h)]
    simp

/-- Whether a short pattern starts a text depends on its beginning. -/
theorem isPrefixOf_append {pat x : Bytes} (h : pat.length ≤ x.length) (y : Bytes) :
    pat.isPrefixOf (x ++ y) = pat.isPrefixOf x := by
  rw [Bool.eq_iff_iff, List.isPrefixOf_iff_prefix, List.isPrefixOf_iff_prefix]
  exact ⟨fun hpre => List.prefix_of_prefix_length_le hpre (List.prefix_append x y) h,
    fun hpre => hpre.trans (List.prefix_append x y)⟩

theorem headsFrom_append {pat line : Bytes} (hline : 10 ∉ line) (hne : line ≠ [])
    (hlen : pat.length ≤ line.length) (start : Bool) (before behind : Bytes) :
    headsFrom pat start (before ++ line ++ behind) =
      headsFrom pat start (before ++ line) + headsFrom pat false behind := by
  induction before generalizing start with
  | nil =>
    cases line with
    | nil => exact absurd rfl hne
    | cons c line =>
      have hc : (c == 10) = false := beq_false_of_ne fun h => hline (h ▸ List.mem_cons_self)
      have hfree : 10 ∉ line := fun h => hline (List.mem_cons_of_mem c h)
      have hnone : headsFrom pat false line = 0 := by
        rw [← List.append_nil line, headsFrom_of_free hfree]
        rfl
      simp only [List.nil_append, List.cons_append, headsFrom, hc]
      rw [← List.cons_append, isPrefixOf_append hlen, headsFrom_of_free hfree, hnone]
      rfl
  | cons c before ih =>
    have hle : pat.length ≤ (c :: (before ++ line)).length := by
      rw [List.length_cons, List.length_append]
      omega
    rw [List.cons_append, List.cons_append, headsFrom, headsFrom, ih (c == 10),
      ← List.cons_append, isPrefixOf_append hle, Nat.add_assoc]

/-- A text that ends in a line, as what is before and the line. -/
theorem exists_line {n : Nat} {s : Bytes} (h : endsInLine n s = true) :
    ∃ before line, s = before ++ line ∧ 10 ∉ line ∧ n ≤ line.length := by
  have hsplit := List.takeWhile_append_dropWhile (p := (· != 10)) (l := s.reverse)
  refine ⟨(s.reverse.dropWhile (· != 10)).reverse, (s.reverse.takeWhile (· != 10)).reverse,
    ?_, ?_, ?_⟩
  · rw [← List.reverse_append, hsplit, List.reverse_reverse]
  · intro hmem
    have hne := List.all_eq_true.1 List.all_takeWhile 10 (List.mem_reverse.1 hmem)
    exact absurd hne (by decide)
  · rw [List.length_reverse]
    exact of_decide_eq_true h

/-- A place inside a line: what stands there does not matter, as long as it is no
newline. -/
theorem headsFrom_slot {pat s x : Bytes} (hpat : pat ≠ []) (hs : endsInLine pat.length s = true)
    (hx : 10 ∉ x) (start : Bool) (behind : Bytes) :
    headsFrom pat start (s ++ (x ++ behind)) =
      headsFrom pat start s + headsFrom pat false behind := by
  obtain ⟨before, line, rfl, hline, hlen⟩ := exists_line hs
  have hpos := List.length_pos_iff.2 hpat
  have hne : line ≠ [] := List.length_pos_iff.1 (by omega)
  rw [headsFrom_append hline hne hlen, headsFrom_of_free hx]

/-! ## CRLF -/

/-- Each newline follows a carriage return, `cr` being whether one stands before the
text. -/
def crlfFrom : Bool → Bytes → Bool
  | _, [] => true
  | cr, c :: rest => (c != 10 || cr) && crlfFrom (c == 13) rest

/-- Each newline of the text ends a CRLF. -/
def Crlf (s : Bytes) : Prop := crlfFrom false s = true

instance (s : Bytes) : Decidable (Crlf s) := inferInstanceAs (Decidable (_ = true))

/-- Whether a carriage return stands at the end, `cr` being whether one stands
before the text. -/
def endsCr : Bool → Bytes → Bool
  | cr, [] => cr
  | _, c :: rest => endsCr (c == 13) rest

theorem crlfFrom_append (cr : Bool) (xs ys : Bytes) :
    crlfFrom cr (xs ++ ys) = (crlfFrom cr xs && crlfFrom (endsCr cr xs) ys) := by
  induction xs generalizing cr with
  | nil => rfl
  | cons c xs ih => rw [List.cons_append, crlfFrom, crlfFrom, endsCr, ih, Bool.and_assoc]

theorem crlfFrom_of_free {x : Bytes} (hx : 10 ∉ x) (cr : Bool) : crlfFrom cr x = true := by
  induction x generalizing cr with
  | nil => rfl
  | cons c x ih =>
    have hc : (c != 10) = true := bne_iff_ne.2 fun h => hx (h ▸ List.mem_cons_self)
    rw [crlfFrom, hc, ih fun h => hx (List.mem_cons_of_mem c h)]
    rfl

theorem crlfFrom_true_of_false {x : Bytes} (h : crlfFrom false x = true) (cr : Bool) :
    crlfFrom cr x = true := by
  cases x with
  | nil => rfl
  | cons c x =>
    simp only [crlfFrom, Bool.or_false, Bool.and_eq_true] at h
    rw [crlfFrom, h.1, h.2]
    rfl

theorem Crlf.append {xs ys : Bytes} (hxs : Crlf xs) (hys : Crlf ys) : Crlf (xs ++ ys) := by
  have hxs' : crlfFrom false xs = true := hxs
  rw [Crlf, crlfFrom_append, hxs', crlfFrom_true_of_false hys]
  rfl

theorem crlf_of_free {x : Bytes} (hx : 10 ∉ x) : Crlf x := crlfFrom_of_free hx false

theorem endsCr_append {xs line : Bytes} (hne : line ≠ []) (cr : Bool) :
    endsCr cr (xs ++ line) = endsCr false line := by
  induction xs generalizing cr with
  | nil =>
    cases line with
    | nil => exact absurd rfl hne
    | cons c line => rfl
  | cons c xs ih => exact ih (c == 13)

/-- A newline that follows no carriage return at the start ends a CRLF inside. -/
theorem exists_crlf {x : Bytes} (h : Crlf x) (hmem : 10 ∈ x) :
    ∃ a b, x = a ++ [13, 10] ++ b := by
  have hgen : ∀ (x : Bytes) (cr : Bool), crlfFrom cr x = true → 10 ∈ x →
      (cr = true ∧ x.head? = some 10) ∨ ∃ a b, x = a ++ [13, 10] ++ b := by
    intro x
    induction x with
    | nil =>
      intro _ _ hmem
      cases hmem
    | cons c x ih =>
      intro cr h hmem
      simp only [crlfFrom, Bool.and_eq_true, Bool.or_eq_true, bne_iff_ne] at h
      by_cases hc : c = 10
      · subst hc
        exact .inl ⟨h.1.resolve_left fun hne => hne rfl, rfl⟩
      · have hrest : 10 ∈ x := by
          rcases List.mem_cons.1 hmem with heq | hrest
          · exact absurd heq.symm hc
          · exact hrest
        right
        rcases ih _ h.2 hrest with ⟨hcr, hhead⟩ | ⟨a, b, rfl⟩
        · cases x with
          | nil => cases hrest
          | cons d x =>
            obtain rfl := Option.some.inj hhead
            rw [beq_iff_eq] at hcr
            exact ⟨[], x, by rw [hcr]; rfl⟩
        · exact ⟨c :: a, b, rfl⟩
  rcases hgen x false h hmem with ⟨hfalse, -⟩ | hfound
  · cases hfalse
  · exact hfound

/-! ## Replacing a value -/

/-- What a search finds in a string. -/
theorem exists_found {s pat : Bytes} {pos p : Nat} (h : find s pat pos = some p) :
    ∃ before behind, s = before ++ pat ++ behind ∧ before.length = p := by
  obtain ⟨hle, a, b, hdrop, hp⟩ := find_eq_some h
  refine ⟨s.take pos ++ a, b, ?_, ?_⟩
  · rw [List.append_assoc, List.append_assoc, ← List.append_assoc a, ← hdrop,
      List.take_append_drop]
  · rw [List.length_append, List.length_take, Nat.min_eq_left hle, hp]

/-- What stands between a label and the first CRLF behind it. -/
theorem exists_value {s label : Bytes} {pos p e : Nat} (hs : Crlf s) (hne : label ≠ [])
    (hcr : endsCr false label = false) (hp : find s label pos = some p)
    (he : find s [13, 10] (p + label.length) = some e) :
    ∃ before value behind, s = before ++ label ++ (value ++ ([13, 10] ++ behind)) ∧
      10 ∉ value ∧ before.length = p ∧ p + label.length + value.length = e := by
  obtain ⟨before, rest, rfl, rfl⟩ := exists_found hp
  have hle : before.length + label.length ≤ (before ++ label ++ rest).length := by
    rw [List.length_append, List.length_append]
    omega
  have hdrop : (before ++ label ++ rest).drop (before.length + label.length) = rest := by
    rw [← List.length_append, List.drop_left]
  rw [find, if_pos hle, hdrop] at he
  obtain ⟨value, behind, rfl, hlength⟩ := findFrom_eq_some he
  refine ⟨before, value, behind, by rw [List.append_assoc value], ?_, rfl, hlength⟩
  intro hmem
  have hvalue : Crlf value := by
    have hs' : crlfFrom false (before ++ label ++ (value ++ [13, 10] ++ behind)) = true := hs
    rw [crlfFrom_append, Bool.and_eq_true, endsCr_append hne, hcr] at hs'
    have hrest := hs'.2
    rw [List.append_assoc, crlfFrom_append, Bool.and_eq_true] at hrest
    exact hrest.1
  obtain ⟨a, b, rfl⟩ := exists_crlf hvalue hmem
  obtain ⟨j, hj, hfirst⟩ := @findFrom_isSome [13, 10] (b ++ [13, 10] ++ behind) a
    (before.length + label.length)
  have heq : a ++ [13, 10] ++ b ++ [13, 10] ++ behind =
      a ++ [13, 10] ++ (b ++ [13, 10] ++ behind) := by
    simp only [List.append_assoc]
  rw [heq, hj] at he
  have hjump := Option.some.inj he
  rw [List.length_append, List.length_append, List.length_cons] at hlength
  omega

/-- Replacing the value changes neither the count nor the line ends. -/
theorem heads_replace {pat s label value : Bytes} {pos p e : Nat} (hs : Crlf s)
    (hpat : pat ≠ []) (hlabel : 10 ∉ label) (hlen : pat.length ≤ label.length)
    (hcr : endsCr false label = false) (hvalue : 10 ∉ value)
    (hp : find s label pos = some p) (he : find s [13, 10] (p + label.length) = some e) :
    Crlf (replace s (p + label.length) (e - (p + label.length)) value) ∧
      heads pat (replace s (p + label.length) (e - (p + label.length)) value) = heads pat s := by
  have hpos := List.length_pos_iff.2 hpat
  have hne : label ≠ [] := List.length_pos_iff.1 (by omega)
  obtain ⟨before, old, behind, rfl, hold, rfl, hend⟩ := exists_value hs hne hcr hp he
  have hreplace : replace (before ++ label ++ (old ++ ([13, 10] ++ behind)))
      (before.length + label.length) (e - (before.length + label.length)) value =
        before ++ label ++ (value ++ ([13, 10] ++ behind)) := by
    rw [← hend, Nat.add_sub_cancel_left, replace, ← List.length_append, List.take_left,
      ← List.length_append, ← List.append_assoc (before ++ label) old, List.drop_left,
      List.append_assoc]
  rw [hreplace]
  constructor
  · have hs' : crlfFrom false (before ++ label ++ (old ++ ([13, 10] ++ behind))) = true := hs
    rw [crlfFrom_append, Bool.and_eq_true, crlfFrom_append _ old, Bool.and_eq_true] at hs'
    rw [Crlf, crlfFrom_append, hs'.1, crlfFrom_append, crlfFrom_of_free hvalue]
    exact hs'.2.2
  · rw [heads, heads, headsFrom_append hlabel hne hlen, headsFrom_append hlabel hne hlen,
      headsFrom_of_free hvalue, headsFrom_of_free hold]

/-- A number is written without a newline. -/
theorem newline_notMem_ofInt (n : Int) : 10 ∉ ofInt n := notMem_ofInt (by decide) (by decide) n

end MediaGateway.Lib.Lines
