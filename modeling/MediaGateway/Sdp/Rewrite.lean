import MediaGateway.Lib.Search
import MediaGateway.WebAgent
import Mathlib.Algebra.BigOperators.Group.List.Basic

/-!
# The rewriting loops on lines

`replaceCrypto` and `replaceUfragPwd` search the text they rewrite.  On a text of
lines one round of a loop replaces the value of one line
(`replaceCryptoLoop_line`, `replaceParam_line`), and the text behind the line is as
it was.

`replaceCryptoLoop` goes on from where the old value ended (`replaceCrypto_rekey`).
That is still inside the rewritten line when the new value is no shorter
(`replaceCrypto_lines`).
-/

namespace MediaGateway.WebAgent

open Lib Bytes

variable {crypto ufrag pwd : Bytes}

/-! ## One line -/

/-- The value of a line and its end. -/
theorem find_paramEnd {value : Bytes} (hvalue : ¬ [13, 10] <:+: value) (x label y : Bytes) :
    find (x ++ ((label ++ value) ++ ([13, 10] ++ y))) PARAM_END (x.length + label.length) =
      some (x.length + label.length + value.length) := by
  have htext : x ++ ((label ++ value) ++ ([13, 10] ++ y)) =
      (x ++ label) ++ (value ++ ([13, 10] ++ y)) := by
    simp only [List.append_assoc]
  rw [htext, ← List.length_append, find_append_length, show PARAM_END = [13, 10] from rfl,
    find_end hvalue]
  rfl

theorem replace_value (x label old y value : Bytes) :
    replace (x ++ ((label ++ old) ++ ([13, 10] ++ y))) (x.length + label.length) old.length value =
      x ++ ((label ++ value) ++ ([13, 10] ++ y)) := by
  have hreplace := replace_append_length (x ++ label) old ([13, 10] ++ y) value
  simp only [List.length_append, List.append_assoc] at hreplace ⊢
  exact hreplace

theorem replaceCryptoLoop_line {old : Bytes} (hold : ¬ [13, 10] <:+: old) (x y : Bytes)
    (fuel : Nat) :
    replaceCryptoLoop crypto (fuel + 1) (some x.length)
        (x ++ ((CRYPTO_80 ++ old) ++ ([13, 10] ++ y))) =
      replaceCryptoLoop crypto fuel
        (find (x ++ ((CRYPTO_80 ++ crypto) ++ ([13, 10] ++ y))) CRYPTO_80
          (x.length + CRYPTO_80.length + old.length))
        (x ++ ((CRYPTO_80 ++ crypto) ++ ([13, 10] ++ y))) := by
  rw [replaceCryptoLoop]
  simp only [find_paramEnd hold, Nat.add_sub_cancel_left, replace_value]

theorem replaceParam_line {old : Bytes} (hold : 13 ∉ old) (label value x y : Bytes) :
    replaceParam label value (some x.length) (x ++ ((label ++ old) ++ ([13, 10] ++ y))) =
      (some (x.length + label.length), x ++ ((label ++ value) ++ ([13, 10] ++ y))) := by
  have hend : ¬ [13, 10] <:+: old := fun h => hold (h.subset (by decide))
  rw [replaceParam]
  simp only [find_paramEnd hend, Nat.add_sub_cancel_left, replace_value]

/-- Behind a label the search leaves the value, if that does not contain the pattern. -/
theorem find_behind_label {pat value : Bytes} (hpat : pat ≠ []) (hin : InLine pat)
    (hvalue : ¬ pat <:+: value) {n : Nat} (hn : n ≤ value.length) (x label y : Bytes) :
    find (x ++ ((label ++ value) ++ ([13, 10] ++ y))) pat (x.length + label.length + n) =
      (find y pat 0).map ((x ++ ((label ++ value) ++ [13, 10])).length + ·) := by
  have htext : x ++ ((label ++ value) ++ ([13, 10] ++ y)) =
      (x ++ label) ++ (value ++ ([13, 10] ++ y)) := by
    simp only [List.append_assoc]
  rw [htext, ← List.length_append, find_in_line hpat hin hvalue hn]
  congr 1
  funext m
  simp only [List.length_append, List.length_cons, List.length_nil]
  omega

/-! ## The crypto lines -/

/-- A line with its key replaced. -/
def setKey (crypto line : Bytes) : Bytes :=
  if CRYPTO_80 <+: line then CRYPTO_80 ++ crypto else line

/-- A line that starts in another way is left alone. -/
theorem setKey_append {x : Bytes} (hx : ¬ x <+: CRYPTO_80) (hmarker : ¬ CRYPTO_80 <+: x)
    (y : Bytes) : setKey crypto (x ++ y) = x ++ y := by
  rw [setKey, if_neg]
  intro h
  rcases List.prefix_or_prefix_of_prefix (List.prefix_append x y) h with hpre | hpre
  · exact hx hpre
  · exact hmarker hpre

/-- The lines that the loop leaves when its search starts `n` bytes behind their
beginning.  It goes on where the old value of a line ended, so a value that is longer
than the new one hides as many bytes of the next lines. -/
def rekey (crypto : Bytes) : Nat → List Bytes → List Bytes
  | _, [] => []
  | n, l :: ls =>
    if CRYPTO_80 <+: l ∧ n = 0 then
      (CRYPTO_80 ++ crypto) ::
        rekey crypto (l.length - ((CRYPTO_80 ++ crypto).length + 2)) ls
    else
      l :: rekey crypto (n - (l.length + 2)) ls

/-- The marker stands at the start of a line or not at all. -/
theorem not_infix_of_tail {l : Bytes} (htail : ¬ CRYPTO_80 <:+: l.tail) (h : ¬ CRYPTO_80 <+: l) :
    ¬ CRYPTO_80 <:+: l := by
  intro hin
  cases l with
  | nil => exact absurd (List.infix_nil.1 hin) (by decide)
  | cons c l =>
    rcases List.infix_cons_iff.1 hin with hpre | hrest
    · exact h hpre
    · exact htail hrest

/-- One round: the line gets the new key, and the search goes on behind it. -/
theorem replaceCryptoLoop_round (hcrypto : ¬ CRYPTO_80 <:+: crypto) {old : Bytes}
    (hold : ¬ [13, 10] <:+: old) (x : Bytes) (ls : List Bytes) (fuel : Nat) :
    replaceCryptoLoop crypto (fuel + 1) (some x.length)
        (x ++ ((CRYPTO_80 ++ old) ++ ([13, 10] ++ unlines ls))) =
      replaceCryptoLoop crypto fuel
        (find ((x ++ (CRYPTO_80 ++ crypto ++ [13, 10])) ++ unlines ls) CRYPTO_80
          ((x ++ (CRYPTO_80 ++ crypto ++ [13, 10])).length +
            (old.length - (crypto.length + 2))))
        ((x ++ (CRYPTO_80 ++ crypto ++ [13, 10])) ++ unlines ls) := by
  have hmarker : CRYPTO_80 ≠ [] := by decide
  have hin : InLine CRYPTO_80 := by decide
  have htext : x ++ ((CRYPTO_80 ++ crypto) ++ ([13, 10] ++ unlines ls)) =
      (x ++ (CRYPTO_80 ++ crypto ++ [13, 10])) ++ unlines ls := by
    simp only [List.append_assoc]
  have hlen : (x ++ (CRYPTO_80 ++ crypto ++ [13, 10])).length =
      x.length + CRYPTO_80.length + (crypto.length + 2) := by
    simp only [List.length_append, List.length_cons, List.length_nil]
    omega
  rw [replaceCryptoLoop_line hold]
  by_cases hle : old.length ≤ crypto.length + 2
  · -- the old value ends in the line or at its end
    have hdrop : ¬ CRYPTO_80 <:+: crypto.drop old.length := fun h =>
      hcrypto (h.trans (List.drop_suffix _ _).isInfix)
    have hcut : x ++ ((CRYPTO_80 ++ crypto) ++ ([13, 10] ++ unlines ls)) =
        (x ++ CRYPTO_80) ++ (crypto ++ ([13, 10] ++ unlines ls)) := by
      simp only [List.append_assoc]
    have hfind := find_from_line hmarker hin hle hdrop (x ++ CRYPTO_80) (unlines ls)
    rw [← hcut, List.length_append, List.append_assoc x, ← List.append_assoc CRYPTO_80] at hfind
    rw [hfind, Nat.sub_eq_zero_of_le hle, Nat.add_zero, find_append_length, htext]
  · have hpos : x.length + CRYPTO_80.length + old.length =
        (x ++ (CRYPTO_80 ++ crypto ++ [13, 10])).length + (old.length - (crypto.length + 2)) := by
      omega
    rw [hpos, htext]

/-- A search that starts `n` bytes behind the beginning of a line goes on behind the line, if
it does not stand at a marker. -/
theorem find_past_line {l : Bytes} (htail : ¬ CRYPTO_80 <:+: l.tail) {n : Nat}
    (hkey : ¬ (CRYPTO_80 <+: l ∧ n = 0)) (x y : Bytes) :
    find (x ++ (l ++ ([13, 10] ++ y))) CRYPTO_80 (x.length + n) =
      find ((x ++ (l ++ [13, 10])) ++ y) CRYPTO_80
        ((x ++ (l ++ [13, 10])).length + (n - (l.length + 2))) := by
  by_cases hn : n ≤ l.length + 2
  · -- the marker does not stand behind the start of the search
    have hdrop : ¬ CRYPTO_80 <:+: l.drop n := by
      cases n with
      | zero => exact not_infix_of_tail htail fun h => hkey ⟨h, rfl⟩
      | succ n =>
        intro h
        rw [← List.drop_tail] at h
        exact htail (h.trans (List.drop_suffix _ _).isInfix)
    rw [find_from_line (by decide) (by decide) hn hdrop, Nat.sub_eq_zero_of_le hn, Nat.add_zero,
      find_append_length]
  · have htext : x ++ (l ++ ([13, 10] ++ y)) = (x ++ (l ++ [13, 10])) ++ y := by
      simp only [List.append_assoc]
    have hlen : (x ++ (l ++ [13, 10])).length = x.length + (l.length + 2) := by
      simp only [List.length_append, List.length_cons, List.length_nil]
    rw [htext, hlen]
    congr 1
    omega

/-- The loop on a text of lines. -/
theorem replaceCryptoLoop_lines (hcrypto : ¬ CRYPTO_80 <:+: crypto) {ls : List Bytes}
    (hend : ∀ l ∈ ls, CRYPTO_80 <+: l → ¬ [13, 10] <:+: l)
    (htail : ∀ l ∈ ls, ¬ CRYPTO_80 <:+: l.tail) (x : Bytes) (n : Nat) {fuel : Nat}
    (hfuel : ls.length < fuel) :
    replaceCryptoLoop crypto fuel (find (x ++ unlines ls) CRYPTO_80 (x.length + n))
        (x ++ unlines ls) =
      x ++ unlines (rekey crypto n ls) := by
  induction ls generalizing x n fuel with
  | nil =>
    obtain ⟨fuel, rfl⟩ : ∃ f, fuel = f + 1 := ⟨fuel - 1, by omega⟩
    have hnone : find ([] : Bytes) CRYPTO_80 n = none := by
      cases n <;> rfl
    rw [unlines_nil, find_append_add, hnone]
    rfl
  | cons l ls ih =>
    rw [List.length_cons] at hfuel
    obtain ⟨fuel, rfl⟩ : ∃ f, fuel = f + 1 := ⟨fuel - 1, by omega⟩
    obtain ⟨hline, hend⟩ := List.forall_mem_cons.1 hend
    obtain ⟨hl, htail⟩ := List.forall_mem_cons.1 htail
    have hrest := fun x n {fuel} (hlt : ls.length < fuel) => ih hend htail x n hlt
    rw [unlines_cons]
    by_cases hkey : CRYPTO_80 <+: l ∧ n = 0
    · obtain ⟨⟨old, rfl⟩, rfl⟩ := hkey
      have hfind : find (x ++ (CRYPTO_80 ++ old ++ ([13, 10] ++ unlines ls))) CRYPTO_80
          (x.length + 0) = some x.length := by
        rw [Nat.add_zero, find_append_length, List.append_assoc, find_self]
        rfl
      have hold : ¬ [13, 10] <:+: old := fun h =>
        hline (List.prefix_append _ _) (h.trans (List.suffix_append _ _).isInfix)
      have hover : (CRYPTO_80 ++ old).length - ((CRYPTO_80 ++ crypto).length + 2) =
          old.length - (crypto.length + 2) := by
        simp only [List.length_append]
        omega
      rw [hfind, replaceCryptoLoop_round hcrypto hold, hrest _ _ (by omega), rekey,
        if_pos ⟨List.prefix_append _ _, rfl⟩, unlines_cons, hover]
      simp only [List.append_assoc]
    · have htext : x ++ (l ++ ([13, 10] ++ unlines ls)) =
          (x ++ (l ++ [13, 10])) ++ unlines ls := by
        simp only [List.append_assoc]
      rw [find_past_line hl hkey, htext, hrest _ _ (by omega), rekey, if_neg hkey, unlines_cons]
      simp only [List.append_assoc]

theorem replaceCrypto_rekey (hcrypto : ¬ CRYPTO_80 <:+: crypto) {ls : List Bytes}
    (hend : ∀ l ∈ ls, CRYPTO_80 <+: l → ¬ [13, 10] <:+: l)
    (htail : ∀ l ∈ ls, ¬ CRYPTO_80 <:+: l.tail) :
    replaceCrypto (unlines ls) crypto = unlines (rekey crypto 0 ls) :=
  replaceCryptoLoop_lines hcrypto hend htail [] 0 (Nat.lt_succ_of_le (length_le_unlines ls))

/-- A line that has no key, or has one that is no longer than the new key. -/
def Rewritable (crypto line : Bytes) : Prop :=
  CRYPTO_80 <:+: line →
    ∃ old, line = CRYPTO_80 ++ old ∧ 13 ∉ old ∧ old.length ≤ crypto.length

theorem rekey_of_rewritable {ls : List Bytes} (hls : ∀ l ∈ ls, Rewritable crypto l) :
    rekey crypto 0 ls = ls.map (setKey crypto) := by
  induction ls with
  | nil => rfl
  | cons l ls ih =>
    obtain ⟨hl, hrest⟩ := List.forall_mem_cons.1 hls
    rw [rekey, List.map_cons, setKey]
    by_cases hkey : CRYPTO_80 <+: l
    · obtain ⟨old, rfl, -, hle⟩ := hl hkey.isInfix
      have hover : (CRYPTO_80 ++ old).length - ((CRYPTO_80 ++ crypto).length + 2) = 0 := by
        simp only [List.length_append]
        omega
      rw [if_pos ⟨hkey, rfl⟩, if_pos hkey, hover, ih hrest]
    · rw [if_neg fun h => hkey h.1, if_neg hkey, Nat.zero_sub, ih hrest]

theorem replaceCrypto_lines (hcrypto : ¬ CRYPTO_80 <:+: crypto) {ls : List Bytes}
    (hls : ∀ l ∈ ls, Rewritable crypto l) (htail : ∀ l ∈ ls, ¬ CRYPTO_80 <:+: l.tail) :
    replaceCrypto (unlines ls) crypto = unlines (ls.map (setKey crypto)) := by
  have hend : ∀ l ∈ ls, CRYPTO_80 <+: l → ¬ [13, 10] <:+: l := by
    intro l hl hkey
    obtain ⟨old, rfl, hold, -⟩ := hls l hl hkey.isInfix
    intro hcrlf
    have hmem : 13 ∈ CRYPTO_80 ++ old := hcrlf.subset (by decide)
    rcases List.mem_append.1 hmem with h | h
    · exact absurd h (by decide)
    · exact hold h
  rw [replaceCrypto_rekey hcrypto hend htail, rekey_of_rewritable hls]

/-! ## The credentials -/

/-- Lines that end with a ufrag line and a pwd line. -/
structure Block where
  above : List Bytes
  ufrag : Bytes
  pwd : Bytes

namespace Block

def lines (b : Block) : List Bytes := b.above ++ [ICE_UFRAG ++ b.ufrag, ICE_PWD ++ b.pwd]

/-- The block with other credentials. -/
def set (ufrag pwd : Bytes) (b : Block) : Block := ⟨b.above, ufrag, pwd⟩

/-- The two lines are the first ones with the labels. -/
structure WellFormed (b : Block) : Prop where
  above : ∀ l ∈ b.above, ¬ ICE_UFRAG <:+: l
  ufrag : 13 ∉ b.ufrag
  pwd : 13 ∉ b.pwd

end Block

/-- One round: the first block. -/
theorem replaceUfragPwdLoop_block (hufrag : ¬ ICE_PWD <:+: ufrag) (hpwd : ¬ ICE_UFRAG <:+: pwd)
    {b : Block} (hb : b.WellFormed) (x : Bytes) (rest : List Bytes) (fuel : Nat) :
    replaceUfragPwdLoop ufrag pwd (fuel + 1)
        (find (x ++ unlines (b.lines ++ rest)) ICE_UFRAG x.length)
        (x ++ unlines (b.lines ++ rest)) =
      replaceUfragPwdLoop ufrag pwd fuel
        (find ((x ++ unlines (b.set ufrag pwd).lines) ++ unlines rest) ICE_UFRAG
          (x ++ unlines (b.set ufrag pwd).lines).length)
        ((x ++ unlines (b.set ufrag pwd).lines) ++ unlines rest) := by
  obtain ⟨pre, oldUfrag, oldPwd⟩ := b
  obtain ⟨hpre, holdUfrag, holdPwd⟩ := hb
  have hlines : (Block.mk pre oldUfrag oldPwd).lines ++ rest =
      pre ++ (ICE_UFRAG ++ oldUfrag) :: (ICE_PWD ++ oldPwd) :: rest := by
    rw [Block.lines, List.append_assoc]
    rfl
  show replaceUfragPwdLoop ufrag pwd (fuel + 1)
      (find (x ++ unlines ((Block.mk pre oldUfrag oldPwd).lines ++ rest)) ICE_UFRAG x.length)
      (x ++ unlines ((Block.mk pre oldUfrag oldPwd).lines ++ rest)) =
    replaceUfragPwdLoop ufrag pwd fuel
      (find ((x ++ unlines (pre ++ [ICE_UFRAG ++ ufrag, ICE_PWD ++ pwd])) ++ unlines rest)
        ICE_UFRAG (x ++ unlines (pre ++ [ICE_UFRAG ++ ufrag, ICE_PWD ++ pwd])).length)
      ((x ++ unlines (pre ++ [ICE_UFRAG ++ ufrag, ICE_PWD ++ pwd])) ++ unlines rest)
  rw [hlines]
  -- the text in front of the ufrag line, and in front of the pwd line
  let above := x ++ unlines pre
  let above' := above ++ (ICE_UFRAG ++ ufrag ++ [13, 10])
  have htext : x ++ unlines (pre ++ (ICE_UFRAG ++ oldUfrag) :: (ICE_PWD ++ oldPwd) :: rest) =
      above ++ ((ICE_UFRAG ++ oldUfrag) ++ ([13, 10] ++ (ICE_PWD ++ oldPwd ++
        ([13, 10] ++ unlines rest)))) := by
    rw [unlines_append, unlines_cons, unlines_cons, ← List.append_assoc x]
  have hresult : (x ++ unlines (pre ++ [ICE_UFRAG ++ ufrag, ICE_PWD ++ pwd])) =
      above' ++ ((ICE_PWD ++ pwd) ++ [13, 10]) := by
    rw [unlines_append, unlines_cons, unlines_cons]
    simp only [above', above, unlines_nil, List.append_assoc, List.append_nil]
  have hfirst : find (x ++ unlines (pre ++ (ICE_UFRAG ++ oldUfrag) :: (ICE_PWD ++ oldPwd) :: rest))
      ICE_UFRAG x.length = some above.length := by
    rw [find_append_length, find_label (by decide) (by decide) hpre, List.length_append]
    rfl
  have hmove : above ++ ((ICE_UFRAG ++ ufrag) ++ ([13, 10] ++ (ICE_PWD ++ oldPwd ++
        ([13, 10] ++ unlines rest)))) =
      above' ++ ((ICE_PWD ++ oldPwd) ++ ([13, 10] ++ unlines rest)) := by
    simp only [above', List.append_assoc]
  have hsecond : find (above ++ ((ICE_UFRAG ++ ufrag) ++ ([13, 10] ++ (ICE_PWD ++ oldPwd ++
        ([13, 10] ++ unlines rest))))) ICE_PWD (above.length + ICE_UFRAG.length) =
      some above'.length := by
    rw [← Nat.add_zero (above.length + _),
      find_behind_label (by decide) (by decide) hufrag (Nat.zero_le _), List.append_assoc ICE_PWD,
      find_self]
    rfl
  have hthird : find (above' ++ ((ICE_PWD ++ pwd) ++ ([13, 10] ++ unlines rest))) ICE_UFRAG
        (above'.length + ICE_PWD.length) =
      find ((above' ++ ((ICE_PWD ++ pwd) ++ [13, 10])) ++ unlines rest) ICE_UFRAG
        (above' ++ ((ICE_PWD ++ pwd) ++ [13, 10])).length := by
    rw [← Nat.add_zero (above'.length + _),
      find_behind_label (by decide) (by decide) hpwd (Nat.zero_le _), ← find_append_length]
  have hend : above' ++ ((ICE_PWD ++ pwd) ++ ([13, 10] ++ unlines rest)) =
      (above' ++ ((ICE_PWD ++ pwd) ++ [13, 10])) ++ unlines rest := by
    simp only [List.append_assoc]
  rw [hfirst, htext, replaceUfragPwdLoop, replaceParam_line holdUfrag]
  simp only [findAt, hsecond]
  rw [hmove, replaceParam_line holdPwd]
  simp only [hthird]
  rw [hend, hresult]

/-- The last round: no ufrag line is left. -/
theorem replaceUfragPwdLoop_end {ls : List Bytes} (hls : ∀ l ∈ ls, ¬ ICE_UFRAG <:+: l) (x : Bytes)
    (fuel : Nat) :
    replaceUfragPwdLoop ufrag pwd (fuel + 1) (find (x ++ unlines ls) ICE_UFRAG x.length)
      (x ++ unlines ls) = x ++ unlines ls := by
  have hnone : find (unlines ls) ICE_UFRAG 0 = none := by
    have hfind := find_unlines (by decide) (by decide) hls []
    rw [List.append_nil] at hfind
    rw [hfind]
    rfl
  rw [find_append_length, hnone]
  rfl

/-- The loop over any number of blocks. -/
theorem replaceUfragPwdLoop_blocks (hufrag : ¬ ICE_PWD <:+: ufrag) (hpwd : ¬ ICE_UFRAG <:+: pwd)
    {tail : List Bytes} (htail : ∀ l ∈ tail, ¬ ICE_UFRAG <:+: l) {blocks : List Block}
    (hblocks : ∀ b ∈ blocks, b.WellFormed) (x : Bytes) {fuel : Nat}
    (hfuel : blocks.length < fuel) :
    replaceUfragPwdLoop ufrag pwd fuel
        (find (x ++ unlines (blocks.flatMap Block.lines ++ tail)) ICE_UFRAG x.length)
        (x ++ unlines (blocks.flatMap Block.lines ++ tail)) =
      x ++ unlines (blocks.flatMap (fun b => (b.set ufrag pwd).lines) ++ tail) := by
  induction blocks generalizing x fuel with
  | nil =>
    obtain ⟨fuel, rfl⟩ : ∃ f, fuel = f + 1 := ⟨fuel - 1, by omega⟩
    exact replaceUfragPwdLoop_end htail x fuel
  | cons b blocks ih =>
    rw [List.length_cons] at hfuel
    obtain ⟨fuel, rfl⟩ : ∃ f, fuel = f + 1 := ⟨fuel - 1, by omega⟩
    have hrest := @ih (fun b' hb' => hblocks b' (List.mem_cons_of_mem b hb'))
      (x ++ unlines (b.set ufrag pwd).lines) fuel (by omega)
    rw [List.flatMap_cons, List.append_assoc,
      replaceUfragPwdLoop_block hufrag hpwd (hblocks b List.mem_cons_self), hrest,
      List.flatMap_cons, List.append_assoc (Block.lines _), unlines_append (Block.lines _),
      List.append_assoc]

theorem replaceUfragPwd_blocks (hufrag : ¬ ICE_PWD <:+: ufrag) (hpwd : ¬ ICE_UFRAG <:+: pwd)
    {tail : List Bytes} (htail : ∀ l ∈ tail, ¬ ICE_UFRAG <:+: l) {blocks : List Block}
    (hblocks : ∀ b ∈ blocks, b.WellFormed) :
    replaceUfragPwd ufrag pwd (unlines (blocks.flatMap Block.lines ++ tail)) =
      unlines (blocks.flatMap (fun b => (b.set ufrag pwd).lines) ++ tail) := by
  refine replaceUfragPwdLoop_blocks hufrag hpwd htail hblocks [] ?_
  have hlines := length_le_unlines (blocks.flatMap Block.lines ++ tail)
  have hblock : blocks.length ≤ (blocks.flatMap Block.lines).length := by
    have hone := List.length_le_sum_of_one_le (blocks.map fun b => b.lines.length) (by
      simp [Block.lines])
    rwa [List.length_map, ← List.length_flatMap] at hone
  rw [List.length_append] at hlines
  show blocks.length < ([] ++ unlines (blocks.flatMap Block.lines ++ tail)).length + 1
  rw [List.nil_append]
  omega

end MediaGateway.WebAgent
