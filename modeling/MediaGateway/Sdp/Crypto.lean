import MediaGateway.Sdp.Rewrite

/-!
# Replacing the keys of any text

`replaceCrypto_rekey` says which lines the loop of `replaceCrypto` reaches on any
text of lines.  Here is the text for which it reaches all of them: a value that is
longer than the new key must be followed by enough text before the next value that has
to change.
-/

namespace MediaGateway.WebAgent

open Lib Bytes

variable {crypto : Bytes} {n : Nat} {l : Bytes} {ls : List Bytes}

/-- A search that starts `n` bytes behind the beginning of the lines passes no value that
has to change. -/
def Reached (crypto : Bytes) (n : Nat) (ls : List Bytes) : Prop :=
  ∀ pre old post, ls = pre ++ (CRYPTO_80 ++ old) :: post → old ≠ crypto →
    n ≤ (unlines pre).length

/-- Of any two values that have to change, the first is no longer than the new key, two
bytes and the lines between them. -/
def Spaced (crypto : Bytes) (ls : List Bytes) : Prop :=
  ∀ pre old mid old' post,
    ls = pre ++ (CRYPTO_80 ++ old) :: (mid ++ (CRYPTO_80 ++ old') :: post) →
      old ≠ crypto → old' ≠ crypto →
        old.length ≤ crypto.length + 2 + (unlines mid).length

theorem reached_zero (crypto : Bytes) (ls : List Bytes) : Reached crypto 0 ls :=
  fun _ _ _ _ _ => Nat.zero_le _

theorem reached_cons :
    Reached crypto n (l :: ls) ↔
      (∀ old, l = CRYPTO_80 ++ old → old ≠ crypto → n = 0) ∧
        Reached crypto (n - (l.length + 2)) ls := by
  constructor
  · intro h
    constructor
    · intro old hl hne
      have hle := h [] old ls (by rw [hl, List.nil_append]) hne
      rw [unlines_nil, List.length_nil] at hle
      omega
    · intro pre old post hls hne
      have hle := h (l :: pre) old post (by rw [hls, List.cons_append]) hne
      rw [unlines_cons] at hle
      simp only [List.length_append, List.length_cons, List.length_nil] at hle
      omega
  · intro h
    obtain ⟨hhead, hrest⟩ := h
    intro pre old post hls hne
    cases pre with
    | nil =>
      have hn := hhead old (List.cons.inj hls).1 hne
      omega
    | cons l' pre =>
      obtain ⟨rfl, htail⟩ := List.cons.inj hls
      have hle := hrest pre old post htail hne
      rw [unlines_cons]
      simp only [List.length_append, List.length_cons, List.length_nil]
      omega

theorem spaced_cons :
    Spaced crypto (l :: ls) ↔
      (∀ old, l = CRYPTO_80 ++ old → old ≠ crypto →
        Reached crypto (old.length - (crypto.length + 2)) ls) ∧
        Spaced crypto ls := by
  constructor
  · intro h
    constructor
    · intro old hl hne mid old' post hls hne'
      have hle := h [] old mid old' post (by rw [hl, hls, List.nil_append]) hne hne'
      omega
    · intro pre old mid old' post hls
      exact h (l :: pre) old mid old' post (by rw [hls, List.cons_append])
  · intro h
    obtain ⟨hhead, hrest⟩ := h
    intro pre old mid old' post hls hne hne'
    cases pre with
    | nil =>
      obtain ⟨hl, htail⟩ := List.cons.inj hls
      have hle := hhead old hl hne mid old' post htail hne'
      omega
    | cons l' pre => exact hrest pre old mid old' post (List.cons.inj hls).2 hne hne'

/-- The loop reaches every value that has to change. -/
theorem rekey_eq_iff :
    rekey crypto n ls = ls.map (setKey crypto) ↔ Spaced crypto ls ∧ Reached crypto n ls := by
  induction ls generalizing n with
  | nil =>
    refine ⟨fun _ => ⟨?_, ?_⟩, fun _ => rfl⟩
    · intro pre old mid old' post hls
      simp at hls
    · intro pre old post hls
      simp at hls
  | cons l ls ih =>
    rw [rekey, List.map_cons, spaced_cons, reached_cons, setKey]
    by_cases hkey : CRYPTO_80 <+: l
    · obtain ⟨old, rfl⟩ := hkey
      have hsame : ∀ {p : Bytes → Prop}, (∀ o, CRYPTO_80 ++ old = CRYPTO_80 ++ o → p o) ↔ p old :=
        fun {p} => ⟨fun h => h old rfl, fun h o ho => List.append_cancel_left ho ▸ h⟩
      have hover : (CRYPTO_80 ++ old).length - ((CRYPTO_80 ++ crypto).length + 2) =
          old.length - (crypto.length + 2) := by
        simp only [List.length_append]
        omega
      rw [if_pos (List.prefix_append _ _), hsame, hsame]
      cases n with
      | zero =>
        -- the line is rewritten
        rw [if_pos ⟨List.prefix_append _ _, rfl⟩, List.cons_inj_right, ih, hover, Nat.zero_sub]
        constructor
        · intro h
          exact ⟨⟨fun _ => h.2, h.1⟩, fun _ => rfl, reached_zero crypto ls⟩
        · intro h
          by_cases hne : old = crypto
          · have hzero : old.length - (crypto.length + 2) = 0 := by
              rw [hne]
              omega
            rw [hzero]
            exact ⟨h.1.2, reached_zero crypto ls⟩
          · exact ⟨h.1.2, h.1.1 hne⟩
      | succ n =>
        -- it is passed, so its value must be the new key
        rw [if_neg fun h => absurd h.2 (Nat.succ_ne_zero n), List.cons.injEq, ih]
        constructor
        · intro h
          have heq : old = crypto := List.append_cancel_left h.1
          exact ⟨⟨fun hne => absurd heq hne, h.2.1⟩, fun hne => absurd heq hne, h.2.2⟩
        · intro h
          have heq : old = crypto := by
            by_contra hne
            exact absurd (h.2.1 hne) (Nat.succ_ne_zero n)
          exact ⟨by rw [heq], h.1.2, h.2.2⟩
    · have hnone : ∀ {p : Bytes → Prop}, ∀ old, l = CRYPTO_80 ++ old → p old :=
        fun {p} old hl => absurd (hl ▸ List.prefix_append _ _) hkey
      rw [if_neg hkey, if_neg fun h => hkey h.1, List.cons_inj_right, ih]
      constructor
      · intro h
        exact ⟨⟨hnone, h.1⟩, hnone, h.2⟩
      · intro h
        exact ⟨h.1.2, h.2.2⟩

theorem mem_rekey {l' : Bytes} (h : l' ∈ rekey crypto n ls) :
    l' ∈ ls ∨ l' = CRYPTO_80 ++ crypto := by
  induction ls generalizing n with
  | nil => cases h
  | cons l ls ih =>
    rw [rekey] at h
    split at h
    · rcases List.mem_cons.1 h with rfl | hrest
      · exact .inr rfl
      · exact (ih hrest).imp_left (List.mem_cons_of_mem l)
    · rcases List.mem_cons.1 h with rfl | hrest
      · exact .inl List.mem_cons_self
      · exact (ih hrest).imp_left (List.mem_cons_of_mem l)

/-- `replaceCrypto` gives the new key to every line that has one, and to nothing else,
exactly when the values are spaced. -/
theorem replaceCrypto_iff (hls : ∀ l ∈ ls, ¬ [13, 10] <:+: l ∧ ¬ CRYPTO_80 <:+: l.tail)
    (hcrypto : InLine crypto) (hmarker : ¬ CRYPTO_80 <:+: crypto) :
    replaceCrypto (unlines ls) crypto = unlines (ls.map (setKey crypto)) ↔ Spaced crypto ls := by
  have hnew : ¬ [13, 10] <:+: CRYPTO_80 ++ crypto := by
    intro h
    have hmem : 13 ∈ CRYPTO_80 ++ crypto := h.subset (by decide)
    rcases List.mem_append.1 hmem with h | h
    · exact absurd h (by decide)
    · exact hcrypto.1 h
  have hleft : ∀ l ∈ rekey crypto 0 ls, ¬ [13, 10] <:+: l := by
    intro l hl
    rcases mem_rekey hl with h | rfl
    · exact (hls l h).1
    · exact hnew
  have hright : ∀ l ∈ ls.map (setKey crypto), ¬ [13, 10] <:+: l := by
    intro l hl
    obtain ⟨l', hl', rfl⟩ := List.mem_map.1 hl
    rw [setKey]
    split
    · exact hnew
    · exact (hls l' hl').1
  have hrekey := replaceCrypto_rekey hmarker (fun l hl _ => (hls l hl).1) fun l hl => (hls l hl).2
  rw [hrekey]
  constructor
  · intro h
    exact (rekey_eq_iff.1 (unlines_inj hleft hright h)).1
  · intro h
    rw [rekey_eq_iff.2 ⟨h, reached_zero crypto ls⟩]

/-- A key with parameters, the line of the next section behind it. -/
theorem replaceCrypto_sections :
    replaceCrypto (unlines [bytes "m=audio 1 RTP/SAVPF 8",
        CRYPTO_80 ++ bytes "d0RmdmcmVCspeEc3QGZiNWpVLFJhQX1cfHAwJSoj|2^20|1:4",
        bytes "m=video 1 RTP/SAVPF 100",
        CRYPTO_80 ++ bytes "NzB4d1BINUAvLEw6UzF3WSJ+PSdFcGdUJShpX1Zj"])
      cryptoToWeb =
    unlines [bytes "m=audio 1 RTP/SAVPF 8", CRYPTO_80 ++ cryptoToWeb,
      bytes "m=video 1 RTP/SAVPF 100", CRYPTO_80 ++ cryptoToWeb] :=
  (replaceCrypto_iff (by decide +kernel) (by decide) (by decide +kernel)).2
    ((rekey_eq_iff (n := 0)).1 (by decide +kernel)).1

/-- Directly behind such a key the next line keeps its own. -/
theorem not_replaceCrypto :
    ¬ ∀ (crypto : Bytes) (ls : List Bytes),
      (∀ l ∈ ls, ¬ [13, 10] <:+: l ∧ ¬ CRYPTO_80 <:+: l.tail) → InLine crypto →
      ¬ CRYPTO_80 <:+: crypto →
        replaceCrypto (unlines ls) crypto = unlines (ls.map (setKey crypto)) := by
  intro h
  have heq := h cryptoToWeb
    [CRYPTO_80 ++ bytes "d0RmdmcmVCspeEc3QGZiNWpVLFJhQX1cfHAwJSoj|2^20|1:4",
      CRYPTO_80 ++ bytes "NzB4d1BINUAvLEw6UzF3WSJ+PSdFcGdUJShpX1Zj"]
    (by decide +kernel) (by decide) (by decide +kernel)
  exact absurd heq (by decide +kernel)

end MediaGateway.WebAgent
