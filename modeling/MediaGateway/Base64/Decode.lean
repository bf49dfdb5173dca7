import MediaGateway.Base64
import MediaGateway.Lib.Bits
import Mathlib.Data.List.TakeWhile

/-!
# What is decoded

`base64_decode` takes the bits of four characters apart and puts them together as
three bytes.  `base64Decode_eq` says what comes of any text: the characters up to the
first one that is not in the alphabet give six bits each, and the result is the whole
bytes at the beginning of these bits.

An incomplete last group is filled with zero bytes, for which the alphabet gives `npos`;
`byte0` to `byte2` say which characters each byte is made of, and no byte that is kept
is made of those.
-/

namespace MediaGateway.Base64

open Lib

/-- The longest part at the beginning that is made of characters of the alphabet. -/
def alphabetPart (s : Bytes) : Bytes := s.takeWhile (List.contains base64Chars)

/-- The six bits of a character, its position in the alphabet. -/
def sextet (c : UInt8) : List Bool := Bits.ofNat 6 (base64Chars.idxOf c)

/-- The whole bytes at the beginning of the bits of some characters. -/
def leadingBytes (p : Bytes) : Bytes :=
  (Bits.leading 8 (6 * p.length / 8) (p.flatMap sextet)).map UInt8.ofNat

/-! ## The alphabet -/

/-- `is_base64` is membership in the alphabet. -/
theorem isBase64_iff : ∀ c, isBase64 c = true ↔ c ∈ base64Chars :=
  Bits.forall_byte (by decide +kernel)

theorem charIndex_toNat : ∀ c, c ∈ base64Chars →
    (charIndex c).toNat = base64Chars.idxOf c ∧ base64Chars.idxOf c < 64 :=
  Bits.forall_byte (by decide +kernel)

/-- The loop goes on with a character of the alphabet; padding is none. -/
theorem goesOn {c : UInt8} (h : c ∈ base64Chars) : (c != 61 && isBase64 c) = true := by
  have hne : c ≠ 61 := by
    intro heq
    subst heq
    exact absurd h (by decide)
  rw [(isBase64_iff c).2 h, Bool.and_true]
  exact bne_iff_ne.2 hne

theorem stops {c : UInt8} (h : c ∉ base64Chars) : (c != 61 && isBase64 c) = false := by
  rw [← isBase64_iff, Bool.not_eq_true] at h
  rw [h, Bool.and_false]

/-! ## The bytes of a group -/

theorem masks : ∀ a : UInt8,
    (a <<< 2).toNat = 4 * a.toNat % 256 ∧ ((a &&& 0x30) >>> 4).toNat = a.toNat / 16 % 4 ∧
      ((a &&& 0xf) <<< 4).toNat = a.toNat % 16 * 16 ∧
      ((a &&& 0x3c) >>> 2).toNat = a.toNat / 4 % 16 ∧
      ((a &&& 0x3) <<< 6).toNat = a.toNat % 4 * 64 :=
  Bits.forall_byte (by decide +kernel)

variable {a0 a1 a2 a3 : UInt8}

theorem byte0 (h1 : a1.toNat < 64) :
    (a0 <<< 2) + ((a1 &&& 0x30) >>> 4) = UInt8.ofNat (4 * a0.toNat + a1.toNat / 16) := by
  obtain ⟨hleft, -⟩ := masks a0
  obtain ⟨-, hright, -⟩ := masks a1
  rw [← UInt8.toNat_inj, UInt8.toNat_add, hleft, hright, UInt8.toNat_ofNat']
  omega

theorem byte1 (h2 : a2.toNat < 64) :
    ((a1 &&& 0xf) <<< 4) + ((a2 &&& 0x3c) >>> 2) =
      UInt8.ofNat (a1.toNat % 16 * 16 + a2.toNat / 4) := by
  obtain ⟨-, -, hleft, -⟩ := masks a1
  obtain ⟨-, -, -, hright, -⟩ := masks a2
  rw [← UInt8.toNat_inj, UInt8.toNat_add, hleft, hright, UInt8.toNat_ofNat']
  omega

theorem byte2 :
    ((a2 &&& 0x3) <<< 6) + a3 = UInt8.ofNat (a2.toNat % 4 * 64 + a3.toNat) := by
  obtain ⟨-, -, -, -, hleft⟩ := masks a2
  rw [← UInt8.toNat_inj, UInt8.toNat_add, hleft, UInt8.toNat_ofNat']

/-- The bits of four characters are those of three bytes, and the bits of two or three
characters begin with those of one or two. -/
theorem sextets_eq {v0 v1 v2 v3 : Nat} (h0 : v0 < 64) (h1 : v1 < 64) (h2 : v2 < 64)
    (h3 : v3 < 64) :
    [v0, v1].flatMap (Bits.ofNat 6) =
        [4 * v0 + v1 / 16].flatMap (Bits.ofNat 8) ++ Bits.ofNat 4 (v1 % 16) ∧
      [v0, v1, v2].flatMap (Bits.ofNat 6) =
        [4 * v0 + v1 / 16, v1 % 16 * 16 + v2 / 4].flatMap (Bits.ofNat 8) ++
          Bits.ofNat 2 (v2 % 4) ∧
      [v0, v1, v2, v3].flatMap (Bits.ofNat 6) =
        [4 * v0 + v1 / 16, v1 % 16 * 16 + v2 / 4, v2 % 4 * 64 + v3].flatMap (Bits.ofNat 8) := by
  have hb0 : Bits.toNat (Bits.ofNat 8 (4 * v0 + v1 / 16)) = 4 * v0 + v1 / 16 :=
    Bits.toNat_ofNat (by omega)
  have hb1 : Bits.toNat (Bits.ofNat 8 (v1 % 16 * 16 + v2 / 4)) = v1 % 16 * 16 + v2 / 4 :=
    Bits.toNat_ofNat (by omega)
  have hb2 : Bits.toNat (Bits.ofNat 8 (v2 % 4 * 64 + v3)) = v2 % 4 * 64 + v3 :=
    Bits.toNat_ofNat (by omega)
  have hlow : Bits.toNat (Bits.ofNat 4 (v1 % 16)) = v1 % 16 := Bits.toNat_ofNat (by omega)
  have hlow' : Bits.toNat (Bits.ofNat 2 (v2 % 4)) = v2 % 4 := Bits.toNat_ofNat (by omega)
  have hsix : ∀ {v}, v < 64 → Bits.toNat (Bits.ofNat 6 v) = v := fun h => Bits.toNat_ofNat h
  refine ⟨?_, ?_, ?_⟩
  all_goals
    apply Bits.toNat_inj
    · simp
    · simp only [List.flatMap_cons, List.flatMap_nil, List.append_nil, Bits.toNat_append,
        List.length_append, Bits.length_ofNat, hsix h0, hsix h1, hsix h2, hsix h3, hb0, hb1, hb2,
        hlow, hlow']
      omega

/-! ## Groups of characters -/

theorem flatMap_sextet {p : Bytes} (h : ∀ c ∈ p, c ∈ base64Chars) :
    p.flatMap sextet = (p.map fun c => (charIndex c).toNat).flatMap (Bits.ofNat 6) := by
  rw [List.flatMap_map]
  refine List.flatMap_congr fun c hc => ?_
  rw [sextet, (charIndex_toNat c (h c hc)).1]

theorem length_flatMap_sextet (p : Bytes) : (p.flatMap sextet).length = 6 * p.length := by
  induction p with
  | nil => rfl
  | cons c p ih =>
    rw [List.flatMap_cons, List.length_append, ih, sextet, Bits.length_ofNat, List.length_cons]
    omega

/-- Characters whose bits begin with those of some bytes. -/
theorem leadingBytes_of_bits {p : Bytes} {bs : List Nat} {rest : List Bool}
    (h : p.flatMap sextet = bs.flatMap (Bits.ofNat 8) ++ rest) (hbs : ∀ b ∈ bs, b < 2 ^ 8)
    (hlen : 6 * p.length / 8 = bs.length) : leadingBytes p = bs.map UInt8.ofNat := by
  rw [leadingBytes, h, hlen, Bits.leading_flatMap hbs]

/-- Whole groups come first. -/
theorem leadingBytes_append {x : Bytes} {m : Nat} (hx : x.length = 4 * m) (p : Bytes) :
    leadingBytes (x ++ p) = leadingBytes x ++ leadingBytes p := by
  have hfirst : 6 * x.length / 8 = 3 * m := by omega
  have hlen : 6 * (x ++ p).length / 8 = 3 * m + 6 * p.length / 8 := by
    rw [List.length_append]
    omega
  have hbits : (x.flatMap sextet).length = 8 * (3 * m) := by
    rw [length_flatMap_sextet]
    omega
  rw [leadingBytes, leadingBytes, leadingBytes, hlen, hfirst, List.flatMap_append,
    Bits.leading_append hbits, List.map_append]

/-- The bytes that are kept of a group: with fewer than four characters the ones in the
rest of the array do not matter. -/
theorem leadingBytes_group {c0 c1 c2 c3 : UInt8}
    (h : ∀ c ∈ [c0, c1, c2, c3], c ∈ base64Chars) (x y : UInt8) :
    leadingBytes [c0, c1, c2, c3] = group3 ([c0, c1, c2, c3].map charIndex) ∧
      leadingBytes [c0, c1, c2] = (group3 ([c0, c1, c2, y].map charIndex)).take 2 ∧
      leadingBytes [c0, c1] = (group3 ([c0, c1, x, y].map charIndex)).take 1 := by
  have hlt : ∀ c ∈ [c0, c1, c2, c3], (charIndex c).toNat < 64 := by
    intro c hc
    obtain ⟨heq, hlt⟩ := charIndex_toNat c (h c hc)
    rwa [heq]
  have hbits : ∀ p, p ⊆ [c0, c1, c2, c3] →
      p.flatMap sextet = (p.map fun c => (charIndex c).toNat).flatMap (Bits.ofNat 6) :=
    fun p hp => flatMap_sextet fun c hc => h c (hp hc)
  simp only [List.forall_mem_cons] at hlt
  obtain ⟨h0, h1, h2, h3, -⟩ := hlt
  obtain ⟨htwo, hthree, hfour⟩ := sextets_eq h0 h1 h2 h3
  have hb0 : 4 * (charIndex c0).toNat + (charIndex c1).toNat / 16 < 2 ^ 8 := by omega
  have hb1 : (charIndex c1).toNat % 16 * 16 + (charIndex c2).toNat / 4 < 2 ^ 8 := by omega
  have hb2 : (charIndex c2).toNat % 4 * 64 + (charIndex c3).toNat < 2 ^ 8 := by omega
  refine ⟨?_, ?_, ?_⟩
  · rw [← List.append_nil (List.flatMap (Bits.ofNat 8) _)] at hfour
    rw [leadingBytes_of_bits ((hbits [c0, c1, c2, c3] (by simp)).trans hfour)
      (List.forall_mem_cons.2 ⟨hb0, List.forall_mem_cons.2 ⟨hb1, List.forall_mem_singleton.2 hb2⟩⟩)
      (by simp)]
    simp only [group3, List.map_cons, List.map_nil, List.getD_cons_zero, List.getD_cons_succ,
      byte0 h1, byte1 h2, byte2]
  · rw [leadingBytes_of_bits ((hbits [c0, c1, c2] (by simp)).trans hthree)
      (List.forall_mem_cons.2 ⟨hb0, List.forall_mem_singleton.2 hb1⟩) (by simp)]
    simp only [group3, List.map_cons, List.map_nil, List.getD_cons_zero, List.getD_cons_succ,
      byte0 h1, byte1 h2]
    rfl
  · rw [leadingBytes_of_bits ((hbits [c0, c1] (by simp)).trans htwo)
      (List.forall_mem_singleton.2 hb0) (by simp)]
    simp only [group3, List.map_cons, List.map_nil, List.getD_cons_zero, List.getD_cons_succ,
      byte0 h1]
    rfl

/-! ## The loop -/

/-- `base64_decode` after the loop. -/
def finish : Nat × List UInt8 × Bytes → Bytes
  | (i, arr, ret) =>
    if i = 0 then
      ret
    else
      ret ++ (group3 ((arr.take i ++ List.replicate (4 - i) 0).map charIndex)).take (i - 1)

/-- The loop over the characters of one group and on. -/
theorem decodeLoop_group {c0 c1 c2 c3 : UInt8} (h : ∀ c ∈ [c0, c1, c2, c3], c ∈ base64Chars)
    (x0 x1 x2 x3 : UInt8) (p ret : Bytes) :
    decodeLoop [c0] 0 [x0, x1, x2, x3] ret = (1, [c0, x1, x2, x3], ret) ∧
      decodeLoop [c0, c1] 0 [x0, x1, x2, x3] ret = (2, [c0, c1, x2, x3], ret) ∧
      decodeLoop [c0, c1, c2] 0 [x0, x1, x2, x3] ret = (3, [c0, c1, c2, x3], ret) ∧
      decodeLoop (c0 :: c1 :: c2 :: c3 :: p) 0 [x0, x1, x2, x3] ret =
        decodeLoop p 0 ([c0, c1, c2, c3].map charIndex)
          (ret ++ group3 ([c0, c1, c2, c3].map charIndex)) := by
  simp only [List.forall_mem_cons] at h
  obtain ⟨h0, h1, h2, h3, -⟩ := h
  simp [decodeLoop, goesOn h0, goesOn h1, goesOn h2, goesOn h3]

/-- The loop over characters of the alphabet, whatever the array holds at first. -/
theorem finish_decodeLoop : ∀ {p : Bytes}, (∀ c ∈ p, c ∈ base64Chars) →
    ∀ {arr : List UInt8}, arr.length = 4 → ∀ ret,
      finish (decodeLoop p 0 arr ret) = ret ++ leadingBytes p
  | [], _, arr, _, ret => by
    rw [decodeLoop, leadingBytes, finish, if_pos rfl]
    exact (List.append_nil ret).symm
  | [c0], h, [x0, x1, x2, x3], _, ret => by
    have hgroup : ∀ c ∈ [c0, c0, c0, c0], c ∈ base64Chars := by simpa using h
    obtain ⟨hone, -⟩ := decodeLoop_group hgroup x0 x1 x2 x3 [] ret
    have hnone : leadingBytes [c0] = [] := by
      rw [leadingBytes, show 6 * [c0].length / 8 = 0 by simp]
      rfl
    rw [hone, finish, hnone]
    simp
  | [c0, c1], h, [x0, x1, x2, x3], _, ret => by
    have hgroup : ∀ c ∈ [c0, c1, c1, c1], c ∈ base64Chars := by simpa using h
    obtain ⟨-, htwo, -⟩ := decodeLoop_group hgroup x0 x1 x2 x3 [] ret
    rw [htwo, (leadingBytes_group hgroup 0 0).2.2]
    rfl
  | [c0, c1, c2], h, [x0, x1, x2, x3], _, ret => by
    have hgroup : ∀ c ∈ [c0, c1, c2, c2], c ∈ base64Chars := by simpa using h
    obtain ⟨-, -, hthree, -⟩ := decodeLoop_group hgroup x0 x1 x2 x3 [] ret
    rw [hthree, (leadingBytes_group hgroup 0 0).2.1]
    rfl
  | c0 :: c1 :: c2 :: c3 :: p, h, [x0, x1, x2, x3], _, ret => by
    have hgroup : ∀ c ∈ [c0, c1, c2, c3], c ∈ base64Chars := fun c hc =>
      h c (List.mem_append_left p hc)
    have hrest : ∀ c ∈ p, c ∈ base64Chars := fun c hc =>
      h c (List.mem_append_right [c0, c1, c2, c3] hc)
    obtain ⟨-, -, -, hfour⟩ := decodeLoop_group hgroup x0 x1 x2 x3 p ret
    have hbytes : leadingBytes (c0 :: c1 :: c2 :: c3 :: p) =
        leadingBytes [c0, c1, c2, c3] ++ leadingBytes p :=
      @leadingBytes_append [c0, c1, c2, c3] 1 rfl p
    rw [hfour, finish_decodeLoop hrest rfl, hbytes, (leadingBytes_group hgroup 0 0).1,
      List.append_assoc]

/-- `base64_decode` gives the whole bytes at the beginning of the bits of the characters
in front of the first one that is not in the alphabet. -/
theorem base64Decode_eq (s : Bytes) :
    (base64Decode s).length = 6 * (alphabetPart s).length / 8 ∧
      base64Decode s = leadingBytes (alphabetPart s) := by
  have hmem : ∀ c ∈ alphabetPart s, c ∈ base64Chars := fun c hc =>
    List.contains_iff_mem.1 (@List.mem_takeWhile_imp _ (List.contains base64Chars) s c hc)
  have hpart : base64Decode (alphabetPart s) = leadingBytes (alphabetPart s) :=
    finish_decodeLoop hmem (rfl : [0, 0, 0, 0].length = 4) []
  have hsplit : alphabetPart s ++ s.dropWhile (List.contains base64Chars) = s :=
    List.takeWhile_append_dropWhile
  have hdecode : base64Decode s = leadingBytes (alphabetPart s) := by
    rw [← hpart]
    have hend := List.head?_dropWhile_not (List.contains base64Chars) s
    cases hrest : s.dropWhile (List.contains base64Chars) with
    | nil =>
      rw [hrest, List.append_nil] at hsplit
      rw [hsplit]
    | cons c rest =>
      rw [hrest] at hsplit hend
      have hc : c ∉ base64Chars := by
        rw [← List.contains_iff_mem, Bool.not_eq_true]
        exact hend
      rw [← base64Decode_stop (stops hc) (alphabetPart s) rest, hsplit]
  refine ⟨?_, hdecode⟩
  rw [hdecode, leadingBytes, List.length_map, Bits.length_leading]

end MediaGateway.Base64
