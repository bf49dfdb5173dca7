import MediaGateway.Base64.Decode

/-!
# Encoding and decoding

`base64_encode` writes characters that carry the bits of the bytes, with zero bits
behind them when the last group is incomplete (`Carries`).  `base64_decode` gives back
the whole bytes among these bits, and stops at the padding.
-/

namespace MediaGateway.Base64

open Lib

/-- The characters carry the bits of the bytes, and too few others for one more byte. -/
structure Carries (p bytes : Bytes) : Prop where
  alphabet : ∀ c ∈ p, c ∈ base64Chars
  bits : ∃ rest, p.flatMap sextet = (bytes.map UInt8.toNat).flatMap (Bits.ofNat 8) ++ rest
  length : 6 * p.length / 8 = bytes.length

theorem Carries.leadingBytes_eq {p bytes : Bytes} (h : Carries p bytes) :
    leadingBytes p = bytes := by
  obtain ⟨rest, hrest⟩ := h.bits
  have hlt : ∀ b ∈ bytes.map UInt8.toNat, b < 2 ^ 8 := by
    intro b hb
    obtain ⟨c, -, rfl⟩ := List.mem_map.1 hb
    exact c.toNat_lt
  have hlen : 6 * p.length / 8 = (bytes.map UInt8.toNat).length := by
    rw [List.length_map, h.length]
  rw [leadingBytes_of_bits hrest hlt hlen, List.map_map]
  have hid : UInt8.ofNat ∘ UInt8.toNat = id := funext fun c => UInt8.ofNat_toNat
  rw [hid, List.map_id]

/-! ## The characters of a group -/

theorem charAt_mem : ∀ v : UInt8, v.toNat < 64 →
    charAt v ∈ base64Chars ∧ base64Chars.idxOf (charAt v) = v.toNat :=
  Bits.forall_byte (by decide +kernel)

/-- The values of `char_array_4`. -/
theorem group4_toNat (b0 b1 b2 : UInt8) :
    (group4 [b0, b1, b2]).map UInt8.toNat =
      [b0.toNat / 4, b0.toNat % 4 * 16 + b1.toNat / 16, b1.toNat % 16 * 4 + b2.toNat / 64,
        b2.toNat % 64] := by
  have hmasks : ∀ a : UInt8,
      ((a &&& 0xfc) >>> 2).toNat = a.toNat / 4 ∧ ((a &&& 0x03) <<< 4).toNat = a.toNat % 4 * 16 ∧
        ((a &&& 0xf0) >>> 4).toNat = a.toNat / 16 ∧ ((a &&& 0x0f) <<< 2).toNat = a.toNat % 16 * 4 ∧
        ((a &&& 0xc0) >>> 6).toNat = a.toNat / 64 ∧ (a &&& 0x3f).toNat = a.toNat % 64 :=
    Bits.forall_byte (by decide +kernel)
  obtain ⟨h0, h0', -⟩ := hmasks b0
  obtain ⟨-, -, h1, h1', -⟩ := hmasks b1
  obtain ⟨-, -, -, -, h2, h2'⟩ := hmasks b2
  have hlt0 := b0.toNat_lt
  have hlt1 := b1.toNat_lt
  have hlt2 := b2.toNat_lt
  have hsecond : (b0.toNat % 4 * 16 + b1.toNat / 16) % 2 ^ 8 =
      b0.toNat % 4 * 16 + b1.toNat / 16 := Nat.mod_eq_of_lt (by omega)
  have hthird : (b1.toNat % 16 * 4 + b2.toNat / 64) % 2 ^ 8 =
      b1.toNat % 16 * 4 + b2.toNat / 64 := Nat.mod_eq_of_lt (by omega)
  simp only [group4, List.getD_cons_zero, List.getD_cons_succ, List.map_cons, List.map_nil,
    UInt8.toNat_add, h0, h0', h1, h1', h2, h2', hsecond, hthird]

/-- Characters for values below 64. -/
theorem charAt_values {vs : List UInt8} (h : ∀ v ∈ vs, v.toNat < 64) :
    (∀ c ∈ vs.map charAt, c ∈ base64Chars) ∧
      (vs.map charAt).flatMap sextet = (vs.map UInt8.toNat).flatMap (Bits.ofNat 6) := by
  constructor
  · intro c hc
    obtain ⟨v, hv, rfl⟩ := List.mem_map.1 hc
    exact (charAt_mem v (h v hv)).1
  · rw [List.flatMap_map, List.flatMap_map]
    refine List.flatMap_congr fun v hv => ?_
    rw [sextet, (charAt_mem v (h v hv)).2]

/-- The characters of a group carry its bytes, and the first three or two of them carry
two bytes or one. -/
theorem carries_group (b0 b1 b2 : UInt8) :
    Carries ((group4 [b0, b1, b2]).map charAt) [b0, b1, b2] ∧
      Carries (((group4 [b0, b1, b2]).take 3).map charAt) [b0, b1] ∧
      Carries (((group4 [b0, b1, b2]).take 2).map charAt) [b0] := by
  have hvalues := group4_toNat b0 b1 b2
  have hlen : (group4 [b0, b1, b2]).length = 4 := rfl
  have hb0 := b0.toNat_lt
  have hb1 := b1.toNat_lt
  have hb2 := b2.toNat_lt
  obtain ⟨htwo, hthree, hfour⟩ := @sextets_eq (b0.toNat / 4)
    (b0.toNat % 4 * 16 + b1.toNat / 16) (b1.toNat % 16 * 4 + b2.toNat / 64) (b2.toNat % 64)
    (by omega) (by omega) (by omega) (by omega)
  have hfirst : 4 * (b0.toNat / 4) + (b0.toNat % 4 * 16 + b1.toNat / 16) / 16 = b0.toNat := by
    omega
  have hsecond : (b0.toNat % 4 * 16 + b1.toNat / 16) % 16 * 16 +
      (b1.toNat % 16 * 4 + b2.toNat / 64) / 4 = b1.toNat := by omega
  have hthird : (b1.toNat % 16 * 4 + b2.toNat / 64) % 4 * 64 + b2.toNat % 64 = b2.toNat := by
    omega
  rw [hfirst] at htwo hthree hfour
  rw [hsecond] at hthree hfour
  rw [hthird] at hfour
  have hlt : ∀ v ∈ group4 [b0, b1, b2], v.toNat < 64 := by
    intro v hv
    have hmem := List.mem_map_of_mem (f := UInt8.toNat) hv
    rw [hvalues] at hmem
    simp only [List.mem_cons, List.not_mem_nil, or_false] at hmem
    omega
  have hpart : ∀ k, (∀ c ∈ ((group4 [b0, b1, b2]).take k).map charAt, c ∈ base64Chars) ∧
      (((group4 [b0, b1, b2]).take k).map charAt).flatMap sextet =
        (((group4 [b0, b1, b2]).map UInt8.toNat).take k).flatMap (Bits.ofNat 6) := by
    intro k
    rw [← List.map_take]
    exact charAt_values fun v hv => hlt v (List.mem_of_mem_take hv)
  rw [hvalues] at hpart
  refine ⟨?_, ?_, ?_⟩
  · exact ⟨(hpart 4).1, ⟨[], (hpart 4).2.trans (hfour.trans (List.append_nil _).symm)⟩,
      by simp [hlen]⟩
  · exact ⟨(hpart 3).1, ⟨_, (hpart 3).2.trans hthree⟩, by simp [hlen]⟩
  · exact ⟨(hpart 2).1, ⟨_, (hpart 2).2.trans htwo⟩, by simp [hlen]⟩

/-! ## The loop -/

theorem Carries.nil : Carries [] [] where
  alphabet := fun _ h => by cases h
  bits := ⟨[], rfl⟩
  length := rfl

/-- A whole group in front. -/
theorem Carries.append {b0 b1 b2 : UInt8} {p bytes : Bytes} (h : Carries p bytes) :
    Carries ((group4 [b0, b1, b2]).map charAt ++ p) (b0 :: b1 :: b2 :: bytes) := by
  obtain ⟨hgroup, -⟩ := carries_group b0 b1 b2
  have hlen : ((group4 [b0, b1, b2]).map charAt).length = 4 := rfl
  obtain ⟨none, hbits⟩ := hgroup.bits
  obtain ⟨rest, hrest⟩ := h.bits
  -- the four characters have no bits to spare
  have hcount := congrArg List.length hbits
  rw [length_flatMap_sextet, hlen, List.length_append] at hcount
  have hnone : none = [] := by
    apply List.length_eq_zero_iff.1
    simp only [List.map_cons, List.map_nil, List.flatMap_cons, List.flatMap_nil,
      List.length_append, Bits.length_ofNat, List.length_nil] at hcount
    omega
  rw [hnone, List.append_nil] at hbits
  refine ⟨?_, ⟨rest, ?_⟩, ?_⟩
  · rw [List.forall_mem_append]
    exact ⟨hgroup.alphabet, h.alphabet⟩
  · rw [List.flatMap_append, hbits, hrest, ← List.append_assoc, ← List.flatMap_append]
    rfl
  · have hrestLen := h.length
    simp only [List.length_append, hlen, List.length_cons]
    omega

/-- `base64_encode` after the loop. -/
def finishEncode : Nat × List UInt8 × Bytes → Bytes
  | (i, arr, ret) =>
    if i = 0 then
      ret
    else
      let arr := arr.take i ++ List.replicate (3 - i) 0
      ret ++ ((group4 arr).take (i + 1)).map charAt ++ List.replicate (3 - i) 61

/-- The loop over some bytes: characters that carry them, then padding. -/
theorem finishEncode_encodeLoop : ∀ (b : Bytes) {arr : List UInt8}, arr.length = 3 → ∀ ret,
    ∃ p n, finishEncode (encodeLoop b 0 arr ret) = ret ++ (p ++ List.replicate n 61) ∧ Carries p b
  | [], arr, _, ret => ⟨[], 0, by simp [encodeLoop, finishEncode], .nil⟩
  | [b0], [x0, x1, x2], _, ret => by
    refine ⟨_, 2, ?_, (carries_group b0 0 0).2.2⟩
    simp [encodeLoop, finishEncode]
  | [b0, b1], [x0, x1, x2], _, ret => by
    refine ⟨_, 1, ?_, (carries_group b0 b1 0).2.1⟩
    simp [encodeLoop, finishEncode]
  | b0 :: b1 :: b2 :: b, [x0, x1, x2], _, ret => by
    have hloop : encodeLoop (b0 :: b1 :: b2 :: b) 0 [x0, x1, x2] ret =
        encodeLoop b 0 [b0, b1, b2] (ret ++ (group4 [b0, b1, b2]).map charAt) := by
      simp [encodeLoop]
    obtain ⟨p, n, heq, hp⟩ := finishEncode_encodeLoop b (rfl : [b0, b1, b2].length = 3)
      (ret ++ (group4 [b0, b1, b2]).map charAt)
    refine ⟨(group4 [b0, b1, b2]).map charAt ++ p, n, ?_, hp.append⟩
    rw [hloop, heq, List.append_assoc, List.append_assoc]

/-- Decoding undoes encoding. -/
theorem base64Decode_base64Encode (b : Bytes) (h : b.length < 2 ^ 30) :
    base64Decode (base64Encode b (UInt32.ofNat b.length)) = b := by
  have hlen : (UInt32.ofNat b.length).toNat = b.length := by
    rw [UInt32.toNat_ofNat']
    omega
  have htake : b.take (UInt32.ofNat b.length).toNat = b := by
    rw [hlen, List.take_length]
  obtain ⟨p, n, hencode, hp⟩ := finishEncode_encodeLoop b
    (rfl : ([0, 0, 0] : List UInt8).length = 3) []
  have htext : base64Encode b (UInt32.ofNat b.length) = p ++ List.replicate n 61 := by
    rw [base64Encode, htake]
    exact hencode
  have hpart : alphabetPart (p ++ List.replicate n 61) = p := by
    have hp' : ∀ c ∈ p, List.contains base64Chars c = true := fun c hc =>
      List.contains_iff_mem.2 (hp.alphabet c hc)
    rw [alphabetPart, List.takeWhile_append_of_pos hp']
    cases n with
    | zero => exact List.append_nil p
    | succ n =>
      have hpad : List.contains base64Chars 61 = false := by decide
      rw [List.replicate_succ, List.takeWhile_cons, hpad]
      exact List.append_nil p
  rw [htext, (base64Decode_eq _).2, hpart, hp.leadingBytes_eq]

/-- A text whose last group has one byte. -/
theorem base64Decode_base64Encode_four :
    (bytes "key!").length < 2 ^ 30 ∧
      base64Decode (base64Encode (bytes "key!") (UInt32.ofNat (bytes "key!").length)) =
        bytes "key!" :=
  ⟨by decide, base64Decode_base64Encode (bytes "key!") (by decide)⟩

end MediaGateway.Base64
