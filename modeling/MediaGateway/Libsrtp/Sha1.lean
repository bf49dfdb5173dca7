import MediaGateway.Lib.Sha1
import MediaGateway.Lib.Words
import Mathlib.Tactic.IntervalCases
import Mathlib.Tactic.SplitIfs

/-!
# The SHA-1 of libsrtp

`sha1.c`.  A context takes a message in pieces through a buffer of 64 octets, whose old octets
stay behind the new ones.  `final_eq` says that the hash is the one of `Lib.Sha1` of the whole
message, however it was cut into pieces: the four loops of `core` are the rounds of the standard,
and the words that `final` puts together from the buffer, without the old octets in it, are those
of the padded message.

The context counts the bits of the message with one word, so this holds for messages of less
than `2 ^ 29` octets.
-/

namespace MediaGateway.Libsrtp

open Lib Lib.Sha1

/-- `sha1_ctx_t`.  `m` is the buffer `M` in octets. -/
structure Sha1Ctx where
  h : State
  m : Bytes
  octetsInBuffer : Nat
  numBitsInMsg : Word
  size : m.length = 64
  room : octetsInBuffer < 64

namespace Sha1Ctx

def s1 (x : Word) : Word := (x <<< 1) ||| (x >>> 31)
def s5 (x : Word) : Word := (x <<< 5) ||| (x >>> 27)
def s30 (x : Word) : Word := (x <<< 30) ||| (x >>> 2)

def f0 (b c d : Word) : Word := (b &&& c) ||| (~~~b &&& d)
def f1 (b c d : Word) : Word := b ^^^ c ^^^ d
def f2 (b c d : Word) : Word := (b &&& c) ||| (b &&& d) ||| (c &&& d)
def f3 (b c d : Word) : Word := b ^^^ c ^^^ d

/-- `SHA_K0` to `SHA_K3`. -/
def k0 : Word := 0x5a827999
def k1 : Word := 0x6ed9eba1
def k2 : Word := 0x8f1bbcdc
def k3 : Word := 0xca62c1d6

/-- The words of the schedule that are computed from earlier ones, `n` of them. -/
def extendW : Nat → List Word → List Word
  | 0, w => w
  | n + 1, w =>
    let t := w.length
    extendW n (w ++ [s1 (w.getD (t - 3) 0 ^^^ w.getD (t - 8) 0 ^^^ w.getD (t - 14) 0 ^^^
      w.getD (t - 16) 0)])

/-- `n` passes of a loop over the rounds from `t` on. -/
def loop (f : Word → Word → Word → Word) (k : Word) (w : List Word) : Nat → Nat → State → State
  | _, 0, s => s
  | t, n + 1, s =>
    let temp := s5 s.a + f s.b s.c s.d + s.e + w.getD t 0 + k
    loop f k w (t + 1) n { a := temp, b := s.a, c := s30 s.b, d := s.c, e := s.d }

/-- The compression, as `sha1_core` and `sha1_final` have it, on the first 16 words of `W`. -/
def core (w : List Word) (h : State) : State :=
  let w := extendW 64 w
  h.add (loop f3 k3 w 60 20 (loop f2 k2 w 40 20 (loop f1 k1 w 20 20 (loop f0 k0 w 0 20 h))))

/-- The words of the buffer, in host byte order. -/
def words (m : Bytes) (n : Nat) : List Word := (List.range n).map (wordAt m)

/-- `sha1_init`, on a context whose buffer holds `m`. -/
def init (m : Bytes) (size : m.length = 64) : Sha1Ctx :=
  { h := State.initial, m, octetsInBuffer := 0, numBitsInMsg := 0, size, room := by decide }

/-- The loop of `sha1_update`.  A pass takes at least one octet, so as many passes as there are
octets are enough. -/
def updateLoop : Nat → Sha1Ctx → Bytes → Sha1Ctx
  | 0, ctx, _ => ctx
  | fuel + 1, ctx, msg =>
    if msg.length = 0 then ctx
    else if h : 64 ≤ msg.length + ctx.octetsInBuffer then
      let m := ctx.m.take ctx.octetsInBuffer ++ msg.take (64 - ctx.octetsInBuffer)
      have size : m.length = 64 := by
        have hsize := ctx.size
        have hroom := ctx.room
        simp [m]
        omega
      updateLoop fuel
        { ctx with h := core (words m 16) ctx.h, m, octetsInBuffer := 0, size, room := by decide }
        (msg.drop (64 - ctx.octetsInBuffer))
    else
      let m := ctx.m.take ctx.octetsInBuffer ++ msg ++ ctx.m.drop (ctx.octetsInBuffer + msg.length)
      have size : m.length = 64 := by
        have hsize := ctx.size
        have hroom := ctx.room
        simp [m]
        omega
      { ctx with m, octetsInBuffer := ctx.octetsInBuffer + msg.length, size, room := by omega }

/-- `sha1_update`. -/
def update (ctx : Sha1Ctx) (msg : Bytes) : Sha1Ctx :=
  updateLoop msg.length
    { ctx with numBitsInMsg := ctx.numBitsInMsg + BitVec.ofNat 32 (8 * msg.length) } msg

/-- The words of the message that is left in the buffer, with the high bit of the octet behind
it set. -/
def markedWords (m : Bytes) (octetsInBuffer : Nat) : List Word :=
  let i := (octetsInBuffer + 3) / 4
  let w := words m i
  match octetsInBuffer % 4 with
  | 3 => w.set (i - 1) ((wordAt m (i - 1) &&& 0xffffff00) ||| 0x80) ++ [0]
  | 2 => w.set (i - 1) ((wordAt m (i - 1) &&& 0xffff0000) ||| 0x8000) ++ [0]
  | 1 => w.set (i - 1) ((wordAt m (i - 1) &&& 0xff000000) ||| 0x800000) ++ [0]
  | _ => w ++ [0x80000000]

/-- The words `W[0]` to `W[15]` that `sha1_final` makes. -/
def finalWords (ctx : Sha1Ctx) : List Word :=
  let w := markedWords ctx.m ctx.octetsInBuffer
  let w := w ++ List.replicate (15 - w.length) 0
  if ctx.octetsInBuffer < 56 then w.take 15 ++ [ctx.numBitsInMsg]
  else if ctx.octetsInBuffer < 60 then w.take 15 ++ [0]
  else w.take 16

/-- `sha1_final`: the output, and the context after it. -/
def final (ctx : Sha1Ctx) : Bytes × Sha1Ctx :=
  let h := core (finalWords ctx) ctx.h
  let h := if 56 ≤ ctx.octetsInBuffer then
      core (List.replicate 15 0 ++ [ctx.numBitsInMsg]) h
    else h
  (h.digest, { ctx with h, octetsInBuffer := 0, room := by decide })

/-! ## The compression -/

variable {m : Nat → Word} {w : List Word} {h s : State} {n t : Nat}

theorem s1_eq (x : Word) : s1 x = x.rotateLeft 1 := rfl
theorem s5_eq (x : Word) : s5 x = x.rotateLeft 5 := rfl
theorem s30_eq (x : Word) : s30 x = x.rotateLeft 30 := rfl

theorem getD_schedule (m : Nat → Word) {i n : Nat} (h : i < n) :
    ((List.range n).map (schedule m)).getD i 0 = schedule m i := by
  rw [Words.getD_map_range, if_pos h]

theorem extendW_eq (ht : 16 ≤ t) :
    extendW n ((List.range t).map (schedule m)) = (List.range (t + n)).map (schedule m) := by
  induction n generalizing t with
  | zero => rfl
  | succ n ih =>
    rw [extendW, List.length_map, List.length_range, getD_schedule m (by omega),
      getD_schedule m (by omega), getD_schedule m (by omega), getD_schedule m (by omega), s1_eq,
      ← schedule_of_le ht]
    have hnext := ih (t := t + 1) (by omega)
    rw [List.range_succ, List.map_append] at hnext
    rw [Nat.add_comm n, ← Nat.add_assoc, ← hnext]
    rfl

/-- A loop is the rounds it is for. -/
theorem loop_eq {f : Word → Word → Word → Word} {k : Word} {u : Nat → Word}
    (hf : ∀ i, t ≤ i → i < t + n → Sha1.f i = f ∧ Sha1.k i = k ∧ w.getD i 0 = u i) :
    loop f k w t n (rounds u h t) = rounds u h (t + n) := by
  induction n generalizing t with
  | zero => rfl
  | succ n ih =>
    obtain ⟨hfun, hk, hw⟩ := hf t (Nat.le_refl t) (by omega)
    have hround : rounds u h (t + 1) =
        { a := s5 (rounds u h t).a + f (rounds u h t).b (rounds u h t).c (rounds u h t).d +
            (rounds u h t).e + w.getD t 0 + k
          b := (rounds u h t).a
          c := s30 (rounds u h t).b
          d := (rounds u h t).c
          e := (rounds u h t).d } := by
      rw [rounds, Sha1.round, hfun, hk, hw, s5_eq, s30_eq]
    have hnext := ih (t := t + 1) fun i hi hin => hf i (by omega) (by omega)
    rw [loop, ← hround, hnext, Nat.add_assoc, Nat.add_comm 1]

/-- The code's compression is the one of the standard. -/
theorem core_eq {block : Bytes} (hlen : w.length = 16)
    (hw : ∀ i < 16, w.getD i 0 = wordAt block i) (h : State) : core w h = compress h block := by
  have hfirst : w = (List.range 16).map (schedule (wordAt block)) := by
    refine List.ext_getElem (by simp [hlen]) fun i hi _ => ?_
    have hi16 : i < 16 := by omega
    rw [← List.getD_eq_getElem _ 0, hw i hi16, List.getElem_map, List.getElem_range,
      schedule_of_lt hi16]
  have hword : ∀ i < 80,
      ((List.range 80).map (schedule (wordAt block))).getD i 0 = schedule (wordAt block) i :=
    fun i hi => getD_schedule _ hi
  unfold core
  rw [hfirst, extendW_eq (Nat.le_refl 16)]
  dsimp only
  have hloop0 := loop_eq (f := f0) (k := k0) (h := h) (t := 0) (n := 20)
    fun i _ hi => ⟨by funext b c d; rw [Sha1.f, if_pos (by omega)]; rfl,
      by rw [Sha1.k, if_pos (by omega)]; rfl, hword i (by omega)⟩
  have hloop1 := loop_eq (f := f1) (k := k1) (h := h) (t := 20) (n := 20) fun i hlow hi =>
    ⟨by funext b c d; rw [Sha1.f, if_neg (by omega), if_pos hi]; rfl,
      by rw [Sha1.k, if_neg (by omega), if_pos hi]; rfl, hword i (by omega)⟩
  have hloop2 := loop_eq (f := f2) (k := k2) (h := h) (t := 40) (n := 20) fun i hlow hi =>
    ⟨by funext b c d; rw [Sha1.f, if_neg (by omega), if_neg (by omega), if_pos hi]; rfl,
      by rw [Sha1.k, if_neg (by omega), if_neg (by omega), if_pos hi]; rfl, hword i (by omega)⟩
  have hloop3 := loop_eq (f := f3) (k := k3) (h := h) (t := 60) (n := 20) fun i hlow hi =>
    ⟨by funext b c d; rw [Sha1.f, if_neg (by omega), if_neg (by omega), if_neg (by omega)]; rfl,
      by rw [Sha1.k, if_neg (by omega), if_neg (by omega), if_neg (by omega)]; rfl,
      hword i (by omega)⟩
  rw [rounds] at hloop0
  rw [hloop0, hloop1, hloop2, hloop3]
  rfl

/-! ## Messages in pieces -/

/-- The context has taken the message `msg`. -/
structure Absorbed (ctx : Sha1Ctx) (msg : Bytes) : Prop where
  holds : Absorb.Holds compress 64 State.initial msg ctx.h (ctx.m.take ctx.octetsInBuffer)
  numBitsInMsg : ctx.numBitsInMsg = BitVec.ofNat 32 (8 * msg.length)

theorem core_words {block : Bytes} (h : State) : core (words block 16) h = compress h block := by
  refine core_eq (by simp [words]) (fun i hi => ?_) h
  rw [words, Words.getD_map_range, if_pos hi]

theorem absorbed_init (m : Bytes) (size : m.length = 64) : Absorbed (init m size) [] where
  holds := Absorb.holds_nil ..
  numBitsInMsg := rfl

theorem holds_updateLoop {ctx : Sha1Ctx} {msg piece : Bytes} {fuel : Nat}
    (hfuel : piece.length ≤ fuel)
    (hctx : Absorb.Holds compress 64 State.initial msg ctx.h (ctx.m.take ctx.octetsInBuffer)) :
    Absorb.Holds compress 64 State.initial (msg ++ piece) (updateLoop fuel ctx piece).h
      ((updateLoop fuel ctx piece).m.take (updateLoop fuel ctx piece).octetsInBuffer) ∧
      (updateLoop fuel ctx piece).numBitsInMsg = ctx.numBitsInMsg := by
  have hsize := ctx.size
  have hroom := ctx.room
  have hbuf : (ctx.m.take ctx.octetsInBuffer).length = ctx.octetsInBuffer := by
    rw [List.length_take]
    omega
  induction fuel generalizing ctx msg piece with
  | zero =>
    obtain rfl := List.length_eq_zero_iff.1 (Nat.le_zero.1 hfuel)
    rw [List.append_nil]
    exact ⟨hctx, rfl⟩
  | succ fuel ih =>
    unfold updateLoop
    split_ifs with hnil hfull
    · obtain rfl := List.length_eq_zero_iff.1 hnil
      rw [List.append_nil]
      exact ⟨hctx, rfl⟩
    · have hblock : (ctx.m.take ctx.octetsInBuffer ++
          piece.take (64 - ctx.octetsInBuffer)).length = 64 := by
        rw [List.length_append, hbuf, List.length_take]
        omega
      have hwhole := hctx.full (by decide) hblock
      rw [← core_words] at hwhole
      have hshorter : (piece.drop (64 - ctx.octetsInBuffer)).length ≤ fuel := by
        rw [List.length_drop]
        omega
      have hrest := @ih { ctx with
          h := core (words (ctx.m.take ctx.octetsInBuffer ++
            piece.take (64 - ctx.octetsInBuffer)) 16) ctx.h
          m := ctx.m.take ctx.octetsInBuffer ++ piece.take (64 - ctx.octetsInBuffer)
          octetsInBuffer := 0, size := hblock, room := by decide } _ _ hshorter hwhole
        hblock (show 0 < 64 by decide) rfl
      rw [List.append_assoc, List.take_append_drop] at hrest
      exact hrest
    · have hend : (ctx.m.take ctx.octetsInBuffer ++ piece ++
          ctx.m.drop (ctx.octetsInBuffer + piece.length)).take
            (ctx.octetsInBuffer + piece.length) = ctx.m.take ctx.octetsInBuffer ++ piece := by
        exact List.take_left' (by rw [List.length_append, hbuf])
      refine ⟨?_, rfl⟩
      dsimp only
      rw [hend]
      exact hctx.more (by decide) (by rw [List.length_append, hbuf]; omega)

/-- Another piece of the message. -/
theorem Absorbed.update {ctx : Sha1Ctx} {msg : Bytes} (h : ctx.Absorbed msg) (piece : Bytes) :
    (ctx.update piece).Absorbed (msg ++ piece) := by
  have hcounted : Absorb.Holds compress 64 State.initial msg
      ({ ctx with numBitsInMsg := ctx.numBitsInMsg + BitVec.ofNat 32 (8 * piece.length) } :
        Sha1Ctx).h (ctx.m.take ctx.octetsInBuffer) := h.holds
  obtain ⟨hholds, hbits⟩ := holds_updateLoop (Nat.le_refl piece.length) hcounted
  refine ⟨hholds, ?_⟩
  show (updateLoop _ _ _).numBitsInMsg = _
  rw [hbits, h.numBitsInMsg, List.length_append, Nat.mul_add, BitVec.ofNat_add]

/-! ## The end of the message -/

/-- Octet `j` of the message's last octets in `m`, of the mark and of the zeros behind it. -/
def padOctet (m : Bytes) (b j : Nat) : UInt8 :=
  if j < b then m.getD j 0 else if j = b then 0x80 else 0

/-- Word `i` of them. -/
def padWord (m : Bytes) (b i : Nat) : Word :=
  word (padOctet m b (4 * i)) (padOctet m b (4 * i + 1)) (padOctet m b (4 * i + 2))
    (padOctet m b (4 * i + 3))

theorem words_succ (m : Bytes) (q : Nat) : words m (q + 1) = words m q ++ [wordAt m q] := by
  rw [words, List.range_succ, List.map_append]
  rfl

theorem getD_words (m : Bytes) (q i : Nat) :
    (words m q).getD i 0 = if i < q then wordAt m i else 0 :=
  Words.getD_map_range _ _ _

theorem length_words (m : Bytes) (q : Nat) : (words m q).length = q := by
  simp [words]

/-- The words before the mark, the one with the mark, and zeros. -/
theorem getD_marked {m : Bytes} {b q i : Nat} {mark : Word} {zeros : List Word}
    (hq : b / 4 = q) (hmark : mark = padWord m b q) (hzeros : ∀ j, zeros.getD j 0 = 0) :
    (words m q ++ mark :: zeros).getD i 0 = padWord m b i := by
  by_cases hi : i < q
  · rw [List.getD_append _ _ _ _ (by rwa [length_words]), getD_words, if_pos hi]
    unfold padWord padOctet wordAt
    rw [if_pos (by omega), if_pos (by omega), if_pos (by omega), if_pos (by omega)]
  · rw [List.getD_append_right _ _ _ _ (by rw [length_words]; omega), length_words]
    by_cases heq : i = q
    · rw [heq, Nat.sub_self, List.getD_cons_zero, hmark]
    · obtain ⟨j, hj⟩ : ∃ j, i - q = j + 1 := ⟨i - q - 1, by omega⟩
      rw [hj, List.getD_cons_succ, hzeros]
      unfold padWord padOctet
      rw [if_neg (by omega), if_neg (by omega), if_neg (by omega), if_neg (by omega),
        if_neg (by omega), if_neg (by omega), if_neg (by omega), if_neg (by omega)]
      rfl

theorem set_words (m : Bytes) (q : Nat) (x : Word) :
    (words m (q + 1)).set q x = words m q ++ [x] := by
  rw [words_succ, List.set_append_right _ _ (by rw [length_words]), length_words, Nat.sub_self]
  rfl

theorem padOctet_of_lt {m : Bytes} {b j : Nat} (h : j < b) : padOctet m b j = m.getD j 0 :=
  if_pos h

theorem padOctet_self (m : Bytes) (b : Nat) : padOctet m b b = 0x80 := by
  rw [padOctet, if_neg (Nat.lt_irrefl b), if_pos rfl]

theorem padOctet_of_gt {m : Bytes} {b j : Nat} (h : b < j) : padOctet m b j = 0 := by
  rw [padOctet, if_neg (by omega), if_neg (by omega)]

theorem length_markedWords (m : Bytes) (b : Nat) :
    (markedWords m b).length = (b + 3) / 4 + 1 := by
  unfold markedWords
  dsimp only
  split <;> simp [length_words]

theorem getD_markedWords (m : Bytes) (b n i : Nat) :
    (markedWords m b ++ List.replicate n 0).getD i 0 = padWord m b i := by
  have hzeros : ∀ n j, (List.replicate n (0 : Word)).getD j 0 = 0 := Words.getD_zeros
  obtain ⟨q, hq⟩ : ∃ q, b / 4 = q := ⟨_, rfl⟩
  unfold markedWords
  have hcases : b % 4 = 3 ∨ b % 4 = 2 ∨ b % 4 = 1 ∨ b % 4 = 0 := by omega
  rcases hcases with htail | htail | htail | htail <;> simp only [htail]
  · have hb : b = 4 * q + 3 := by omega
    rw [show (b + 3) / 4 = q + 1 by omega, Nat.add_sub_cancel, set_words, List.append_assoc,
      List.append_assoc]
    refine getD_marked hq ?_ (hzeros (n + 1))
    rw [wordAt, word_mark_3, padWord, padOctet_of_lt (by omega), padOctet_of_lt (by omega),
      padOctet_of_lt (by omega), show 4 * q + 3 = b by omega, padOctet_self]
  · have hb : b = 4 * q + 2 := by omega
    rw [show (b + 3) / 4 = q + 1 by omega, Nat.add_sub_cancel, set_words, List.append_assoc,
      List.append_assoc]
    refine getD_marked hq ?_ (hzeros (n + 1))
    rw [wordAt, word_mark_2, padWord, padOctet_of_lt (by omega), padOctet_of_lt (by omega),
      padOctet_of_gt (j := 4 * q + 3) (by omega), show 4 * q + 2 = b by omega, padOctet_self]
  · have hb : b = 4 * q + 1 := by omega
    rw [show (b + 3) / 4 = q + 1 by omega, Nat.add_sub_cancel, set_words, List.append_assoc,
      List.append_assoc]
    refine getD_marked hq ?_ (hzeros (n + 1))
    rw [wordAt, word_mark_1, padWord, padOctet_of_lt (by omega),
      padOctet_of_gt (j := 4 * q + 2) (by omega), padOctet_of_gt (j := 4 * q + 3) (by omega),
      show 4 * q + 1 = b by omega, padOctet_self]
  · have hb : b = 4 * q := by omega
    rw [show (b + 3) / 4 = q by omega, List.append_assoc]
    refine getD_marked hq ?_ (hzeros n)
    rw [padWord, padOctet_of_gt (j := 4 * q + 1) (by omega),
      padOctet_of_gt (j := 4 * q + 2) (by omega), padOctet_of_gt (j := 4 * q + 3) (by omega),
      show 4 * q = b by omega, padOctet_self]
    rfl

/-! The padded end of a message of `n` octets whose last octets are the first ones of `m`. -/

section Padded

variable {m : Bytes} {b n : Nat}

/-- Where the number of bits begins. -/
def lengthAt (b : Nat) : Nat := if b < 56 then 56 else 120

theorem getD_padded (hm : m.length = 64) (hb : n % 64 = b) {j : Nat} (hj : j < lengthAt b) :
    (m.take b ++ padding n).getD j 0 = padOctet m b j := by
  have hlt : b < 64 := hb ▸ Nat.mod_lt n (by decide)
  have htake : (m.take b).length = b := by
    rw [List.length_take]
    omega
  unfold lengthAt at hj
  unfold padOctet padding
  split_ifs with hmsg hmark
  · rw [List.getD_append _ _ _ _ (by rwa [htake]), List.getD_eq_getElem?_getD,
      List.getElem?_take_of_lt hmsg, ← List.getD_eq_getElem?_getD]
  · rw [List.getD_append_right _ _ _ _ (by rw [htake]; omega), htake, hmark, Nat.sub_self]
    rfl
  · obtain ⟨k, rfl⟩ : ∃ k, j = b + (k + 1) := ⟨j - b - 1, by omega⟩
    have hk : k < (119 - n % 64) % 64 := by
      split_ifs at hj <;> omega
    rw [List.getD_append_right _ _ _ _ (by rw [htake]; omega), htake, Nat.add_sub_cancel_left,
      List.cons_append, List.getD_cons_succ, List.getD_append _ _ _ _ (by simpa using hk),
      List.getD_eq_getElem?_getD, List.getElem?_replicate, if_pos hk]
    rfl

theorem wordAt_padded (hm : m.length = 64) (hb : n % 64 = b) (i : Nat)
    (hi : 4 * i < lengthAt b) : wordAt (m.take b ++ padding n) i = padWord m b i := by
  have hlast : 4 * i + 3 < lengthAt b := by
    unfold lengthAt at *
    split_ifs at * <;> omega
  rw [wordAt, padWord, getD_padded hm hb hi, getD_padded hm hb (by omega),
    getD_padded hm hb (by omega), getD_padded hm hb hlast]

/-- The last two words are the number of bits. -/
theorem wordAt_padded_last (hm : m.length = 64) (hb : n % 64 = b) :
    wordAt (m.take b ++ padding n) (lengthAt b / 4) = BitVec.ofNat 32 (8 * n / 2 ^ 32) ∧
      wordAt (m.take b ++ padding n) (lengthAt b / 4 + 1) = BitVec.ofNat 32 (8 * n) := by
  have hlt : b < 64 := hb ▸ Nat.mod_lt n (by decide)
  have hfront : ∀ j, (m.take b ++ padding n).getD (lengthAt b + j) 0 =
      (Framing.header (8 * n / 2 ^ 32) ++ Framing.header (8 * n)).getD j 0 := by
    intro j
    have hlen : (m.take b ++ 0x80 :: List.replicate ((119 - n % 64) % 64) 0).length =
        lengthAt b := by
      rw [List.length_append, List.length_take, List.length_cons, List.length_replicate]
      unfold lengthAt
      split_ifs <;> omega
    rw [padding, ← List.append_assoc, List.getD_append_right _ _ _ _ (by omega), hlen,
      Nat.add_sub_cancel_left]
  have hdiv : 4 * (lengthAt b / 4) = lengthAt b := by
    unfold lengthAt
    split_ifs <;> rfl
  constructor
  · rw [wordAt, hdiv, hfront 1, hfront 2, hfront 3]
    have hfirst := hfront 0
    rw [Nat.add_zero] at hfirst
    rw [hfirst, ← word_header]
    rfl
  · rw [wordAt, Nat.mul_add, hdiv, Nat.add_assoc, Nat.add_assoc, Nat.add_assoc, hfront, hfront,
      hfront, hfront, ← word_header (8 * n)]
    rfl

end Padded

/-- The words that `sha1_final` makes first are those of the last block, or of the last but one
where the number of bits needs a block of its own. -/
theorem core_finalWords {ctx : Sha1Ctx} {n : Nat} (hb : n % 64 = ctx.octetsInBuffer)
    (hn : n < 2 ^ 29) (hbits : ctx.numBitsInMsg = BitVec.ofNat 32 (8 * n)) (h : State) :
    core ctx.finalWords h =
      compress h ((ctx.m.take ctx.octetsInBuffer ++ padding n).take (4 * 16)) := by
  have hroom := ctx.room
  have hlen := length_markedWords ctx.m ctx.octetsInBuffer
  have hword := getD_markedWords ctx.m ctx.octetsInBuffer
    (15 - (markedWords ctx.m ctx.octetsInBuffer).length)
  have hwlen : (markedWords ctx.m ctx.octetsInBuffer ++
      List.replicate (15 - (markedWords ctx.m ctx.octetsInBuffer).length) 0).length =
        max 15 ((ctx.octetsInBuffer + 3) / 4 + 1) := by
    rw [List.length_append, List.length_replicate, hlen]
    omega
  have hpad := wordAt_padded ctx.size hb
  obtain ⟨hhigh, hlow⟩ := wordAt_padded_last ctx.size hb
  rw [Nat.div_eq_of_lt (show 8 * n < 2 ^ 32 by omega)] at hhigh
  unfold lengthAt at hpad hhigh hlow
  have htake : ∀ (w : List Word) (x : Word) i, w.length ≥ 15 →
      (w.take 15 ++ [x]).getD i 0 = if i < 15 then w.getD i 0 else if i = 15 then x else 0 := by
    intro w x i hw
    have hw15 : (w.take 15).length = 15 := by
      rw [List.length_take]
      omega
    split_ifs with hi hlast
    · rw [List.getD_append _ _ _ _ (by rwa [hw15]), List.getD_eq_getElem?_getD,
        List.getElem?_take_of_lt hi, ← List.getD_eq_getElem?_getD]
    · rw [List.getD_append_right _ _ _ _ (by rw [hw15]; omega), hw15, hlast]
      rfl
    · have hpast : (w.take 15 ++ [x]).length ≤ i := by
        rw [List.length_append, hw15, List.length_singleton]
        omega
      exact List.getD_eq_default _ _ hpast
  refine core_eq ?_ (fun i hi => ?_) h
  · unfold finalWords
    dsimp only
    split_ifs
    · rw [List.length_append, List.length_take, hwlen, List.length_singleton]
      omega
    · rw [List.length_append, List.length_take, hwlen, List.length_singleton]
      omega
    · rw [List.length_take, hwlen]
      omega
  · rw [wordAt_take hi]
    unfold finalWords
    dsimp only
    split_ifs with hone htwo
    · rw [if_pos hone] at hpad hhigh hlow
      rw [htake _ _ _ (by rw [hwlen]; omega), hword]
      split_ifs with hi15 hlast
      · by_cases hi14 : i = 14
        · rw [hi14, hhigh, padWord, padOctet_of_gt (by omega), padOctet_of_gt (by omega),
            padOctet_of_gt (by omega), padOctet_of_gt (by omega)]
          rfl
        · exact (hpad i (by omega)).symm
      · rw [hlast, hlow, hbits]
      · omega
    · rw [if_neg hone] at hpad
      rw [htake _ _ _ (by rw [hwlen]; omega), hword, hpad i (by omega)]
      split_ifs with hi15 hlast
      · rfl
      · rw [hlast, padWord, padOctet_of_gt (by omega), padOctet_of_gt (by omega),
          padOctet_of_gt (by omega), padOctet_of_gt (by omega)]
        rfl
      · omega
    · rw [if_neg hone] at hpad
      rw [List.getD_eq_getElem?_getD, List.getElem?_take_of_lt hi, ← List.getD_eq_getElem?_getD,
        hword, hpad i (by omega)]

/-- The block for the number of bits. -/
theorem core_lengthBlock {ctx : Sha1Ctx} {n : Nat} (hb : n % 64 = ctx.octetsInBuffer)
    (hn : n < 2 ^ 29) (hbits : ctx.numBitsInMsg = BitVec.ofNat 32 (8 * n))
    (hlong : 56 ≤ ctx.octetsInBuffer) (h : State) :
    core (List.replicate 15 0 ++ [ctx.numBitsInMsg]) h =
      compress h ((ctx.m.take ctx.octetsInBuffer ++ padding n).drop (4 * 16)) := by
  have hroom := ctx.room
  have hpad := wordAt_padded ctx.size hb
  obtain ⟨hhigh, hlow⟩ := wordAt_padded_last ctx.size hb
  rw [Nat.div_eq_of_lt (show 8 * n < 2 ^ 32 by omega)] at hhigh
  unfold lengthAt at hpad hhigh hlow
  rw [if_neg (by omega)] at hpad hhigh hlow
  refine core_eq rfl (fun i hi => ?_) h
  rw [wordAt_drop]
  by_cases hzero : i < 14
  · rw [hpad (16 + i) (by omega), padWord, padOctet_of_gt (by omega), padOctet_of_gt (by omega),
      padOctet_of_gt (by omega), padOctet_of_gt (by omega),
      List.getD_append _ _ _ _ (by rw [List.length_replicate]; omega), Words.getD_zeros]
    rfl
  · have hcases : i = 14 ∨ i = 15 := by omega
    rcases hcases with rfl | rfl
    · rw [hhigh]
      rfl
    · rw [hlow, ← hbits]
      rfl

/-- The hash of a message that came in any pieces is the hash of the whole message. -/
theorem final_eq {ctx : Sha1Ctx} {msg : Bytes} (h : ctx.Absorbed msg) (hlen : msg.length < 2 ^ 29) :
    ctx.final.1 = Sha1.hash msg := by
  have hroom := ctx.room
  have hsize := ctx.size
  have hb : msg.length % 64 = ctx.octetsInBuffer := by
    rw [← Absorb.length_rest, ← h.holds.2, List.length_take]
    omega
  have hpadded := length_padding msg.length
  have hend := h.holds.absorb_end (by decide) (padding msg.length)
  have hlast : (ctx.m.take ctx.octetsInBuffer ++ padding msg.length).length =
      if ctx.octetsInBuffer < 56 then 64 else 128 := by
    rw [← hb, ← hpadded, List.length_append, List.length_take, hb]
    omega
  rw [Sha1.hash, hend]
  unfold final
  dsimp only
  rw [core_finalWords hb hlen h.numBitsInMsg]
  congr 1
  split_ifs with hlong
  · rw [core_lengthBlock hb hlen h.numBitsInMsg hlong]
    generalize ctx.m.take ctx.octetsInBuffer ++ padding msg.length = padded at *
    rw [if_neg (by omega)] at hlast
    have hdrop : (padded.drop (4 * 16)).length = 64 := by
      rw [List.length_drop, hlast]
    have htake : (padded.take (4 * 16)).length = 64 := by
      rw [List.length_take, hlast]
      rfl
    have htwo :
        Absorb.absorb compress 64 ctx.h (padded.take (4 * 16) ++ padded.drop (4 * 16)) = _ :=
      Absorb.absorb_block (by decide) htake
    rw [List.take_append_drop] at htwo
    rw [htwo, Absorb.absorb_one (by decide) hdrop]
  · generalize ctx.m.take ctx.octetsInBuffer ++ padding msg.length = padded at *
    rw [if_pos (by omega)] at hlast
    rw [Absorb.absorb_one (by decide) hlast, List.take_of_length_le (Nat.le_of_eq hlast)]

theorem Absorbed.updates {ctx : Sha1Ctx} {msg : Bytes} (h : ctx.Absorbed msg)
    (pieces : List Bytes) : (pieces.foldl Sha1Ctx.update ctx).Absorbed (msg ++ pieces.flatten) := by
  induction pieces generalizing ctx msg with
  | nil => simpa using h
  | cons piece pieces ih =>
    rw [List.flatten_cons, ← List.append_assoc]
    exact ih (h.update piece)

/-- Whatever the buffer held before and however the message is cut, the result is its hash. -/
theorem final_updates {m : Bytes} (size : m.length = 64) {pieces : List Bytes}
    (hlen : pieces.flatten.length < 2 ^ 28) :
    (pieces.foldl update (init m size)).final.1 = Sha1.hash pieces.flatten :=
  final_eq ((absorbed_init m size).updates pieces) (Nat.lt_trans hlen (by decide))

theorem final_updates_stale :
    ([[1, 2], [3]].foldl update (init (List.replicate 64 255) rfl)).final.1 =
      Sha1.hash [1, 2, 3] :=
  final_updates rfl (show [[1, 2], [3]].flatten.length < 2 ^ 28 by decide)

end Sha1Ctx

end MediaGateway.Libsrtp
