import MediaGateway.CommonType
import MediaGateway.Lib.Machine
import MediaGateway.Libsrtp.Datatypes

/-!
# AES in integer counter mode

`aes_icm.c`.  A context keeps the rest of the last keystream block, so a text may come in any
pieces.  `encrypt_stream` says that any sequence of calls xors what one keystream gives, and
that the calls refused because of the counter leave the context as it is.  The number of a
block has 16 bits, and the test before a call counts the bytes of the text as if they were
blocks, so the number never wraps around within a packet.

The block cipher, `aes_encrypt` under the key that `aes_expand_encryption_key` expands, is the
parameter `aes`.
-/

namespace MediaGateway.Libsrtp

open Lib

/-- `aes_icm_ctx_t`.  `expandedKey` is the key that the round keys are expanded from. -/
structure AesIcm where
  counter : Block
  offset : Block
  keystreamBuffer : Block
  expandedKey : Bytes
  bytesInBuffer : Nat
  deriving DecidableEq, Repr

namespace AesIcm

/-- `aes_expand_encryption_key`, as far as its status. -/
def expandEncryptionKey (keyLen : Nat) : ErrStatus :=
  if keyLen = 16 ∨ keyLen = 32 then .ok else .badParam

/-- `aes_icm_context_init`, on a context whose keystream buffer holds `old`. -/
def contextInit (old : Block) (key : Bytes) (keyLen : Nat) : Except ErrStatus AesIcm :=
  let init (baseKeyLen : Nat) : Except ErrStatus AesIcm :=
    let offset := ((Block.ofOctets (key.drop baseKeyLen)).set 14 0).set 15 0
    match expandEncryptionKey baseKeyLen with
    | .ok => .ok
      { counter := offset, offset, keystreamBuffer := old, expandedKey := key.take baseKeyLen,
        bytesInBuffer := 0 }
    | status => .error status
  if 16 < keyLen ∧ keyLen < 30 then init 16
  else if keyLen = 30 ∨ keyLen = 38 ∨ keyLen = 46 then init (keyLen - 14)
  else .error .badParam

/-- `aes_icm_set_iv`. -/
def setIv (c : AesIcm) (iv : Block) : AesIcm :=
  { c with counter := c.offset.xor iv, bytesInBuffer := 0 }

/-- The step of the counter in `aes_icm_advance`. -/
def clock (counter : Block) : Block :=
  let next := counter.set 15 (counter.octet 15 + 1)
  if next.octet 15 = 0 then next.set 14 (next.octet 14 + 1) else next

section Cipher

variable (aes : Bytes → Block → Block)

/-- `aes_icm_advance`. -/
def advance (c : AesIcm) : AesIcm :=
  { c with
    keystreamBuffer := aes c.expandedKey c.counter
    bytesInBuffer := 16
    counter := clock c.counter }

/-- The loop of `aes_icm_encrypt` over whole blocks. -/
def encryptBlocks (c : AesIcm) : Nat → Bytes → AesIcm × Bytes
  | 0, _ => (c, [])
  | n + 1, buf =>
    let next := c.advance aes
    ((next.encryptBlocks n (buf.drop 16)).1,
      Keystream.xor (buf.take 16) next.keystreamBuffer.v8 ++
        (next.encryptBlocks n (buf.drop 16)).2)

/-- The end of `aes_icm_encrypt`, with what is left behind the whole blocks. -/
def encryptTail (c : AesIcm) (buf : Bytes) : AesIcm × Bytes :=
  if buf.length ≠ 0 then
    let next := c.advance aes
    ({ next with bytesInBuffer := 16 - buf.length }, Keystream.xor buf next.keystreamBuffer.v8)
  else
    ({ c with bytesInBuffer := 0 }, [])

/-- `aes_icm_encrypt`: the status, the context and the buffer after it. -/
def encrypt (c : AesIcm) (buf : Bytes) : ErrStatus × AesIcm × Bytes :=
  let left := c.keystreamBuffer.v8.drop (16 - c.bytesInBuffer)
  if (buf.length + c.counter.ctr) % 2 ^ 32 > 0xffff then (.terminus, c, buf)
  else if buf.length ≤ c.bytesInBuffer then
    (.ok, { c with bytesInBuffer := c.bytesInBuffer - buf.length }, Keystream.xor buf left)
  else
    let rest := buf.drop c.bytesInBuffer
    let whole := { c with bytesInBuffer := 0 }.encryptBlocks aes (rest.length / 16) rest
    let tail := whole.1.encryptTail aes (rest.drop (16 * (rest.length / 16)))
    (.ok, tail.1, Keystream.xor (buf.take c.bytesInBuffer) left ++ whole.2 ++ tail.2)

/-! ## The keystream -/

/-- Block `i` of the keystream of a counter. -/
def block (key : Bytes) (start : Block) (i : Nat) : Bytes :=
  (aes key (start.withCtr (start.ctr + i))).v8

/-- The keystream of a counter. -/
def keystream (key : Bytes) (start : Block) : Nat → UInt8 :=
  Keystream.octet 16 (block aes key start)

/-- The context has made `k` blocks of the keystream, and `left` bytes of the last one are
still to be used. -/
structure At (key : Bytes) (start : Block) (c : AesIcm) (k left : Nat) : Prop where
  expandedKey : c.expandedKey = key
  counter : c.counter = start.withCtr (start.ctr + k)
  left_le : left ≤ 16
  bytesInBuffer : c.bytesInBuffer = left
  buffer : 0 < left → 0 < k ∧ c.keystreamBuffer.v8 = block aes key start (k - 1)

end Cipher

variable {aes : Bytes → Block → Block} {key : Bytes} {start : Block} {c : AesIcm} {k left n : Nat}
  {buf : Bytes}

theorem clock_withCtr (b : Block) (n : Nat) : clock (b.withCtr n) = b.withCtr (n + 1) := by
  have hlen : (b.v8.take 14).length = 14 := by simp [b.sixteen]
  have hlow : (b.withCtr n).octet 15 + 1 = UInt8.ofNat (n + 1) := by
    rw [Block.octet_withCtr_15, UInt8.ofNat_add]
    rfl
  have hnext : ((b.withCtr n).set 15 (UInt8.ofNat (n + 1))).v8 =
      b.v8.take 14 ++ [UInt8.ofNat (n / 256), UInt8.ofNat (n + 1)] := by
    show (b.v8.take 14 ++ _).set 15 _ = _
    rw [List.set_append_right _ _ (by rw [hlen]; decide), hlen]
    rfl
  have h14 : ((b.withCtr n).set 15 (UInt8.ofNat (n + 1))).octet 14 = UInt8.ofNat (n / 256) := by
    rw [Block.octet, hnext, List.getD_append_right _ _ _ _ (by rw [hlen]), hlen]
    rfl
  have h15 : ((b.withCtr n).set 15 (UInt8.ofNat (n + 1))).octet 15 = UInt8.ofNat (n + 1) := by
    rw [Block.octet, hnext, List.getD_append_right _ _ _ _ (by rw [hlen]; decide), hlen]
    rfl
  have hzero : UInt8.ofNat (n + 1) = 0 ↔ (n + 1) % 256 = 0 := by
    rw [← UInt8.toNat_inj, UInt8.toNat_ofNat']
    rfl
  unfold clock
  rw [hlow]
  dsimp only
  rw [h15, h14]
  ext1
  rw [Block.v8_withCtr]
  split_ifs with hcarry
  · have hdiv : (n + 1) / 256 = n / 256 + 1 := by
      have hmod := hzero.1 hcarry
      omega
    show ((b.withCtr n).set 15 _).v8.set 14 _ = _
    rw [hnext, List.set_append_right _ _ (by rw [hlen]), hlen, hdiv, UInt8.ofNat_add (n / 256)]
    rfl
  · have hdiv : (n + 1) / 256 = n / 256 := by
      have hmod := mt hzero.2 hcarry
      omega
    rw [hnext, hdiv]

theorem at_setIv (c : AesIcm) (iv : Block) :
    At aes c.expandedKey (c.offset.xor iv) (c.setIv iv) 0 0 where
  expandedKey := rfl
  counter := (Block.withCtr_ctr _).symm
  left_le := Nat.zero_le _
  bytesInBuffer := rfl
  buffer := fun h => absurd h (Nat.lt_irrefl 0)

theorem At.advance (h : At aes key start c k left) :
    At aes key start (c.advance aes) (k + 1) 16 where
  expandedKey := h.expandedKey
  counter := by
    show clock c.counter = _
    rw [h.counter, clock_withCtr, Nat.add_assoc]
  left_le := Nat.le_refl 16
  bytesInBuffer := rfl
  buffer := by
    intro _
    refine ⟨Nat.succ_pos k, ?_⟩
    show (aes c.expandedKey c.counter).v8 = _
    rw [h.expandedKey, h.counter]
    rfl

theorem At.use (h : At aes key start c k left) (hn : n ≤ left) :
    At aes key start { c with bytesInBuffer := n } k n where
  expandedKey := h.expandedKey
  counter := h.counter
  left_le := Nat.le_trans hn h.left_le
  bytesInBuffer := rfl
  buffer := fun hpos => h.buffer (Nat.lt_of_lt_of_le hpos hn)

/-- What is left of the last block is the next part of the keystream. -/
theorem At.xor_buffer (h : At aes key start c k left) (hfit : buf.length ≤ left) :
    Keystream.xor buf (c.keystreamBuffer.v8.drop (16 - left)) =
      Keystream.xorAt (keystream aes key start) (16 * k - left) buf := by
  cases buf with
  | nil => rfl
  | cons b bs =>
    have hleft : 0 < left := Nat.lt_of_lt_of_le (Nat.zero_lt_succ _) hfit
    have hle := h.left_le
    obtain ⟨hk, hbuffer⟩ := h.buffer hleft
    have hdiv : (16 * k - left) / 16 = k - 1 := by omega
    have hmod : (16 * k - left) % 16 = 16 - left := by omega
    have hfits : (16 * k - left) % 16 + (b :: bs).length ≤ 16 := by omega
    have hsixteen : (block aes key start ((16 * k - left) / 16)).length = 16 := Block.sixteen _
    rw [keystream, Keystream.xorAt_block hsixteen hfits, hdiv, hmod, hbuffer]

theorem At.encryptBlocks (h : At aes key start c k left) (hlen : 16 * n ≤ buf.length) :
    (∃ left', At aes key start (c.encryptBlocks aes n buf).1 (k + n) left') ∧
      (c.encryptBlocks aes n buf).2 =
        Keystream.xorAt (keystream aes key start) (16 * k) (buf.take (16 * n)) := by
  induction n generalizing c k left buf with
  | zero => exact ⟨⟨left, h⟩, by simp [AesIcm.encryptBlocks]⟩
  | succ n ih =>
    have hdrop : 16 * n ≤ (buf.drop 16).length := by simp; omega
    obtain ⟨⟨left', hat⟩, hout⟩ := ih h.advance hdrop
    have hfull : (buf.take 16).length ≤ 16 := by
      rw [List.length_take]
      exact Nat.min_le_left ..
    have hfirst := h.advance.xor_buffer hfull
    have htake : buf.take (16 * (n + 1)) = buf.take 16 ++ (buf.drop 16).take (16 * n) := by
      rw [Nat.mul_succ, Nat.add_comm, List.take_add]
    have hlen16 : (buf.take 16).length = 16 := by simp; omega
    refine ⟨⟨left', ?_⟩, ?_⟩
    · rw [Nat.add_right_comm] at hat
      exact hat
    · show Keystream.xor _ _ ++ (AesIcm.encryptBlocks aes _ n _).2 = _
      rw [hout, htake, Keystream.xorAt_append, hlen16]
      exact congrArg (· ++ _) hfirst

theorem At.encryptTail (h : At aes key start c k left) (hlen : buf.length < 16) :
    ∃ k' left', At aes key start (c.encryptTail aes buf).1 k' left' ∧ left' < 16 ∧
      16 * k' = 16 * k + buf.length + left' ∧
      (c.encryptTail aes buf).2 = Keystream.xorAt (keystream aes key start) (16 * k) buf := by
  unfold AesIcm.encryptTail
  split_ifs with hnil
  · have hout := h.advance.xor_buffer (Nat.le_of_lt hlen)
    refine ⟨k + 1, 16 - buf.length, h.advance.use (by omega), by omega, by omega, hout⟩
  · refine ⟨k, 0, h.use (Nat.zero_le _), by decide, by omega, ?_⟩
    rw [List.length_eq_zero_iff.1 (not_not.1 hnil)]
    rfl

/-- A call that is not refused xors the text with the next part of the keystream. -/
theorem At.encrypt (h : At aes key start c k left) (hleft : left < 16)
    (hroom : (buf.length + c.counter.ctr) % 2 ^ 32 ≤ 0xffff) :
    ∃ k' left', At aes key start (c.encrypt aes buf).2.1 k' left' ∧ left' < 16 ∧
      16 * k' + left = 16 * k + buf.length + left' ∧
      c.encrypt aes buf = (.ok, (c.encrypt aes buf).2.1,
        Keystream.xorAt (keystream aes key start) (16 * k - left) buf) := by
  have hbytes := h.bytesInBuffer
  have hpos : left ≤ 16 * k := by
    rcases Nat.eq_zero_or_pos left with rfl | hpos
    · exact Nat.zero_le _
    · have hk := (h.buffer hpos).1
      omega
  unfold AesIcm.encrypt
  dsimp only
  rw [if_neg (Nat.not_lt.2 hroom), hbytes]
  split_ifs with hsmall
  · refine ⟨k, left - buf.length, h.use (Nat.sub_le ..), by omega, by omega, ?_⟩
    rw [h.xor_buffer hsmall]
  · have hcut : buf = buf.take left ++ (buf.drop left).take (16 * ((buf.drop left).length / 16)) ++
        (buf.drop left).drop (16 * ((buf.drop left).length / 16)) := by
      rw [List.append_assoc, List.take_append_drop, List.take_append_drop]
    have hheadlen : (buf.take left).length = left := by simp; omega
    have hhead := h.xor_buffer (Nat.le_of_eq hheadlen)
    have hrestlen : (buf.drop left).length = buf.length - left := List.length_drop ..
    generalize buf.take left = head at *
    generalize buf.drop left = rest at *
    have hwholes : 16 * (rest.length / 16) ≤ rest.length := by omega
    obtain ⟨⟨left₁, hat₁⟩, hwhole⟩ := (h.use (Nat.zero_le _)).encryptBlocks hwholes
    have htaillen : (rest.drop (16 * (rest.length / 16))).length < 16 := by
      rw [List.length_drop]
      omega
    obtain ⟨k', left', hat, hlt, hsum, htail⟩ := hat₁.encryptTail htaillen
    refine ⟨k', left', hat, hlt, ?_, ?_⟩
    · rw [List.length_drop] at hsum
      omega
    · have hwholelen : (rest.take (16 * (rest.length / 16))).length = 16 * (rest.length / 16) := by
        rw [List.length_take]
        omega
      have hall : Keystream.xorAt (keystream aes key start) (16 * k - left) buf =
          Keystream.xor head (c.keystreamBuffer.v8.drop (16 - left)) ++
            (({ c with bytesInBuffer := 0 } : AesIcm).encryptBlocks aes (rest.length / 16)
              rest).2 ++
            ((({ c with bytesInBuffer := 0 } : AesIcm).encryptBlocks aes (rest.length / 16)
              rest).1.encryptTail aes (rest.drop (16 * (rest.length / 16)))).2 := by
        rw [hcut, Keystream.xorAt_append, Keystream.xorAt_append, List.length_append, hheadlen,
          hwholelen, hhead, hwhole, htail]
        congr 2
        · congr 1
          omega
        · omega
      rw [hall]

/-! ## Calls in any order -/

/-- The calls of `aes_icm_encrypt` on one context. -/
def calls (aes : Bytes → Block → Block) : Transducer AesIcm Bytes (ErrStatus × Bytes) where
  step := fun c buf => ((c.encrypt aes buf).2.1, [((c.encrypt aes buf).1, (c.encrypt aes buf).2.2)])

/-- A keystream that has room for blocks up to number 65535, and that takes every byte for a
block when it looks whether a text has room. -/
def stream (ks : Nat → UInt8) (first : Nat) : Transducer Nat Bytes (ErrStatus × Bytes) where
  step := fun pos buf =>
    if buf.length + (first + (pos + 15) / 16) ≤ 0xffff then
      (pos + buf.length, [(.ok, Keystream.xorAt ks pos buf)])
    else (pos, [(.terminus, buf)])

/-- The context stands at position `pos` of the keystream. -/
def Stands (aes : Bytes → Block → Block) (key : Bytes) (start : Block) (c : AesIcm) (pos : Nat) :
    Prop :=
  ∃ k left, At aes key start c k left ∧ left < 16 ∧ 16 * k = pos + left ∧ start.ctr + k ≤ 0xffff

theorem stands_step {pos : Nat} (h : Stands aes key start c pos) (hlen : buf.length < 2 ^ 31) :
    Stands aes key start ((calls aes).step c buf).1
        ((stream (keystream aes key start) start.ctr).step pos buf).1 ∧
      ((calls aes).step c buf).2 =
        ((stream (keystream aes key start) start.ctr).step pos buf).2 := by
  obtain ⟨k, left, hat, hleft, hpos, hctr⟩ := h
  have hk : (pos + 15) / 16 = k := by omega
  have hc : c.counter.ctr = start.ctr + k := by
    rw [hat.counter, Block.ctr_withCtr (by omega)]
  have hmod : (buf.length + (start.ctr + k)) % 2 ^ 32 = buf.length + (start.ctr + k) :=
    Nat.mod_eq_of_lt (by omega)
  unfold calls stream
  dsimp only
  rw [hk]
  split_ifs with hroom
  · have hfits : (buf.length + c.counter.ctr) % 2 ^ 32 ≤ 0xffff := by
      rw [hc, hmod]
      exact hroom
    obtain ⟨k', left', hat', hlt, hsum, henc⟩ := hat.encrypt hleft hfits
    have hat₀ : 16 * k - left = pos := by omega
    refine ⟨⟨k', left', hat', hlt, by omega, by omega⟩, ?_⟩
    rw [henc, hat₀]
  · have henc : c.encrypt aes buf = (.terminus, c, buf) := by
      unfold encrypt
      rw [hc, hmod]
      exact if_pos (Nat.lt_of_not_le hroom)
    rw [henc]
    exact ⟨⟨k, left, hat, hleft, hpos, hctr⟩, rfl⟩

theorem stands_setIv (c : AesIcm) (iv : Block) :
    Stands aes c.expandedKey (c.offset.xor iv) (c.setIv iv) 0 :=
  ⟨0, 0, at_setIv c iv, by decide, rfl, Nat.le_of_lt_succ (Block.ctr_lt _)⟩

/-- The calls after `aes_icm_set_iv` read one keystream from its beginning on. -/
theorem encrypt_stream {bufs : List Bytes} (c : AesIcm) (iv : Block)
    (h : ∀ buf ∈ bufs, buf.length < 2 ^ 31) :
    ((calls aes).run (c.setIv iv) bufs).2 =
      ((stream (keystream aes c.expandedKey (c.offset.xor iv)) (c.offset.xor iv).ctr).run 0
        bufs).2 := by
  have hrun := Transducer.run_refines (T := calls aes)
    (A := stream (keystream aes c.expandedKey (c.offset.xor iv)) (c.offset.xor iv).ctr)
    (P := fun _ buf => buf.length < 2 ^ 31) (f := id)
    (R := Stands aes c.expandedKey (c.offset.xor iv)) (fun c' pos buf hstands hlen => by
      rw [List.map_id]
      exact stands_step hstands hlen)
    (stands_setIv c iv) (Transducer.meets_of_forall h)
  rw [hrun.2, List.map_id]

theorem encrypt_stream_pieces :
    ([[1, 2], List.replicate 20 3, []] : List Bytes).all (·.length < 2 ^ 31) = true ∧
      ∀ (aes : Bytes → Block → Block) (c : AesIcm) (iv : Block),
        ((calls aes).run (c.setIv iv) [[1, 2], List.replicate 20 3, []]).2 =
          ((stream (keystream aes c.expandedKey (c.offset.xor iv)) (c.offset.xor iv).ctr).run 0
            [[1, 2], List.replicate 20 3, []]).2 :=
  ⟨by decide, fun _ c iv => encrypt_stream c iv (by decide)⟩

/-- One call after `aes_icm_set_iv`, where the counter begins at 0. -/
theorem encrypt_setIv (aes : Bytes → Block → Block) {iv : Block} (hctr : (c.offset.xor iv).ctr = 0)
    (hlen : buf.length < 2 ^ 31) :
    ((c.setIv iv).encrypt aes buf).1 = (if buf.length ≤ 0xffff then .ok else .terminus) ∧
      (buf.length ≤ 0xffff → ((c.setIv iv).encrypt aes buf).2.2 =
        Keystream.xorAt (keystream aes c.expandedKey (c.offset.xor iv)) 0 buf) := by
  have hstands : Stands aes c.expandedKey (c.offset.xor iv) (c.setIv iv) 0 := stands_setIv c iv
  have hstep := (stands_step hstands hlen).2
  unfold calls stream at hstep
  rw [hctr] at hstep
  dsimp only at hstep
  split_ifs at hstep with hroom
  · obtain ⟨hstatus, hout⟩ := Prod.mk.inj (List.singleton_inj.1 hstep)
    have hfits : buf.length ≤ 0xffff := by omega
    rw [if_pos hfits]
    exact ⟨hstatus, fun _ => hout⟩
  · obtain ⟨hstatus, -⟩ := Prod.mk.inj (List.singleton_inj.1 hstep)
    have hfull : ¬ buf.length ≤ 0xffff := by omega
    rw [if_neg hfull]
    exact ⟨hstatus, fun hfits => absurd hfits hfull⟩

/-! ## What a call leaves alone -/

theorem key_encryptBlocks (c : AesIcm) (n : Nat) (buf : Bytes) :
    (c.encryptBlocks aes n buf).1.offset = c.offset ∧
      (c.encryptBlocks aes n buf).1.expandedKey = c.expandedKey := by
  induction n generalizing c buf with
  | zero => exact ⟨rfl, rfl⟩
  | succ n ih => exact ih (c.advance aes) (buf.drop 16)

/-- The key and the salt stay. -/
theorem key_encrypt (aes : Bytes → Block → Block) (c : AesIcm) (buf : Bytes) :
    (c.encrypt aes buf).2.1.offset = c.offset ∧
      (c.encrypt aes buf).2.1.expandedKey = c.expandedKey := by
  unfold encrypt
  dsimp only
  split_ifs
  · exact ⟨rfl, rfl⟩
  · exact ⟨rfl, rfl⟩
  · unfold encryptTail
    split_ifs
    · exact key_encryptBlocks { c with bytesInBuffer := 0 } _ _
    · exact key_encryptBlocks { c with bytesInBuffer := 0 } _ _

end AesIcm

end MediaGateway.Libsrtp
