import MediaGateway.CommonType
import MediaGateway.Libsrtp.Sha1

/-!
# The HMAC of libsrtp

`hmac.c`.  A context keeps the hash context that has taken the key, so that a message begins with
a copy of it.  `compute_eq` says that the tag of a message that came in any pieces is the one of
the standard, and that the context is then ready for the next message.
-/

namespace MediaGateway.Libsrtp

open Lib

/-- `hmac_ctx_t`. -/
structure HmacCtx where
  opad : Bytes
  ctx : Sha1Ctx
  initCtx : Sha1Ctx

namespace HmacCtx

/-- `hmac_init`, on a context whose buffer holds `m`. -/
def init (m : Bytes) (size : m.length = 64) (key : Bytes) : Except ErrStatus HmacCtx :=
  if key.length > 20 then .error .badParam
  else
    let ipad := key.map (· ^^^ 0x36) ++ List.replicate (64 - key.length) 0x36
    let opad := key.map (· ^^^ 0x5c) ++ List.replicate (64 - key.length) 0x5c
    let initCtx := (Sha1Ctx.init m size).update ipad
    .ok { opad, ctx := initCtx, initCtx }

/-- `hmac_start`. -/
def start (state : HmacCtx) : HmacCtx := { state with ctx := state.initCtx }

/-- `hmac_update`. -/
def update (state : HmacCtx) (message : Bytes) : HmacCtx :=
  { state with ctx := state.ctx.update message }

/-- `hmac_compute`: the tag and the context after it. -/
def compute (state : HmacCtx) (message : Bytes) (tagLen : Nat) :
    Except ErrStatus (Bytes × HmacCtx) :=
  if tagLen > 20 then .error .badParam
  else
    let inner := (state.update message).ctx.final
    let outer := (((Sha1Ctx.init inner.2.m inner.2.size).update state.opad).update inner.1).final
    .ok (outer.1.take tagLen, { state with ctx := outer.2 })

/-- The context has the key `key`. -/
structure Keyed (state : HmacCtx) (key : Bytes) : Prop where
  short : key.length ≤ 20
  opad : state.opad = Sha1.keyPad 0x5c key
  initCtx : state.initCtx.Absorbed (Sha1.keyPad 0x36 key)

/-- The context has taken the message `msg` since it was started. -/
structure Taken (state : HmacCtx) (key msg : Bytes) : Prop extends Keyed state key where
  ctx : state.ctx.Absorbed (Sha1.keyPad 0x36 key ++ msg)

variable {state : HmacCtx} {key msg : Bytes}

theorem map_xor_pad (key : Bytes) (c : UInt8) :
    key.map (· ^^^ c) ++ List.replicate (64 - key.length) c = Sha1.keyPad c key := by
  rw [Sha1.keyPad, List.map_append, List.map_replicate, UInt8.zero_xor]

theorem keyed_init {m : Bytes} {size : m.length = 64} (h : init m size key = .ok state) :
    state.Keyed key := by
  unfold init at h
  split at h
  · cases h
  · rename_i hshort
    obtain rfl := Except.ok.inj h
    refine ⟨Nat.le_of_not_lt hshort, map_xor_pad key 0x5c, ?_⟩
    dsimp only
    rw [map_xor_pad]
    exact (Sha1Ctx.absorbed_init m size).update _

theorem Keyed.start (h : state.Keyed key) : state.start.Taken key [] where
  toKeyed := ⟨h.short, h.opad, h.initCtx⟩
  ctx := by
    rw [List.append_nil]
    exact h.initCtx

theorem Taken.update (h : state.Taken key msg) (piece : Bytes) :
    (state.update piece).Taken key (msg ++ piece) where
  toKeyed := ⟨h.short, h.opad, h.initCtx⟩
  ctx := by
    rw [← List.append_assoc]
    exact h.ctx.update piece

/-- The tag of a message, and the context after it. -/
theorem Taken.compute {tagLen : Nat} {piece : Bytes} (h : state.Taken key msg)
    (htag : tagLen ≤ 20) (hlen : (msg ++ piece).length + 64 < 2 ^ 29) :
    ∃ next, state.compute piece tagLen =
        .ok ((Sha1.hmac key (msg ++ piece)).take tagLen, next) ∧ next.Keyed key := by
  have hipad := Sha1.length_keyPad (Nat.le_trans h.short (by decide : 20 ≤ 64)) 0x36
  have hopad := Sha1.length_keyPad (Nat.le_trans h.short (by decide : 20 ≤ 64)) 0x5c
  have hinner : (state.update piece).ctx.final.1 =
      Sha1.hash (Sha1.keyPad 0x36 key ++ (msg ++ piece)) :=
    Sha1Ctx.final_eq (h.update piece).ctx (by rw [List.length_append, hipad]; omega)
  have houter := fun m size => Sha1Ctx.final_eq
    (((Sha1Ctx.absorbed_init m size).update (Sha1.keyPad 0x5c key)).update
      (Sha1.hash (Sha1.keyPad 0x36 key ++ (msg ++ piece))))
    (by rw [List.nil_append, List.length_append, hopad, Sha1.length_hash]; decide)
  unfold HmacCtx.compute
  rw [if_neg (Nat.not_lt.2 htag)]
  dsimp only
  rw [hinner, h.opad, houter]
  exact ⟨_, rfl, h.short, rfl, h.initCtx⟩

/-- The tag of a message in any pieces. -/
theorem compute_eq {tagLen : Nat} {pieces : List Bytes} {last : Bytes} (h : state.Keyed key)
    (htag : tagLen ≤ 20) (hlen : (pieces.flatten ++ last).length + 64 < 2 ^ 28) :
    ∃ next, (pieces.foldl update state.start).compute last tagLen =
        .ok ((Sha1.hmac key (pieces.flatten ++ last)).take tagLen, next) ∧ next.Keyed key := by
  have htaken : ∀ {s : HmacCtx} {msg : Bytes} (ps : List Bytes), s.Taken key msg →
      (ps.foldl update s).Taken key (msg ++ ps.flatten) := by
    intro s msg ps hs
    induction ps generalizing s msg with
    | nil => simpa using hs
    | cons p ps ih =>
      rw [List.flatten_cons, ← List.append_assoc]
      exact ih (hs.update p)
  exact (htaken pieces h.start).compute htag (Nat.lt_trans hlen (by decide))

theorem compute_eq_pieces :
    ∃ state, init (List.replicate 64 0) rfl [7] = .ok state ∧
      ∃ next, ([[1, 2], [3]].foldl update state.start).compute [4] 10 =
        .ok ((Sha1.hmac [7] [1, 2, 3, 4]).take 10, next) ∧ next.Keyed [7] :=
  have hkeyed := keyed_init (show init (List.replicate 64 0) rfl [7] = .ok _ from rfl)
  have hlen : ([[1, 2], [3]].flatten ++ [4] : Bytes).length + 64 < 2 ^ 28 := by decide
  ⟨_, rfl, compute_eq hkeyed (by decide) hlen⟩

end HmacCtx

end MediaGateway.Libsrtp
