import MediaGateway.CommonType
import Mathlib.Tactic.SplitIfs

/-!
# Key limits

`key.c`.  A master key may protect a bounded number of packets, and a key limit
counts them down.  `updateN_set` says what the calls of `update` report in any
number: the last 65535 packets of the key are announced, and then exactly one
packet is refused.  The counter wraps around there, so the packets after that
one are passed as if the key were new, while `check` calls it expired.
-/

namespace MediaGateway.Libsrtp

/-- `soft_limit`. -/
def softLimit : Nat := 0x10000

/-- `key_state_t`. -/
inductive KeyState
  | normal
  | pastSoftLimit
  | expired
  deriving DecidableEq, Repr

/-- `key_event_t`. -/
inductive KeyEvent
  | normal
  | softLimit
  | hardLimit
  deriving DecidableEq, Repr

/-- `key_limit_ctx_t`. -/
structure KeyLimit where
  numLeft : Nat
  state : KeyState
  deriving DecidableEq, Repr

namespace KeyLimit

/-- `key_limit_set`. -/
def set (s : Nat) : Except ErrStatus KeyLimit :=
  if s < Libsrtp.softLimit then .error .badParam else .ok { numLeft := s, state := .normal }

/-- `key_limit_check`. -/
def check (key : KeyLimit) : ErrStatus :=
  if key.state = .expired then .keyExpired else .ok

/-- `key_limit_update`, whose counter has 64 bits. -/
def update (key : KeyLimit) : KeyEvent × KeyLimit :=
  let numLeft := (key.numLeft + (2 ^ 64 - 1)) % 2 ^ 64
  if numLeft ≥ Libsrtp.softLimit then (.normal, { key with numLeft })
  else
    let state := if key.state = .normal then .pastSoftLimit else key.state
    if numLeft < 1 then (.hardLimit, { numLeft, state := .expired })
    else (.softLimit, { numLeft, state })

/-- The events of `n` calls of `key_limit_update`, and the limit after them. -/
def updateN (key : KeyLimit) : Nat → List KeyEvent × KeyLimit
  | 0 => ([], key)
  | n + 1 => (key.update.1 :: (key.update.2.updateN n).1, (key.update.2.updateN n).2)

variable {key : KeyLimit} {s n : Nat}

theorem update_normal (h : Libsrtp.softLimit < key.numLeft) (hmax : key.numLeft < 2 ^ 64) :
    key.update = (.normal, { key with numLeft := key.numLeft - 1 }) := by
  have hlast : (key.numLeft + (2 ^ 64 - 1)) % 2 ^ 64 = key.numLeft - 1 := by omega
  unfold update
  rw [hlast]
  exact if_pos (Nat.le_sub_one_of_lt h)

theorem update_soft (h : key.numLeft ≤ Libsrtp.softLimit) (hmore : 1 < key.numLeft) :
    key.update = (.softLimit,
      { numLeft := key.numLeft - 1
        state := if key.state = .normal then .pastSoftLimit else key.state }) := by
  unfold Libsrtp.softLimit at h
  have hlast : (key.numLeft + (2 ^ 64 - 1)) % 2 ^ 64 = key.numLeft - 1 := by omega
  unfold update Libsrtp.softLimit
  rw [hlast]
  dsimp only
  rw [if_neg (by omega), if_neg (by omega)]

theorem update_hard (h : key.numLeft = 1) :
    key.update = (.hardLimit, { numLeft := 0, state := .expired }) := by
  unfold update
  rw [h]
  rfl

/-- Past the hard limit the counter starts again from the top. -/
theorem update_wrap (h : key.numLeft = 0) :
    key.update = (.normal, { key with numLeft := 2 ^ 64 - 1 }) := by
  unfold update
  rw [h]
  rfl

theorem updateN_add (key : KeyLimit) (m n : Nat) :
    key.updateN (m + n) =
      ((key.updateN m).1 ++ ((key.updateN m).2.updateN n).1, ((key.updateN m).2.updateN n).2) := by
  induction m generalizing key with
  | zero => simp only [Nat.zero_add, updateN, List.nil_append]
  | succ m ih => simp only [Nat.succ_add, updateN, ih, List.cons_append]

theorem updateN_normal (h : Libsrtp.softLimit + n ≤ key.numLeft) (hmax : key.numLeft < 2 ^ 64) :
    key.updateN n = (List.replicate n .normal, { key with numLeft := key.numLeft - n }) := by
  induction n generalizing key with
  | zero => rfl
  | succ n ih =>
    rw [updateN, update_normal (by omega) hmax]
    dsimp only
    have hrest : ({ key with numLeft := key.numLeft - 1 } : KeyLimit).updateN n = _ :=
      ih (by dsimp only; omega) (by dsimp only; omega)
    rw [hrest, List.replicate_succ]
    dsimp only
    rw [Nat.sub_sub, Nat.add_comm 1]

theorem updateN_soft (h : key.numLeft ≤ Libsrtp.softLimit) (hmore : n < key.numLeft) :
    (key.updateN n).1 = List.replicate n .softLimit ∧
      (key.updateN n).2.numLeft = key.numLeft - n := by
  induction n generalizing key with
  | zero => exact ⟨rfl, rfl⟩
  | succ n ih =>
    rw [updateN, update_soft h (by omega)]
    dsimp only
    generalize (if key.state = .normal then KeyState.pastSoftLimit else key.state) = state
    have hnext : (KeyLimit.mk (key.numLeft - 1) state).numLeft ≤ Libsrtp.softLimit ∧
        n < (KeyLimit.mk (key.numLeft - 1) state).numLeft := by
      dsimp only
      omega
    obtain ⟨hevents, hleft⟩ := ih hnext.1 hnext.2
    rw [hevents, hleft]
    exact ⟨rfl, by dsimp only; omega⟩

/-- After the hard limit the calls report what they report of a new key. -/
theorem updateN_wrap (h : key.numLeft = 0) (hn : n ≤ 2 ^ 64 - Libsrtp.softLimit) :
    (key.updateN n).1 = List.replicate n .normal ∧ (key.updateN n).2.state = key.state := by
  cases n with
  | zero => exact ⟨rfl, rfl⟩
  | succ n =>
    unfold Libsrtp.softLimit at hn
    rw [updateN, update_wrap h]
    dsimp only
    rw [updateN_normal (by unfold Libsrtp.softLimit; dsimp only; omega) (by dsimp only; omega)]
    exact ⟨rfl, rfl⟩

/-- A key set to `s` packets is passed without notice for all but the last 65536 of them and
with a warning for all but the last one, which is refused.  Then it is passed again. -/
theorem updateN_set {m : Nat} (hset : set s = .ok key) (hmax : s < 2 ^ 64)
    (hm : m ≤ 2 ^ 64 - Libsrtp.softLimit) :
    (key.updateN (s + m)).1 =
        List.replicate (s - Libsrtp.softLimit) .normal ++
          (List.replicate (Libsrtp.softLimit - 1) .softLimit ++
            (.hardLimit :: List.replicate m .normal)) ∧
      (key.updateN (s + m)).2.check = .keyExpired := by
  unfold set at hset
  split_ifs at hset with hlow
  obtain rfl := Except.ok.inj hset
  have hparts : s + m = (s - Libsrtp.softLimit) + ((Libsrtp.softLimit - 1) + (m + 1)) := by
    unfold Libsrtp.softLimit at hlow ⊢
    omega
  have hroom : Libsrtp.softLimit + (s - Libsrtp.softLimit) ≤ (KeyLimit.mk s .normal).numLeft := by
    dsimp only
    omega
  have hnormal := updateN_normal hroom hmax
  have hleft : s - (s - Libsrtp.softLimit) = Libsrtp.softLimit := by omega
  dsimp only at hnormal
  rw [hleft] at hnormal
  have hlow : (KeyLimit.mk Libsrtp.softLimit .normal).numLeft ≤ Libsrtp.softLimit := Nat.le_refl _
  obtain ⟨hsoft, hone⟩ := updateN_soft hlow
    (show Libsrtp.softLimit - 1 < Libsrtp.softLimit by decide)
  have hhard := update_hard hone
  have hzero : (KeyLimit.mk 0 .expired).numLeft = 0 := rfl
  obtain ⟨hwrap, hstate⟩ := updateN_wrap hzero hm
  rw [hparts, updateN_add, updateN_add, hnormal]
  dsimp only
  rw [hsoft, updateN, hhard]
  dsimp only
  rw [hwrap]
  exact ⟨rfl, if_pos hstate⟩

theorem updateN_set_least :
    ((KeyLimit.mk 65536 .normal).updateN (65536 + 1)).2.check = .keyExpired :=
  (updateN_set (s := 65536) (m := 1) rfl (by decide) (by decide)).2

end KeyLimit

end MediaGateway.Libsrtp
