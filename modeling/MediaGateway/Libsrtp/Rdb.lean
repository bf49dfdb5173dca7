import MediaGateway.CommonType
import MediaGateway.Lib.Window
import MediaGateway.Libsrtp.Datatypes
import MediaGateway.Libsrtp.Rdbx

/-!
# The replay database of SRTCP

`rdb.c`.  An SRTCP packet carries its whole index, of 31 bits, so nothing is
guessed here, and the database is the window of `Lib.Window` over 128 indices
without a condition on the packets (`rdb_refines_window`).  It keeps the index of
the first bit of its bitmask, not that of the last one as `rdbx_t` does.

A sender uses the same record as a counter.  `incrementN_eq` says what the
counter does in any number of calls: it passes one index more than 31 bits have
room for, and it starts again from 0 when 32 bits are full.
-/

namespace MediaGateway.Libsrtp

open Lib

/-- `rdb_bits_in_bitmask`. -/
def rdbBitsInBitmask : Nat := 128

/-- `rdb_t`. -/
structure Rdb where
  windowStart : Nat
  bitmask : V128
  deriving DecidableEq, Repr

namespace Rdb

/-- `rdb_init`. -/
def init : Rdb := { windowStart := 0, bitmask := V128.zero }

/-- `rdb_check`, which compares on 64 bits. -/
def check (r : Rdb) (pIndex : Nat) : ErrStatus :=
  if r.windowStart + rdbBitsInBitmask ≤ pIndex then .ok
  else if pIndex < r.windowStart then .replayOld
  else if r.bitmask.getBit (pIndex - r.windowStart) then .replayFail
  else .ok

/-- `rdb_add_index` of an index that is not behind the window. -/
def addIndex (r : Rdb) (pIndex : Nat) : Rdb :=
  let delta := pIndex - r.windowStart
  if delta < rdbBitsInBitmask then
    { r with bitmask := r.bitmask.setBit delta }
  else
    { windowStart := (r.windowStart + (delta - (rdbBitsInBitmask - 1))) % 2 ^ 32
      bitmask := (r.bitmask.leftShift (delta - (rdbBitsInBitmask - 1))).setBit
        (rdbBitsInBitmask - 1) }

/-- `rdb_increment`. -/
def increment (r : Rdb) : ErrStatus × Rdb :=
  (if r.windowStart > 0x7fffffff then .keyExpired else .ok,
    { r with windowStart := (r.windowStart + 1) % 2 ^ 32 })

/-- `rdb_get_value`. -/
def getValue (r : Rdb) : Nat := r.windowStart

/-! ## The window -/

/-- The database has added the indices `seen`. -/
structure Tracks (r : Rdb) (seen : List Nat) : Prop where
  windowStart : r.windowStart = Window.highest seen - 127
  bits : ∀ k < 128, r.bitmask.getBit k = true ↔ r.windowStart + k ∈ seen

variable {r : Rdb} {seen : List Nat} {i : Nat}

theorem tracks_init : Tracks init [] where
  windowStart := rfl
  bits := by
    intro k _
    simp [init]

/-- `rdb_check` of an index is the verdict of the window on it. -/
theorem Tracks.check_eq (h : r.Tracks seen) (i : Nat) :
    r.check i = Rdbx.status (Window.verdict 128 seen i) := by
  have hstart := h.windowStart
  unfold check rdbBitsInBitmask
  split_ifs with hahead hold hbit
  · rw [Window.verdict_of_highest_lt (by omega)]
    rfl
  · rw [Window.verdict, if_pos (by omega)]
    rfl
  all_goals
    have hmem := h.bits (i - r.windowStart) (by omega)
    rw [Nat.add_sub_cancel' (Nat.le_of_not_lt hold)] at hmem
    rw [Window.verdict, if_neg (by omega)]
  · rw [if_pos (hmem.1 hbit)]
    rfl
  · rw [if_neg (mt hmem.2 hbit)]
    rfl

/-- An index that the window takes is added to it. -/
theorem Tracks.addIndex (h : r.Tracks seen) (hfresh : Window.verdict 128 seen i = .fresh)
    (hmax : i < 2 ^ 31) : (r.addIndex i).Tracks (seen ++ [i]) := by
  obtain ⟨hwindow, -⟩ := Window.verdict_fresh_iff.1 hfresh
  have hstart := h.windowStart
  unfold Rdb.addIndex rdbBitsInBitmask
  dsimp only
  split_ifs with hin
  · refine ⟨?_, fun k hk => ?_⟩
    · show r.windowStart = _
      rw [Window.highest_snoc]
      omega
    · show (r.bitmask.setBit _).getBit k = true ↔ r.windowStart + k ∈ _
      rw [V128.getBit_setBit hin, Bool.or_eq_true, decide_eq_true_iff, h.bits k hk,
        List.mem_append, List.mem_singleton, or_comm]
      exact or_congr Iff.rfl (by omega)
  · have hshift : (r.windowStart + (i - r.windowStart - (128 - 1))) % 2 ^ 32 = i - 127 := by
      rw [Nat.mod_eq_of_lt (by omega)]
      omega
    rw [hshift]
    refine ⟨?_, fun k hk => ?_⟩
    · show i - 127 = _
      rw [Window.highest_snoc]
      omega
    · show ((r.bitmask.leftShift _).setBit _).getBit k = true ↔ i - 127 + k ∈ _
      rw [V128.getBit_setBit (by decide), V128.getBit_leftShift, Bool.or_eq_true,
        decide_eq_true_iff, List.mem_append, List.mem_singleton, or_comm]
      refine or_congr ?_ (by omega)
      by_cases hold : k + (i - r.windowStart - (128 - 1)) < 128
      · have hsum : r.windowStart + (k + (i - r.windowStart - (128 - 1))) = i - 127 + k := by
          omega
        rw [h.bits _ hold, hsum]
      · -- bits above the old window were shifted in
        have hnew : i - 127 + k ∉ seen := fun hmem => by
          have hle := Window.le_highest hmem
          omega
        rw [V128.getBit_of_le (Nat.le_of_not_lt hold)]
        simp [hnew]

/-! ## Runs -/

/-- What a receiver does with an authentic packet that has the index `i`. -/
def receive : Transducer Rdb Nat (Nat × ErrStatus) where
  step := fun r i => (if r.check i = .ok then r.addIndex i else r, [(i, r.check i)])

theorem receive_step (r : Rdb) (i : Nat) :
    receive.step r i = (if r.check i = .ok then r.addIndex i else r, [(i, r.check i)]) :=
  rfl

theorem Tracks.receive (h : r.Tracks seen) (hmax : i < 2 ^ 31) :
    (receive.step r i).1.Tracks ((Window.window 128).step seen i).1 ∧
      (receive.step r i).2 = ((Window.window 128).step seen i).2.map Rdbx.entry := by
  rw [receive_step, Window.window_step, h.check_eq]
  by_cases hfresh : Window.verdict 128 seen i = .fresh
  · rw [if_pos (Rdbx.status_eq_ok.2 hfresh), if_pos hfresh]
    exact ⟨h.addIndex hfresh hmax, rfl⟩
  · rw [if_neg (mt Rdbx.status_eq_ok.1 hfresh), if_neg hfresh]
    exact ⟨h, rfl⟩

/-- The receiver does to every sequence of indices what the window does. -/
theorem rdb_refines_window {is : List Nat} (h : ∀ i ∈ is, i < 2 ^ 31) :
    (receive.run init is).2 = ((Window.window 128).run [] is).2.map Rdbx.entry :=
  (Transducer.run_refines (P := fun _ i => i < 2 ^ 31) (fun _ _ _ => Tracks.receive)
    tracks_init (Transducer.meets_of_forall h)).2

theorem rdb_refines_window_far :
    (receive.run init [1, 2 ^ 31 - 1, 2 ^ 31 - 128, 2 ^ 31 - 129, 2 ^ 31 - 128]).2 =
      ((Window.window 128).run []
        [1, 2 ^ 31 - 1, 2 ^ 31 - 128, 2 ^ 31 - 129, 2 ^ 31 - 128]).2.map Rdbx.entry :=
  rdb_refines_window (by decide)

/-! ## Senders -/

/-- The statuses and the values that `n` calls of `rdb_increment` give. -/
def incrementN (r : Rdb) : Nat → List (ErrStatus × Nat)
  | 0 => []
  | n + 1 => (r.increment.1, r.increment.2.getValue) :: r.increment.2.incrementN n

/-- The calls number the packets from the value on, on 32 bits, and refuse the values above
`2 ^ 31`. -/
theorem incrementN_eq (r : Rdb) (h : r.windowStart < 2 ^ 32) (n : Nat) :
    r.incrementN n = (List.range n).map fun k =>
      (if (r.windowStart + k) % 2 ^ 32 < 2 ^ 31 then .ok else .keyExpired,
        (r.windowStart + k + 1) % 2 ^ 32) := by
  induction n generalizing r with
  | zero => rfl
  | succ n ih =>
    have hnext : r.increment.2.windowStart = (r.windowStart + 1) % 2 ^ 32 := rfl
    have hlt : r.increment.2.windowStart < 2 ^ 32 := Nat.mod_lt _ (by decide)
    rw [incrementN, ih _ hlt, List.range_succ_eq_map, List.map_cons, List.map_map]
    refine List.cons_eq_cons.2 ⟨?_, List.map_congr_left fun k _ => ?_⟩
    · show (if r.windowStart > 0x7fffffff then ErrStatus.keyExpired else ErrStatus.ok,
        (r.windowStart + 1) % 2 ^ 32) = _
      rw [Nat.mod_eq_of_lt (show r.windowStart + 0 < 2 ^ 32 from h)]
      split_ifs with hfull hroom hroom
      · omega
      · rfl
      · rfl
      · omega
    · have hvalue : ((r.windowStart + 1) % 2 ^ 32 + k) % 2 ^ 32 =
          (r.windowStart + (k + 1)) % 2 ^ 32 := by omega
      have hnumber : ((r.windowStart + 1) % 2 ^ 32 + k + 1) % 2 ^ 32 =
          (r.windowStart + (k + 1) + 1) % 2 ^ 32 := by omega
      rw [Function.comp, hnext, hvalue, hnumber]

theorem incrementN_eq_last :
    (Rdb.mk (2 ^ 31 - 1) V128.zero).incrementN 2 =
      [(.ok, 2 ^ 31), (.keyExpired, 2 ^ 31 + 1)] :=
  incrementN_eq (Rdb.mk (2 ^ 31 - 1) V128.zero) (by decide) 2

end Rdb

end MediaGateway.Libsrtp
