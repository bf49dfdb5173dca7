import MediaGateway.CommonType
import MediaGateway.Lib.Window
import MediaGateway.Libsrtp.Datatypes

/-!
# The replay database of SRTP

`rdbx.c`.  An SRTP packet carries the low 16 bits of its index.  `estimateIndex` guesses
the other bits from the highest index so far and returns the guess and its difference to
that index; `check` and `addIndex` go by the difference.

`Tracks` ties a database to the list of the indices it has added, and `check_eq` and
`Tracks.addIndex` say that the bitmask is the window of `Lib.Window` over that list.  Both
need the difference to be what its name says.  `estimateIndex_difference` says when it is: for
a packet from before the last rollover the code returns the distance with the wrong sign, so
that such a packet passes for a new one (`check_of_behind`).  `accepted_once` and
`rdbx_refines_window` are about runs without such packets.
-/

namespace MediaGateway.Libsrtp

open Lib

/-! ## Packet indices -/

/-- `seq_num_median`. -/
def seqNumMedian : Nat := 2 ^ 15

/-- `seq_num_max`. -/
def seqNumMax : Nat := 2 ^ 16

/-- `index_advance`, on 64 bits. -/
def indexAdvance (pi : Nat) (s : Nat) : Nat := (pi + s) % 2 ^ 64

/-- `index_guess`: the difference it returns and the guess it stores. -/
def indexGuess (loc : Nat) (s : Nat) : Int × Nat :=
  let localRoc := loc / 2 ^ 16 % 2 ^ 32
  let localSeq := loc % 2 ^ 16
  if localSeq < seqNumMedian then
    if (s : Int) - localSeq > seqNumMedian then
      ((seqNumMax : Int) - s + localSeq, (localRoc + 2 ^ 32 - 1) % 2 ^ 32 * 2 ^ 16 + s)
    else
      ((s : Int) - localSeq, localRoc * 2 ^ 16 + s)
  else if (localSeq : Int) - seqNumMedian > s then
    ((seqNumMax : Int) - localSeq + s, (localRoc + 1) % 2 ^ 32 * 2 ^ 16 + s)
  else
    ((s : Int) - localSeq, localRoc * 2 ^ 16 + s)

/-! ## `rdbx_t` -/

/-- `rdbx_t`. -/
structure Rdbx where
  index : Nat
  bitmask : Bitvector
  deriving DecidableEq, Repr

namespace Rdbx

/-- `rdbx_init` with a window that is not empty. -/
def init (ws : Nat) : Rdbx := { index := 0, bitmask := Bitvector.alloc ws }

/-- `rdbx_get_window_size`. -/
def windowSize (r : Rdbx) : Nat := r.bitmask.length

/-- `rdbx_check`. -/
def check (r : Rdbx) (delta : Int) : ErrStatus :=
  if delta > 0 then .ok
  else if (r.bitmask.length : Int) - 1 + delta < 0 then .replayOld
  else if r.bitmask.getBit ((r.bitmask.length : Int) - 1 + delta).toNat then .replayFail
  else .ok

/-- `rdbx_add_index`.  `index_advance` takes the low 16 bits of the difference. -/
def addIndex (r : Rdbx) (delta : Int) : Rdbx :=
  if delta > 0 then
    { index := indexAdvance r.index (delta.toNat % 2 ^ 16)
      bitmask := (r.bitmask.leftShift delta.toNat).setBit (r.bitmask.length - 1) }
  else
    { r with bitmask := r.bitmask.setBit ((r.bitmask.length : Int) - 1 + delta).toNat }

/-- `rdbx_estimate_index`: the difference it returns and the estimate it stores. -/
def estimateIndex (r : Rdbx) (s : Nat) : Int × Nat :=
  if r.index > seqNumMedian then indexGuess r.index s
  else ((s : Int) - (r.index % 2 ^ 16 : Nat), s)

end Rdbx

/-! ## The estimate -/

/-- The packet is from before the last rollover. -/
def Behind (index s : Nat) : Prop :=
  2 ^ 16 ≤ index ∧ index % 2 ^ 16 < seqNumMedian ∧ index % 2 ^ 16 + seqNumMedian < s

instance (index s : Nat) : Decidable (Behind index s) := inferInstanceAs (Decidable (_ ∧ _))

namespace Rdbx

variable {r : Rdbx} {s : Nat}

/-- The estimate has the bits of the packet, and of the indices that have them it is the
closest one to the highest index so far. -/
theorem estimateIndex_nearest (hs : s < 2 ^ 16) (hmax : r.index < (2 ^ 32 - 1) * 2 ^ 16) :
    (r.estimateIndex s).2 % 2 ^ 16 = s ∧
      ∀ i : Nat, i % 2 ^ 16 = s →
        ((r.estimateIndex s).2 - r.index : Int).natAbs ≤ (i - r.index : Int).natAbs := by
  unfold estimateIndex indexGuess seqNumMax seqNumMedian
  dsimp only
  split_ifs <;> constructor <;> intros <;> dsimp only at * <;> omega

/-- The difference, which has the wrong sign for a packet from before the last rollover. -/
theorem estimateIndex_difference (hs : s < 2 ^ 16) (hmax : r.index < (2 ^ 32 - 1) * 2 ^ 16) :
    (r.estimateIndex s).1 =
      if Behind r.index s then (r.index : Int) - (r.estimateIndex s).2
      else ((r.estimateIndex s).2 : Int) - r.index := by
  unfold estimateIndex indexGuess Behind seqNumMax seqNumMedian
  dsimp only
  split_ifs <;> dsimp only <;> omega

end Rdbx

/-- The packet with index `i` is estimated right when `index` is the highest one so far: it
is less than `2 ^ 15` away and not from before the last rollover. -/
def InReach (index i : Nat) : Prop :=
  if index ≤ seqNumMedian then i < 2 ^ 16
  else index / 2 ^ 16 ≤ i / 2 ^ 16 ∧ i < index + seqNumMedian ∧ index < i + seqNumMedian ∧
    i < 2 ^ 48

instance (index i : Nat) : Decidable (InReach index i) := by
  unfold InReach
  infer_instance

namespace Rdbx

variable {r : Rdbx} {i : Nat} {delta : Int} {seen : List Nat}

theorem estimateIndex_of_inReach (h : InReach r.index i) :
    r.estimateIndex (i % 2 ^ 16) = ((i : Int) - r.index, i) := by
  unfold InReach seqNumMedian at h
  unfold estimateIndex indexGuess seqNumMax seqNumMedian
  dsimp only
  split_ifs at h ⊢ <;> rw [Prod.mk.injEq] <;> omega

/-! ## The window -/

/-- The status for a verdict. -/
def status : Window.Verdict → ErrStatus
  | .fresh => .ok
  | .old => .replayOld
  | .replayed => .replayFail

/-- The database has added the indices `seen`. -/
structure Tracks (r : Rdbx) (seen : List Nat) : Prop where
  pos : 0 < r.windowSize
  index : r.index = Window.highest seen
  bits : ∀ i, i ≤ r.index → r.index < i + r.windowSize →
    (r.bitmask.getBit (r.windowSize - 1 - (r.index - i)) = true ↔ i ∈ seen)

theorem tracks_init {ws : Nat} (h : 0 < ws) : Tracks (init ws) [] where
  pos := by
    show 0 < (Bitvector.alloc ws).length
    rw [Bitvector.length_alloc]
    omega
  index := rfl
  bits := by
    intro i _ _
    simp [init]

/-- `rdbx_check` of an index is the verdict of the window on it. -/
theorem Tracks.check_eq (h : r.Tracks seen) (hdelta : (i : Int) = r.index + delta) :
    r.check delta = status (Window.verdict r.windowSize seen i) := by
  have hpos := h.pos
  have hbits := h.bits i
  unfold windowSize at hpos hbits
  unfold check windowSize
  split_ifs with hahead hold hbit
  · rw [Window.verdict_of_highest_lt (by rw [← h.index]; omega)]
    rfl
  · rw [Window.verdict, if_pos (by rw [← h.index]; omega)]
    rfl
  all_goals
    have hpos' : ((r.bitmask.length : Int) - 1 + delta).toNat =
        r.bitmask.length - 1 - (r.index - i) := by omega
    rw [hpos'] at hbit
    have hmem := hbits (by omega) (by omega)
    rw [Window.verdict, if_neg (by rw [← h.index]; omega)]
  · rw [if_pos (hmem.1 hbit)]
    rfl
  · rw [if_neg fun hin => hbit (hmem.2 hin)]
    rfl

@[simp] theorem windowSize_addIndex (r : Rdbx) (delta : Int) :
    (r.addIndex delta).windowSize = r.windowSize := by
  unfold addIndex windowSize
  split <;> simp

/-- An index that the window takes is added to it. -/
theorem Tracks.addIndex (h : r.Tracks seen) (hdelta : (i : Int) = r.index + delta)
    (hfresh : Window.verdict r.windowSize seen i = .fresh) (hlow : delta < 2 ^ 16)
    (hmax : i < 2 ^ 64) : (r.addIndex delta).Tracks (seen ++ [i]) := by
  obtain ⟨hwindow, -⟩ := Window.verdict_fresh_iff.1 hfresh
  have hpos := h.pos
  rw [← h.index] at hwindow
  refine ⟨by rwa [windowSize_addIndex], ?_, ?_⟩
  · rw [Window.highest_snoc, ← h.index]
    unfold Rdbx.addIndex indexAdvance
    split_ifs with hahead
    · show (r.index + delta.toNat % 2 ^ 16) % 2 ^ 64 = _
      rw [Nat.mod_eq_of_lt (by omega), Nat.mod_eq_of_lt (by omega)]
      omega
    · show r.index = _
      omega
  · intro j
    have hbits := h.bits j
    rw [windowSize_addIndex, List.mem_append, List.mem_singleton]
    unfold windowSize at hpos hwindow hbits ⊢
    unfold Rdbx.addIndex indexAdvance
    split_ifs with hahead
    · dsimp only
      rw [Nat.mod_eq_of_lt (show delta.toNat < 2 ^ 16 by omega),
        Nat.mod_eq_of_lt (show r.index + delta.toNat < 2 ^ 64 by omega),
        Bitvector.getBit_setBit (by rw [Bitvector.length_leftShift]; omega),
        Bitvector.getBit_leftShift]
      intro hle hin
      by_cases hij : j = i
      · simp only [hij, or_true, iff_true, Bool.or_eq_true, decide_eq_true_iff]
        exact Or.inl (by omega)
      · rw [decide_eq_false (by omega), Bool.false_or]
        by_cases hold : j ≤ r.index
        · have hpos' : r.bitmask.length - 1 - (r.index + delta.toNat - j) + delta.toNat =
              r.bitmask.length - 1 - (r.index - j) := by omega
          rw [hpos', hbits hold (by omega)]
          simp [hij]
        · -- bits above the old highest index were shifted in
          have hnew : j ∉ seen := fun hin' => hold (h.index ▸ Window.le_highest hin')
          rw [Bitvector.getBit_of_le (by omega)]
          simp [hij, hnew]
    · dsimp only
      intro hle hin
      rw [Bitvector.getBit_setBit (by omega), Bool.or_eq_true, decide_eq_true_iff,
        hbits hle hin, or_comm]
      exact or_congr Iff.rfl (by omega)

theorem estimateIndex_bounds (r : Rdbx) (hs : s < 2 ^ 16) :
    (r.estimateIndex s).1 < 2 ^ 16 ∧ (r.estimateIndex s).2 < 2 ^ 64 := by
  unfold estimateIndex indexGuess seqNumMax seqNumMedian
  dsimp only
  split_ifs <;> dsimp only <;> omega

/-- The estimate for a packet from before the last rollover, whose distance has the wrong
sign. -/
theorem estimateIndex_of_behind (hs : s < 2 ^ 16) (hmax : r.index < 2 ^ 48)
    (hbehind : Behind r.index s) :
    (r.estimateIndex s).2 < r.index ∧
      (r.estimateIndex s).1 = (r.index : Int) - (r.estimateIndex s).2 := by
  unfold Behind seqNumMedian at hbehind
  unfold estimateIndex indexGuess seqNumMax seqNumMedian
  dsimp only
  split_ifs <;> dsimp only <;> omega

/-- A packet from before the last rollover passes whether or not its index has been added, and
the highest index moves as far ahead as the packet is behind. -/
theorem check_of_behind (hs : s < 2 ^ 16) (hmax : r.index < 2 ^ 48)
    (hbehind : Behind r.index s) :
    (r.estimateIndex s).2 < r.index ∧ r.check (r.estimateIndex s).1 = .ok ∧
      (r.addIndex (r.estimateIndex s).1).index + (r.estimateIndex s).2 = 2 * r.index := by
  obtain ⟨hest, hdelta⟩ := estimateIndex_of_behind hs hmax hbehind
  obtain ⟨hlow, -⟩ := estimateIndex_bounds r hs
  have hahead : (r.estimateIndex s).1 > 0 := by omega
  refine ⟨hest, if_pos hahead, ?_⟩
  unfold addIndex indexAdvance
  rw [if_pos hahead]
  show (r.index + (r.estimateIndex s).1.toNat % 2 ^ 16) % 2 ^ 64 + _ = _
  rw [Nat.mod_eq_of_lt (show (r.estimateIndex s).1.toNat < 2 ^ 16 by omega),
    Nat.mod_eq_of_lt (by omega)]
  omega

theorem check_of_behind_accepted :
    let r := (((init 64).addIndex 65530).addIndex 10)
    Behind r.index 65530 ∧ r.check (r.estimateIndex 65530).1 = .ok :=
  ⟨by decide, (check_of_behind (by decide) (by decide) (by decide)).2.1⟩

/-! ## Runs -/

/-- What a receiver does with an authentic packet that has the index `i`, of which it sees the
low 16 bits. -/
def receive : Transducer Rdbx Nat (Nat × ErrStatus) where
  step := fun r i =>
    (if r.check (r.estimateIndex (i % 2 ^ 16)).1 = .ok then
        r.addIndex (r.estimateIndex (i % 2 ^ 16)).1
      else r,
      [((r.estimateIndex (i % 2 ^ 16)).2, r.check (r.estimateIndex (i % 2 ^ 16)).1)])

/-- The index and the status for an entry of the log of a window. -/
def entry (e : Nat × Window.Verdict) : Nat × ErrStatus := (e.1, status e.2)

/-- The indices that were accepted. -/
def accepted (log : List (Nat × ErrStatus)) : List Nat :=
  log.filterMap fun e => if e.2 = .ok then some e.1 else none

theorem status_eq_ok {v : Window.Verdict} : status v = .ok ↔ v = .fresh := by
  cases v <;> decide

theorem accepted_map (log : List (Nat × Window.Verdict)) :
    accepted (log.map entry) = Window.accepted log := by
  unfold accepted Window.accepted
  rw [List.filterMap_map]
  congr
  funext e
  simp only [Function.comp, entry, status_eq_ok]

theorem receive_step (r : Rdbx) (i : Nat) :
    receive.step r i =
      (if r.check (r.estimateIndex (i % 2 ^ 16)).1 = .ok then
          r.addIndex (r.estimateIndex (i % 2 ^ 16)).1
        else r,
        [((r.estimateIndex (i % 2 ^ 16)).2, r.check (r.estimateIndex (i % 2 ^ 16)).1)]) :=
  rfl

/-- With the right difference, the receiver steps as the window does on the estimate. -/
theorem Tracks.receive {est : Nat} (h : r.Tracks seen)
    (hest : r.estimateIndex (i % 2 ^ 16) = ((est : Int) - r.index, est))
    (hlow : (est : Int) - r.index < 2 ^ 16) (hmax : est < 2 ^ 64) :
    (receive.step r i).1.windowSize = r.windowSize ∧
      (receive.step r i).1.Tracks ((Window.window r.windowSize).step seen est).1 ∧
      (receive.step r i).2 = ((Window.window r.windowSize).step seen est).2.map entry := by
  have hdelta : (est : Int) = r.index + (est - r.index) := by omega
  rw [receive_step, Window.window_step, hest, h.check_eq hdelta]
  by_cases hfresh : Window.verdict r.windowSize seen est = .fresh
  · rw [if_pos (status_eq_ok.2 hfresh), if_pos hfresh]
    exact ⟨windowSize_addIndex .., h.addIndex hdelta hfresh hlow hmax, rfl⟩
  · rw [if_neg (mt status_eq_ok.1 hfresh), if_neg hfresh]
    exact ⟨rfl, h, rfl⟩

/-- The database is not in its last round and the packet not from before the last rollover. -/
def Ahead (r : Rdbx) (i : Nat) : Prop :=
  r.index < (2 ^ 32 - 1) * 2 ^ 16 ∧ ¬ Behind r.index (i % 2 ^ 16)

instance (r : Rdbx) (i : Nat) : Decidable (r.Ahead i) := inferInstanceAs (Decidable (_ ∧ _))

/-- The database has added what was accepted. -/
def Added (r : Rdbx) (log : List (Nat × ErrStatus)) : Prop :=
  ∃ seen wlog, r.Tracks seen ∧ Window.Kept seen wlog ∧ log = wlog.map entry

theorem added_step {log : List (Nat × ErrStatus)} (h : Added r log) (hahead : r.Ahead i) :
    Added (receive.step r i).1 (log ++ (receive.step r i).2) := by
  obtain ⟨seen, wlog, htracks, hkept, rfl⟩ := h
  obtain ⟨hmax, hbehind⟩ := hahead
  have hs : i % 2 ^ 16 < 2 ^ 16 := Nat.mod_lt i (by decide)
  obtain ⟨hlow, hhigh⟩ := estimateIndex_bounds r hs
  have hdelta := estimateIndex_difference hs hmax
  rw [if_neg hbehind] at hdelta
  obtain ⟨-, hnext, hemit⟩ := htracks.receive (Prod.ext hdelta rfl) (hdelta ▸ hlow) hhigh
  exact ⟨_, _, hnext, Window.kept_step hkept, by rw [hemit, List.map_append]⟩

/-- No index is accepted twice in a run without packets from before the last rollover. -/
theorem accepted_once {ws : Nat} {is : List Nat} (hws : 0 < ws)
    (h : receive.Meets Ahead (init ws) is) :
    (accepted (receive.run (init ws) is).2).Nodup := by
  have hstep : ∀ r log i, Added r log → Ahead r i → True →
      True ∧ Added (receive.step r i).1 (log ++ (receive.step r i).2) :=
    fun _ _ _ hadded hahead _ => ⟨trivial, added_step hadded hahead⟩
  have hstart : Added (init ws) [] := ⟨[], [], tracks_init hws, ⟨rfl, List.nodup_nil⟩, rfl⟩
  have hrun := (Transducer.run_inv_log (Q := fun _ _ => True) (G := fun _ => True)
    (fun _ _ _ => trivial) hstep hstart h trivial).2
  obtain ⟨seen, wlog, -, hkept, hlog⟩ := hrun
  rw [List.nil_append] at hlog
  rw [hlog, accepted_map, ← hkept.1]
  exact hkept.2

theorem accepted_once_rollover :
    (accepted (receive.run (init 64) [40000, 65535, 65535, 65538, 65536, 65538]).2).Nodup :=
  accepted_once (by decide) (by decide)

/-- While the packets are in reach, the receiver does to their indices what the window does. -/
theorem rdbx_refines_window {ws : Nat} {is : List Nat} (hws : 0 < ws)
    (h : receive.Meets (fun r i => InReach r.index i) (init ws) is) :
    (receive.run (init ws) is).2 =
      ((Window.window (init ws).windowSize).run [] is).2.map entry := by
  refine (Transducer.run_refines (A := Window.window (init ws).windowSize)
    (R := fun r seen => r.windowSize = (init ws).windowSize ∧ r.Tracks seen) ?_
    ⟨rfl, tracks_init hws⟩ h).2
  intro r seen i hboth hreach
  obtain ⟨hsize, htracks⟩ := hboth
  have hbounds : (i : Int) - r.index < 2 ^ 16 ∧ i < 2 ^ 64 := by
    unfold InReach seqNumMedian at hreach
    split_ifs at hreach <;> omega
  obtain ⟨hsize', hnext, hemit⟩ :=
    htracks.receive (estimateIndex_of_inReach hreach) hbounds.1 hbounds.2
  rw [hsize] at hsize' hnext hemit
  exact ⟨⟨hsize', hnext⟩, hemit⟩

theorem rdbx_refines_window_rollover :
    (receive.run (init 64) [7, 32769, 65536, 65537, 65536]).2 =
      ((Window.window (init 64).windowSize).run [] [7, 32769, 65536, 65537, 65536]).2.map entry :=
  rdbx_refines_window (by decide) (by decide)

end Rdbx

end MediaGateway.Libsrtp
