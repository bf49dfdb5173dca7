import MediaGateway.SubMG.Invariant
import Mathlib.Data.List.Nodup

/-!
# The connections of the sub-MGs

The thread of `SubMG::run` erases from `avaSubMG` while it goes through it by index, so
it passes over the entry behind each one that it erases.  Nothing is read from that
entry, and it stays where it is.

`Moves` lists what one step does with `avaSubMG`, with the index and with the
descriptors.  From it come the invariant of a run, `Connected`, and that of one pass,
`Scanned`.
-/

namespace MediaGateway

open Lib

namespace SubMG

variable {cfg : Config} {s s' : State} {e : Event} {es : List Event} {o : List Entry}

/-! ## The descriptors -/

/-- A system call on the descriptor of a sub-MG.  A `recv` without data is a closed
connection, or one that has failed. -/
inductive Call
  | recv (fd : Nat) (data : Bytes)
  | accept (client : Bytes × Nat)
  | close (fd : Nat)
  deriving DecidableEq, Repr

/-- The calls of one step of `SubMG::run`. -/
def calls (s : State) : Event → List Call
  | .control env =>
    match s.control with
    | .scan r =>
      if r.i < s.avaSubMG.length then
        if (s.subMG r.i).2 ∈ r.fds then [.recv (s.subMG r.i).2 (env.data.take SIZE)] else []
      else if r.listening then
        match env.client with
        | none => []
        | some (IP, clientfd) =>
          if s.avaSubMG.any fun subMG => subMG.1 == IP then
            [.accept (IP, clientfd), .close clientfd]
          else [.accept (IP, clientfd)]
      else []
    | _ => []
  | _ => []

/-- The descriptors that are open after the call.  The one of an erased entry is not
closed. -/
def Call.after (fds : List Nat) : Call → List Nat
  | .recv _ _ => fds
  | .accept client => client.2 :: fds
  | .close fd => fds.filter (· ≠ fd)

def openFds (fds : List Nat) (log : List Call) : List Nat := log.foldl Call.after fds

/-- `accept` returns a descriptor that is not open. -/
def Call.Fresh (fds : List Nat) : Call → Prop
  | .accept client => client.2 ∉ fds
  | _ => True

instance (fds : List Nat) : (c : Call) → Decidable (c.Fresh fds)
  | .recv _ _ => .isTrue trivial
  | .accept client => inferInstanceAs (Decidable (client.2 ∉ fds))
  | .close _ => .isTrue trivial

def Fresh : List Nat → List Call → Prop
  | _, [] => True
  | fds, c :: log => c.Fresh fds ∧ Fresh (c.after fds) log

instance decidableFresh : (fds : List Nat) → (log : List Call) → Decidable (Fresh fds log)
  | _, [] => .isTrue trivial
  | fds, c :: log =>
    have := decidableFresh (c.after fds) log
    inferInstanceAs (Decidable (c.Fresh fds ∧ Fresh (c.after fds) log))

theorem openFds_append (fds : List Nat) (xs ys : List Call) :
    openFds fds (xs ++ ys) = openFds (openFds fds xs) ys :=
  List.foldl_append

theorem fresh_append {fds : List Nat} {xs ys : List Call} :
    Fresh fds (xs ++ ys) ↔ Fresh fds xs ∧ Fresh (openFds fds xs) ys := by
  induction xs generalizing fds with
  | nil => exact ⟨fun h => ⟨trivial, h⟩, And.right⟩
  | cons c xs ih =>
    show c.Fresh fds ∧ Fresh (c.after fds) (xs ++ ys) ↔ _
    rw [ih, ← and_assoc]
    rfl

/-! ## One step -/

/-- The index of the entry that the `for` loop comes to next. -/
def Control.position : Control → Option Nat
  | .top => none
  | .scan r => some r.i
  | .wait r _ | .setState r _ | .setFirst r _ | .setSecond r _ => some (r.i + 1)

/-- The step is `select`. -/
def selects (s : State) : Event → Bool
  | .control _ => decide (s.control = .top)
  | _ => false

/-- What one step does with the entries, the index and the descriptors. -/
inductive Moves (s : State) (e : Event) (s' : State) : List Call → Prop
  | stay :
    s'.avaSubMG = s.avaSubMG → s'.control.position = s.control.position → Moves s e s' []
  | select :
    selects s e = true → s'.avaSubMG = s.avaSubMG → s'.control.position = some 0 → Moves s e s' []
  | skip {i} :
    s.control.position = some i → i < s.avaSubMG.length →
      s'.avaSubMG = s.avaSubMG → s'.control.position = some (i + 1) → Moves s e s' []
  | recv {i data} :
    s.control.position = some i → i < s.avaSubMG.length → data ≠ [] →
      s'.avaSubMG = s.avaSubMG → s'.control.position = some (i + 1) →
      Moves s e s' [.recv (s.subMG i).2 data]
  | closed {i} :
    s.control.position = some i → i < s.avaSubMG.length →
      s'.avaSubMG = s.avaSubMG.eraseIdx i → s'.control.position = some (i + 1) →
      Moves s e s' [.recv (s.subMG i).2 []]
  | done {i} :
    s.control.position = some i → s.avaSubMG.length ≤ i →
      s'.avaSubMG = s.avaSubMG → s'.control.position = none → Moves s e s' []
  | refused {i client} :
    s.control.position = some i → s.avaSubMG.length ≤ i →
      client.1 ∈ s.avaSubMG.map Prod.fst →
      s'.avaSubMG = s.avaSubMG → s'.control.position = none →
      Moves s e s' [.accept client, .close client.2]
  | accepted {i client} :
    s.control.position = some i → s.avaSubMG.length ≤ i →
      client.1 ∉ s.avaSubMG.map Prod.fst →
      s'.avaSubMG = s.avaSubMG ++ [client] → s'.control.position = none →
      Moves s e s' [.accept client]

theorem any_IP {l : List (Bytes × Nat)} {IP : Bytes} :
    (l.any fun subMG => subMG.1 == IP) = true ↔ IP ∈ l.map Prod.fst := by
  simp [List.any_eq_true]

theorem moves_accept {env : Outside} {r : Round} (hpc : s.control = .scan r)
    (hge : s.avaSubMG.length ≤ r.i) :
    Moves s (.control env) (accept r env s) (calls s (.control env)) := by
  have hpos : s.control.position = some r.i := by rw [hpc]; rfl
  have hcalls : calls s (.control env) =
      if r.listening then
        match env.client with
        | none => []
        | some (IP, clientfd) =>
          if s.avaSubMG.any fun subMG => subMG.1 == IP then
            [.accept (IP, clientfd), .close clientfd]
          else [.accept (IP, clientfd)]
      else [] := by
    simp only [calls, hpc, if_neg (Nat.not_lt.2 hge)]
  rw [hcalls]
  unfold accept
  by_cases hlisten : r.listening = true
  · rw [if_pos hlisten, if_pos hlisten]
    cases env.client with
    | none => exact .done hpos hge rfl rfl
    | some client =>
      obtain ⟨IP, clientfd⟩ := client
      dsimp only
      by_cases hdup : (s.avaSubMG.any fun subMG => subMG.1 == IP) = true
      · rw [if_pos hdup, if_pos hdup]
        have hmem : (IP, clientfd).1 ∈ s.avaSubMG.map Prod.fst := any_IP.1 hdup
        exact .refused hpos hge hmem rfl rfl
      · rw [if_neg hdup, if_neg hdup]
        have hnew : (IP, clientfd).1 ∉ s.avaSubMG.map Prod.fst := fun hmem => hdup (any_IP.2 hmem)
        exact .accepted hpos hge hnew rfl rfl
  · rw [if_neg hlisten, if_neg hlisten]
    exact .done hpos hge rfl rfl

/-- Only the body of the `for` loop and what follows it call anything. -/
theorem calls_eq_nil (h : ∀ r, s.control ≠ .scan r) (e : Event) : calls s e = [] := by
  cases e with
  | call => rfl
  | requester => rfl
  | control env =>
    unfold calls
    dsimp only
    split
    · exact absurd ‹_› (h _)
    · rfl

theorem moves_step (h : (threads cfg).step s e = .ok (s', o)) : Moves s e s' (calls s e) := by
  have ht := step_ok h
  cases e with
  | call type myRecvPort destPort pad =>
    obtain ⟨-, hcases⟩ := call_eq ht
    rcases hcases with rfl | ⟨-, ⟨r, rfl⟩ | ⟨-, rfl⟩⟩ <;> exact .stay rfl rfl
  | requester env =>
    obtain ⟨hcontrol, havaSubMG, -⟩ := requester_curstate ht
    exact .stay havaSubMG (by rw [hcontrol])
  | control env =>
    -- the statements from `wait` to `setSecond` belong to the entry that was read
    have hstore : (∀ r, s.control ≠ .scan r) → s'.avaSubMG = s.avaSubMG →
        s'.control.position = s.control.position →
          Moves s (.control env) s' (calls s (.control env)) := by
      intro hscan havaSubMG hpos
      rw [calls_eq_nil hscan]
      exact .stay havaSubMG hpos
    cases ht with
    | select hpc =>
      rw [calls_eq_nil (by rw [hpc]; exact fun _ => nofun)]
      exact .select (decide_eq_true hpc) rfl rfl
    | skip hpc hlt hready =>
      have hcalls : calls s (.control env) = [] := by
        simp only [calls, hpc, if_pos hlt, if_neg hready]
      rw [hcalls]
      exact .skip (by rw [hpc]; rfl) hlt rfl rfl
    | @closed _ r hpc hlt hready hdata =>
      have hcalls : calls s (.control env) = [.recv (s.subMG r.i).2 []] := by
        simp only [calls, hpc, if_pos hlt, if_pos hready, hdata]
      rw [hcalls]
      exact .closed (by rw [hpc]; rfl) hlt rfl rfl
    | @recv _ r hpc hlt hready hdata =>
      have hcalls : calls s (.control env) = [.recv (s.subMG r.i).2 (env.data.take SIZE)] := by
        simp only [calls, hpc, if_pos hlt, if_pos hready]
      rw [hcalls]
      exact .recv (by rw [hpc]; rfl) hlt hdata rfl rfl
    | accept hpc hge => exact moves_accept hpc hge
    | wait hpc => exact hstore (by rw [hpc]; exact fun _ => nofun) rfl rfl
    | waited hpc => exact hstore (by rw [hpc]; exact fun _ => nofun) rfl (by rw [hpc]; rfl)
    | setState hpc => exact hstore (by rw [hpc]; exact fun _ => nofun) rfl (by rw [hpc]; rfl)
    | setFirst hpc => exact hstore (by rw [hpc]; exact fun _ => nofun) rfl (by rw [hpc]; rfl)
    | setSecond hpc => exact hstore (by rw [hpc]; exact fun _ => nofun) rfl (by rw [hpc]; rfl)

/-! ## Runs -/

/-- The entries differ in their IPs and in their descriptors, and each is a connection
that was accepted and is open. -/
structure Connected (s : State) (log : List Call) : Prop where
  ips : (s.avaSubMG.map Prod.fst).Nodup
  descriptors : (s.avaSubMG.map Prod.snd).Nodup
  accepted : ∀ c ∈ s.avaSubMG, .accept c ∈ log ∧ c.2 ∈ openFds [] log

theorem connected_init : Connected init [] where
  ips := List.nodup_nil
  descriptors := List.nodup_nil
  accepted := fun _ h => absurd h List.not_mem_nil

variable {log : List Call}

/-- Calls that leave the descriptors of the entries open. -/
theorem Connected.sublist (h : Connected s log) (hsub : s'.avaSubMG.Sublist s.avaSubMG)
    {o : List Call} (hopen : ∀ c ∈ s.avaSubMG, c.2 ∈ openFds [] (log ++ o)) :
    Connected s' (log ++ o) where
  ips := h.ips.sublist (hsub.map _)
  descriptors := h.descriptors.sublist (hsub.map _)
  accepted := by
    intro c hc
    have hmem := hsub.subset hc
    exact ⟨List.mem_append_left _ (h.accepted c hmem).1, hopen c hmem⟩

theorem connected_step (h : Connected s log) (hfresh : Fresh [] (log ++ calls s e))
    (hstep : (threads cfg).step s e = .ok (s', o)) : Connected s' (log ++ calls s e) := by
  have hmoves := moves_step hstep
  rw [fresh_append] at hfresh
  have hopen : ∀ c ∈ s.avaSubMG, c.2 ∈ openFds [] log := fun c hc => (h.accepted c hc).2
  have hquiet : ∀ c ∈ s.avaSubMG, c.2 ∈ openFds [] (log ++ []) := by
    rwa [List.append_nil]
  generalize hcalls : calls s e = o' at hmoves hfresh
  cases hmoves with
  | stay heq => exact h.sublist (heq ▸ .refl _) hquiet
  | select _ heq => exact h.sublist (heq ▸ .refl _) hquiet
  | skip _ _ heq => exact h.sublist (heq ▸ .refl _) hquiet
  | done _ _ heq => exact h.sublist (heq ▸ .refl _) hquiet
  | recv _ _ _ heq =>
    refine h.sublist (heq ▸ .refl _) ?_
    rwa [openFds_append]
  | closed _ _ heq =>
    refine h.sublist (heq ▸ List.eraseIdx_sublist ..) ?_
    rwa [openFds_append]
  | @refused i client _ _ _ heq =>
    refine h.sublist (heq ▸ .refl _) ?_
    intro c hc
    have hne : c.2 ≠ client.2 := by
      intro heq'
      exact hfresh.2.1 (heq' ▸ hopen c hc)
    rw [openFds_append]
    exact List.mem_filter.2 ⟨List.mem_cons_of_mem _ (hopen c hc), decide_eq_true hne⟩
  | @accepted i client _ _ hnew heq =>
    have hfd : client.2 ∉ s.avaSubMG.map Prod.snd := by
      intro hmem
      obtain ⟨c, hc, heq'⟩ := List.mem_map.1 hmem
      exact hfresh.2.1 (heq' ▸ hopen c hc)
    refine ⟨?_, ?_, ?_⟩
    · rw [heq, List.map_append]
      exact List.nodup_append'.2 ⟨h.ips, List.nodup_singleton _, List.disjoint_singleton.2 hnew⟩
    · rw [heq, List.map_append]
      exact List.nodup_append'.2
        ⟨h.descriptors, List.nodup_singleton _, List.disjoint_singleton.2 hfd⟩
    · intro c hc
      rw [heq] at hc
      rw [openFds_append]
      rcases List.mem_append.1 hc with hold | hlast
      · obtain ⟨hin, hin'⟩ := h.accepted c hold
        exact ⟨List.mem_append_left _ hin, List.mem_cons_of_mem _ hin'⟩
      · rw [List.mem_singleton.1 hlast]
        exact ⟨List.mem_append_right _ (List.mem_singleton.2 rfl), List.mem_cons_self⟩

/-! ## One pass -/

/-- The descriptors that were read, in this order. -/
def reads (log : List Call) : List Nat :=
  log.filterMap fun c => match c with
    | .recv fd _ => some fd
    | _ => none

theorem reads_append (xs ys : List Call) : reads (xs ++ ys) = reads xs ++ reads ys :=
  List.filterMap_append

/-- No `recv` found the connection closed. -/
def kept (log : List Call) (subMG : Bytes × Nat) : Bool := decide (.recv subMG.2 [] ∉ log)

theorem kept_append (log o : List Call) : kept (log ++ o) = fun c => kept o c && kept log c := by
  funext c
  simp only [kept, List.mem_append, not_or, Bool.decide_and, Bool.and_comm]

theorem filter_kept_append (l : List (Bytes × Nat)) (log o : List Call) :
    l.filter (kept (log ++ o)) = (l.filter (kept log)).filter (kept o) := by
  rw [List.filter_filter, kept_append]

theorem filter_kept_of_open {o : List Call} (ho : ∀ fd, .recv fd [] ∉ o) (l : List (Bytes × Nat)) :
    l.filter (kept o) = l :=
  List.filter_eq_self.2 fun c _ => decide_eq_true (ho c.2)

/-- Descriptors that differ tell the entries apart. -/
theorem filter_kept_closed {l : List (Bytes × Nat)} (h : (l.map Prod.snd).Nodup) {i : Nat}
    (hi : i < l.length) : l.filter (kept [.recv l[i].2 []]) = l.eraseIdx i := by
  have hkept : ∀ {c c' : Bytes × Nat}, c.2 ≠ c'.2 → kept [.recv c'.2 []] c = true := by
    intro c c' hne
    refine decide_eq_true fun hmem => hne ?_
    exact (Call.recv.inj (List.mem_singleton.1 hmem)).1
  induction l generalizing i with
  | nil => exact absurd hi (Nat.not_lt_zero i)
  | cons c l ih =>
    rw [List.map_cons, List.nodup_cons] at h
    cases i with
    | zero =>
      have hfirst : ¬ kept [.recv c.2 []] c = true := by simp [kept]
      have hrest : l.filter (kept [.recv c.2 []]) = l :=
        List.filter_eq_self.2 fun c' hc' => hkept fun heq =>
          h.1 (heq ▸ List.mem_map_of_mem hc')
      rw [List.getElem_cons_zero, List.filter_cons_of_neg hfirst, hrest, List.eraseIdx_cons_zero]
    | succ i =>
      have hi' : i < l.length := Nat.lt_of_succ_lt_succ hi
      have hfirst : kept [.recv l[i].2 []] c = true :=
        hkept fun heq => h.1 (heq ▸ List.mem_map_of_mem (List.getElem_mem hi'))
      rw [List.getElem_cons_succ, List.filter_cons_of_pos hfirst, ih h.2 hi',
        List.eraseIdx_cons_succ]

/-- A pass that began with the entries `start` and has come to the entry `i`: the entries whose
connection was closed are gone, and the others stand as they stood.  Nothing was read from
the ones that are still to come. -/
structure Scanning (start l : List (Bytes × Nat)) (i : Nat) (log : List Call) : Prop where
  entries : l = start.filter (kept log)
  visited : ∃ visited, start = visited ++ l.drop i ∧ (reads log).Sublist (visited.map Prod.snd)

/-- The entries `more` are passed. -/
theorem Scanning.next {start l : List (Bytes × Nat)} {i : Nat} (h : Scanning start l i log)
    {o : List Call} {l' : List (Bytes × Nat)} {i' : Nat} (more : List (Bytes × Nat))
    (hl' : l' = l.filter (kept o))
    (hmore : l.drop i = more ++ l'.drop i') (hreads : (reads o).Sublist (more.map Prod.snd)) :
    Scanning start l' i' (log ++ o) := by
  obtain ⟨hentries, visited, hvisited, hsub⟩ := h
  refine ⟨?_, visited ++ more, ?_, ?_⟩
  · rw [hl', filter_kept_append, ← hentries]
  · rw [List.append_assoc, ← hmore, ← hvisited]
  · rw [reads_append, List.map_append]
    exact hsub.append hreads

/-- The entry that is closed is erased, and the one behind it is passed with it. -/
theorem Scanning.closed {start l : List (Bytes × Nat)} {i : Nat} (h : Scanning start l i log)
    (hstart : (start.map Prod.snd).Nodup) (hlt : i < l.length) :
    Scanning start (l.eraseIdx i) (i + 1) (log ++ [.recv l[i].2 []]) := by
  have hnodup : (l.map Prod.snd).Nodup := by
    rw [h.entries]
    exact hstart.sublist (List.filter_sublist.map _)
  have hbehind : (l.eraseIdx i).drop (i + 1) = (l.drop (i + 1)).drop 1 := by
    rw [List.eraseIdx_eq_take_drop_succ, List.drop_append,
      List.length_take_of_le (Nat.le_of_lt hlt),
      List.drop_of_length_le (by rw [List.length_take]; omega), List.nil_append,
      Nat.add_sub_cancel_left]
  refine h.next (l[i] :: (l.drop (i + 1)).take 1) (filter_kept_closed hnodup hlt).symm ?_
    ((List.nil_sublist _).cons_cons _)
  rw [hbehind, List.cons_append, List.take_append_drop]
  exact List.drop_eq_getElem_cons hlt

/-- The pass is over: there may be a new entry behind the others. -/
structure Scanned (start l : List (Bytes × Nat)) (log : List Call) : Prop where
  entries : l = start.filter (kept log) ∨
    ∃ client, .accept client ∈ log ∧ client.1 ∉ (start.filter (kept log)).map Prod.fst ∧
      l = start.filter (kept log) ++ [client]
  reads : (reads log).Sublist (start.map Prod.snd)

/-- What holds in a pass and behind it. -/
def InPass (start : List (Bytes × Nat)) (s : State) (log : List Call) : Prop :=
  match s.control.position with
  | some i => Scanning start s.avaSubMG i log
  | none => Scanned start s.avaSubMG log

/-- Behind the loop nothing is read. -/
theorem Scanning.finish {start l : List (Bytes × Nat)} {i : Nat} (h : Scanning start l i log)
    (hge : l.length ≤ i) {o : List Call} (ho : reads o = []) :
    l = start.filter (kept (log ++ o)) ∧ (reads (log ++ o)).Sublist (start.map Prod.snd) := by
  obtain ⟨hentries, visited, hvisited, hsub⟩ := h
  have hopen : ∀ fd, .recv fd [] ∉ o := fun fd hmem =>
    absurd (List.filterMap_eq_nil_iff.1 ho _ hmem) nofun
  rw [List.drop_of_length_le hge, List.append_nil] at hvisited
  rw [filter_kept_append, filter_kept_of_open hopen, reads_append, ho, List.append_nil, hvisited]
  exact ⟨hvisited ▸ hentries, hsub⟩

theorem inPass_step {start : List (Bytes × Nat)} (hstart : (start.map Prod.snd).Nodup)
    (h : InPass start s log) (hpass : selects s e = false)
    (hstep : (threads cfg).step s e = .ok (s', o)) : InPass start s' (log ++ calls s e) := by
  have hmoves := moves_step hstep
  generalize calls s e = o' at hmoves
  unfold InPass at h ⊢
  cases hmoves with
  | stay heq hpos =>
    rw [List.append_nil, heq, hpos]
    exact h
  | select hselect =>
    rw [hpass] at hselect
    cases hselect
  | skip hpos hlt heq hpos' =>
    rw [hpos] at h
    rw [hpos', heq]
    exact h.next [s.avaSubMG[_]] (filter_kept_of_open (fun _ => List.not_mem_nil) _).symm
      (List.drop_eq_getElem_cons hlt) (List.nil_sublist _)
  | recv hpos hlt hdata heq hpos' =>
    rw [hpos] at h
    rw [hpos', heq, subMG_eq hlt]
    refine h.next [s.avaSubMG[_]] (filter_kept_of_open ?_ _).symm
      (List.drop_eq_getElem_cons hlt) (.refl _)
    intro fd hmem
    exact hdata (Call.recv.inj (List.mem_singleton.1 hmem)).2.symm
  | closed hpos hlt heq hpos' =>
    rw [hpos] at h
    rw [hpos', heq, subMG_eq hlt]
    exact h.closed hstart hlt
  | done hpos hge heq hpos' =>
    rw [hpos] at h
    rw [hpos', heq]
    obtain ⟨hentries, hreads⟩ := h.finish hge (o := []) rfl
    exact ⟨.inl hentries, hreads⟩
  | refused hpos hge hmem heq hpos' =>
    rw [hpos] at h
    rw [hpos', heq]
    obtain ⟨hentries, hreads⟩ := h.finish hge (o := [.accept _, .close _]) rfl
    exact ⟨.inl hentries, hreads⟩
  | @accepted i client hpos hge hnew heq hpos' =>
    rw [hpos] at h
    rw [hpos', heq]
    obtain ⟨hentries, hreads⟩ := h.finish hge (o := [.accept client]) rfl
    rw [hentries] at hnew ⊢
    exact ⟨.inr ⟨client, List.mem_append_right _ (List.mem_singleton.2 rfl), hnew, rfl⟩, hreads⟩

/-! ## The result -/

/-- A client whose IP is there already is refused: the entries stay, and its descriptor is
closed again. -/
def Refuses (cfg : Config) (s : State) (log : List Call) : Prop :=
  ∀ e s' o client, (threads cfg).step s e = .ok (s', o) → .accept client ∈ calls s e →
    client.1 ∈ s.avaSubMG.map Prod.fst →
      s'.avaSubMG = s.avaSubMG ∧ client.2 ∉ openFds [] (log ++ calls s e)

/-- From `select` to the next one. -/
def Passes (cfg : Config) (s : State) : Prop :=
  ∀ env s₁ o₁ es s' o, (threads cfg).step s (.control env) = .ok (s₁, o₁) →
    s.control = .top → (threads cfg).Meets (fun s e => selects s e = false) s₁ es →
      (threads cfg).run s₁ es = .ok (s', o) →
        InPass s.avaSubMG s' ((threads cfg).observe calls s₁ es)

theorem refuses_step (s : State) (log : List Call) : Refuses cfg s log := by
  intro e s' o client hstep haccept hdup
  have hmoves := moves_step hstep
  generalize calls s e = o' at hmoves haccept
  cases hmoves with
  | refused _ _ _ heq =>
    obtain rfl : client = _ := by simpa using haccept
    refine ⟨heq, ?_⟩
    rw [openFds_append]
    intro hmem
    exact absurd rfl (of_decide_eq_true (List.mem_filter.1 hmem).2)
  | accepted _ _ hnew =>
    obtain rfl := Call.accept.inj (List.mem_singleton.1 haccept)
    exact absurd hdup hnew
  | recv => cases List.mem_singleton.1 haccept
  | closed => cases List.mem_singleton.1 haccept
  | _ => cases haccept

theorem passes_of_nodup (h : (s.avaSubMG.map Prod.snd).Nodup) : Passes cfg s := by
  intro env s₁ o₁ es s' o hstep htop hmeets hrun
  have hstart : InPass s.avaSubMG s₁ [] := by
    have hselect : controlStep cfg env s = .ok (s₁, o₁) := hstep
    rw [controlStep, htop] at hselect
    obtain ⟨rfl, -⟩ := Prod.mk.inj (Except.ok.inj hselect)
    exact ⟨(filter_kept_of_open (fun _ => List.not_mem_nil) _).symm, [], rfl, .refl _⟩
  exact Machine.observe_inv (G := fun _ => True) (fun _ _ _ => trivial)
    (fun s log e s₁ o₁ hinv hpass _ hstep => inPass_step h hinv hpass hstep) hstart hmeets hrun
    trivial

/-- In every run in which `accept` returns descriptors that are not open: the entries are open
connections with different IPs and descriptors, a second connection from an IP is closed, and
a pass takes out the closed entries only. -/
theorem connections_run (cfg : Config) (es : List Event) {log : List Entry}
    (hrun : (threads cfg).run init es = .ok (s, log))
    (hfresh : Fresh [] ((threads cfg).observe calls init es)) :
    Connected s ((threads cfg).observe calls init es) ∧
      Refuses cfg s ((threads cfg).observe calls init es) ∧ Passes cfg s := by
  have hconnected : Connected s ([] ++ (threads cfg).observe calls init es) :=
    Machine.observe_inv (G := Fresh []) (fun _ _ h => (fresh_append.1 h).1)
      (fun _ _ _ _ _ hinv _ hG hstep => connected_step hinv hG hstep) connected_init
      Machine.meets_true hrun hfresh
  exact ⟨hconnected, refuses_step s _, passes_of_nodup hconnected.descriptors⟩

/-- Two sub-MGs connect.  The first one closes while both are ready, so the second is passed
over, and it connects once more in the same pass. -/
def twoConnections : List Event :=
  connects ++
    [ .control { Outside.quiet with listening := true }, .control .quiet
    , .control { Outside.quiet with client := some (bytes "10.0.0.10", 8) }
    , .control { Outside.quiet with ready := [7, 8], listening := true }, .control .quiet
    , .control { Outside.quiet with client := some (bytes "10.0.0.10", 9) } ]

/-- The one that is passed over is still there, and nothing else is. -/
theorem connections_run_two :
    ∃ s log, (threads Config.main).run init twoConnections = .ok (s, log) ∧
      s.avaSubMG = [(bytes "10.0.0.10", 8)] ∧
      Connected s ((threads Config.main).observe calls init twoConnections) ∧
        Refuses Config.main s ((threads Config.main).observe calls init twoConnections) ∧
          Passes Config.main s := by
  obtain ⟨s, log, hrun, hava⟩ := Machine.exists_of_map
    (show ((threads Config.main).run init twoConnections).toOption.map
        (fun r => r.1.avaSubMG) = some [(bytes "10.0.0.10", 8)] by
      decide +kernel)
  exact ⟨s, log, hrun, hava, connections_run Config.main twoConnections hrun (by decide +kernel)⟩

end SubMG

end MediaGateway
