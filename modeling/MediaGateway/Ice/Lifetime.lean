import MediaGateway.Lib.Heap
import MediaGateway.NiceCandidate
import MediaGateway.WebAgent

/-!
# The candidates that are handed to ICE

`setRemoteCandidates` in `webagent.cpp` with the objects it makes.  Each text becomes a
`Candidate`, the `NiceCandidate` in it is appended to the list, and `delete candidate`
frees both before the next text is looked at.

`setLoop_eq` is what the loop leaves: the pointers of the list are those of the host
candidates in order, and none of these is still allocated.
-/

namespace MediaGateway.Ice

open Lib

/-- One call of `nice_agent_set_remote_candidates`, with the heap at that moment. -/
structure SetCall (α : Type) where
  component : Nat
  cands : List Nat
  heap : Heap (NiceCandidate α)
  deriving DecidableEq, Repr

section

variable {α : Type} (setFromString : Bytes → Option α) (locals : Candidate.Locals)

/-- The loop over the texts. -/
def setLoop (heap : Heap (NiceCandidate α)) (cands : List Nat) :
    List Bytes → Heap (NiceCandidate α) × List Nat
  | [] => (heap, cands)
  | text :: texts =>
    let (heap, candidate) := heap.alloc (Candidate.ofString setFromString locals text)
    let cands :=
      match heap.deref candidate with
      | some c => if c.type = .host then cands ++ [candidate] else cands
      | none => cands
    setLoop (heap.free candidate) cands texts

/-- The two calls of `setRemoteCandidates`. -/
def setRemoteCandidates (heap : Heap (NiceCandidate α)) (w : WebAgent) : List (SetCall α) :=
  let rtp := setLoop setFromString locals heap [] w.remoteRTPCandidates
  let rtcp := setLoop setFromString locals rtp.1 [] w.remoteRTCPCandidates
  [ { component := 1, cands := rtp.2, heap := rtp.1 }
  , { component := 2, cands := rtcp.2, heap := rtcp.1 } ]

/-- The candidates of type host that texts are parsed into. -/
def hosts (texts : List Bytes) : List (NiceCandidate α) :=
  (texts.map (Candidate.ofString setFromString locals)).filter fun c => c.type == .host

/-- The positions of the host candidates, the first text being at `n`. -/
def hostPointers (n : Nat) : List Bytes → List Nat
  | [] => []
  | text :: texts =>
    if Candidate.type text = .host then n :: hostPointers (n + 1) texts
    else hostPointers (n + 1) texts

/-- What is left of the candidates of a loop. -/
def freedCandidates (texts : List Bytes) : Heap (NiceCandidate α) :=
  texts.map fun text => { value := Candidate.ofString setFromString locals text, freed := true }

theorem setLoop_eq (texts : List Bytes) (heap : Heap (NiceCandidate α)) (cands : List Nat) :
    setLoop setFromString locals heap cands texts =
      (heap ++ freedCandidates setFromString locals texts,
        cands ++ hostPointers heap.length texts) := by
  induction texts generalizing heap cands with
  | nil => simp [setLoop, hostPointers, freedCandidates]
  | cons text texts ih =>
    have htype : (Candidate.ofString setFromString locals text).type = Candidate.type text := rfl
    simp only [setLoop, Heap.alloc_snd, Heap.deref_alloc, Heap.free_alloc, htype, ih,
      hostPointers, freedCandidates, List.map_cons]
    split <;> simp

/-- The rest of the texts, with the first candidate among those that were there before. -/
theorem freedCandidates_cons (text : Bytes) (texts : List Bytes)
    (heap : Heap (NiceCandidate α)) :
    heap ++ freedCandidates setFromString locals (text :: texts) =
      (heap ++ freedCandidates setFromString locals [text]) ++
        freedCandidates setFromString locals texts := by
  simp [freedCandidates]

/-- The pointers are to the host candidates, in order. -/
theorem map_value?_hostPointers (texts : List Bytes) (heap : Heap (NiceCandidate α)) :
    (hostPointers heap.length texts).map
        (Heap.value? (heap ++ freedCandidates setFromString locals texts)) =
      (hosts setFromString locals texts).map some := by
  induction texts generalizing heap with
  | nil => rfl
  | cons text texts ih =>
    have htype : (Candidate.ofString setFromString locals text).type = Candidate.type text := rfl
    have hrest := ih (heap ++ freedCandidates setFromString locals [text])
    rw [← freedCandidates_cons, List.length_append] at hrest
    have hlen : (freedCandidates setFromString locals [text]).length = 1 := rfl
    have hfirst : Heap.value? (heap ++ freedCandidates setFromString locals (text :: texts))
        heap.length = some (Candidate.ofString setFromString locals text) :=
      Heap.value?_append_cons ..
    rw [hlen] at hrest
    by_cases hhost : Candidate.type text = .host
    · simp [hostPointers, hosts, htype, hhost, hfirst, hrest]
    · simp [hostPointers, hosts, htype, hhost, hrest]

/-- But none of them is still allocated. -/
theorem deref_of_mem_hostPointers (texts : List Bytes) (heap : Heap (NiceCandidate α)) :
    ∀ p ∈ hostPointers heap.length texts,
      Heap.deref (heap ++ freedCandidates setFromString locals texts) p = none := by
  induction texts generalizing heap with
  | nil => simp [hostPointers]
  | cons text texts ih =>
    have hrest := ih (heap ++ freedCandidates setFromString locals [text])
    rw [← freedCandidates_cons, List.length_append] at hrest
    have hlen : (freedCandidates setFromString locals [text]).length = 1 := rfl
    have hfirst : Heap.deref (heap ++ freedCandidates setFromString locals (text :: texts))
        heap.length = none :=
      Heap.deref_append_cons ..
    rw [hlen] at hrest
    intro p hp
    rw [hostPointers] at hp
    split at hp
    · rcases List.mem_cons.1 hp with rfl | hp
      · exact hfirst
      · exact hrest p hp
    · exact hrest p hp

theorem hosts_eq_nil_iff (texts : List Bytes) :
    hosts setFromString locals texts = [] ↔ ∀ text ∈ texts, Candidate.type text ≠ .host := by
  rw [hosts, List.filter_eq_nil_iff, List.forall_mem_map]
  simp only [beq_iff_eq]
  rfl

/-- What a call is to receive: for its component the candidates of type host, in order and
each still allocated. -/
def Handed (call : SetCall α) (component : Nat) (texts : List Bytes) : Prop :=
  call.component = component ∧
    call.cands.map call.heap.deref = (hosts setFromString locals texts).map some

theorem handed_iff (component : Nat) (texts : List Bytes) (heap : Heap (NiceCandidate α)) :
    Handed setFromString locals
        { component
          cands := (setLoop setFromString locals heap [] texts).2
          heap := (setLoop setFromString locals heap [] texts).1 } component texts ↔
      ∀ text ∈ texts, Candidate.type text ≠ .host := by
  have hvalue := map_value?_hostPointers setFromString locals texts heap
  have hderef := deref_of_mem_hostPointers setFromString locals texts heap
  rw [← hosts_eq_nil_iff setFromString locals, Handed, setLoop_eq]
  simp only [List.nil_append, true_and]
  constructor
  · intro h
    cases hhosts : hosts setFromString locals texts with
    | nil => rfl
    | cons c cs =>
      -- the first pointer would have to be to the first of them
      rw [hhosts] at h
      obtain ⟨p, ps, hp, hfirst, -⟩ := List.map_eq_cons_iff.1 h
      rw [hderef p (hp ▸ List.mem_cons_self)] at hfirst
      cases hfirst
  · intro h
    rw [h, List.map_nil, List.map_eq_nil_iff] at hvalue
    rw [h, hvalue]
    rfl

/-- The candidates that have been collected from texts. -/
def collect (sdps : List Bytes) (w : WebAgent) : WebAgent :=
  sdps.foldl (fun w sdp => (w.handleCandidateFromWeb sdp).1) w

theorem mem_handleCandidateFromWeb (sdp : Bytes) (w : WebAgent) (text : Bytes) :
    text ∈ (w.handleCandidateFromWeb sdp).1.remoteRTPCandidates ++
        (w.handleCandidateFromWeb sdp).1.remoteRTCPCandidates ↔
      text ∈ w.remoteRTPCandidates ++ w.remoteRTCPCandidates ∨ text = sdp ∧ text ≠ [] := by
  unfold WebAgent.handleCandidateFromWeb
  by_cases hlen : 0 < sdp.length
  · have hne : sdp ≠ [] := List.length_pos_iff.1 hlen
    have hnew : text = sdp ∧ text ≠ [] ↔ text = sdp :=
      and_iff_left_of_imp fun heq => heq ▸ hne
    rw [if_pos hlen, hnew]
    split
    · simp only [List.mem_append, List.mem_singleton]
      exact or_right_comm
    · simp only [List.mem_append, List.mem_singleton]
      exact or_assoc.symm
  · obtain rfl : sdp = [] := List.length_eq_zero_iff.1 (by omega)
    rw [if_neg hlen]
    simp

/-- What is collected are the texts that are not empty. -/
theorem mem_collect (sdps : List Bytes) (w : WebAgent) (text : Bytes) :
    text ∈ (collect sdps w).remoteRTPCandidates ++ (collect sdps w).remoteRTCPCandidates ↔
      text ∈ w.remoteRTPCandidates ++ w.remoteRTCPCandidates ∨ text ∈ sdps ∧ text ≠ [] := by
  induction sdps generalizing w with
  | nil => simp [collect]
  | cons sdp sdps ih =>
    have hrest := ih (w.handleCandidateFromWeb sdp).1
    rw [mem_handleCandidateFromWeb] at hrest
    rw [collect, List.foldl_cons, ← collect, hrest, List.mem_cons, or_and_right, or_assoc]

/-- Both calls receive what they are to receive exactly when no text that was collected is
of type host, so that both lists are empty. -/
theorem setRemoteCandidates_handed_iff (heap : Heap (NiceCandidate α)) (sdps : List Bytes) :
    (∃ rtp rtcp,
      setRemoteCandidates setFromString locals heap (collect sdps .fresh) = [rtp, rtcp] ∧
        Handed setFromString locals rtp 1 (collect sdps .fresh).remoteRTPCandidates ∧
        Handed setFromString locals rtcp 2 (collect sdps .fresh).remoteRTCPCandidates) ↔
      ∀ sdp ∈ sdps, sdp ≠ [] → Candidate.type sdp ≠ .host := by
  have hcollect := mem_collect sdps .fresh
  have hfresh : WebAgent.fresh.remoteRTPCandidates ++ WebAgent.fresh.remoteRTCPCandidates = [] :=
    rfl
  simp only [hfresh, List.not_mem_nil, false_or] at hcollect
  have hrtp := handed_iff setFromString locals 1 (collect sdps .fresh).remoteRTPCandidates heap
  have hrtcp := handed_iff setFromString locals 2 (collect sdps .fresh).remoteRTCPCandidates
    (setLoop setFromString locals heap [] (collect sdps .fresh).remoteRTPCandidates).1
  constructor
  · intro h sdp hsdp hne
    rcases h with ⟨rtp, rtcp, heq, hhanded, hhanded'⟩
    obtain ⟨rfl, htail⟩ := List.cons.inj heq
    obtain ⟨rfl, -⟩ := List.cons.inj htail
    rcases List.mem_append.1 ((hcollect sdp).2 ⟨hsdp, hne⟩) with hmem | hmem
    · exact hrtp.1 hhanded sdp hmem
    · exact hrtcp.1 hhanded' sdp hmem
  · intro h
    refine ⟨_, _, rfl, hrtp.2 fun text hmem => ?_, hrtcp.2 fun text hmem => ?_⟩
    · obtain ⟨hsdp, hne⟩ := (hcollect text).1 (List.mem_append_left _ hmem)
      exact h text hsdp hne
    · obtain ⟨hsdp, hne⟩ := (hcollect text).1 (List.mem_append_right _ hmem)
      exact h text hsdp hne

end

/-- One host candidate is enough: its pointer is passed when it has been freed. -/
theorem not_setRemoteCandidates_handed :
    ¬ ∀ sdps : List Bytes, ∃ rtp rtcp,
      setRemoteCandidates some { ip := [], port := 0 } [] (collect sdps .fresh) = [rtp, rtcp] ∧
        Handed some { ip := [], port := 0 } rtp 1 (collect sdps .fresh).remoteRTPCandidates ∧
        Handed some { ip := [], port := 0 } rtcp 2
          (collect sdps .fresh).remoteRTCPCandidates := by
  intro h
  let text := bytes "a=candidate:1 1 udp 2130706431 10.0.0.1 5000 typ host\r\n"
  have htype : Candidate.type text = .host := by decide +kernel
  have hcollect : (collect [text] .fresh).remoteRTPCandidates = [text] := by decide +kernel
  rcases h [text] with ⟨rtp, rtcp, heq, hhanded, -⟩
  obtain ⟨rfl, -⟩ := List.cons.inj heq
  rw [hcollect] at hhanded
  exact (handed_iff _ _ _ _ _).1 hhanded text List.mem_cons_self htype

end MediaGateway.Ice
