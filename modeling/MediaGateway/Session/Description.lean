import MediaGateway.Session.History

/-!
# The description to IMS

`sendOfferOrAnswerToIMS` is reached from three handlers and guarded by two flags
that stay set.  This module relates the packets a session sends to IMS to the
messages it was given.

* `triggers` lists the messages of a run that make the session send.
* `packetsToIMS_run` says that a run sends one packet for each of them.
* `Stands` says that the message a packet carries is an accepted web
  description, with another SDP.

`describes_once_iff` puts these together: a session sends at most one
description, and for an accepted one, exactly when the messages trigger at most
once and at an accepted description.
-/

namespace MediaGateway

open Lib MediaSession

variable {cfg : Config} {self : Nat} {hist : List Signal}

/-! ## Packets and triggers -/

/-- The messages among `sigs`, handled after `hist`, that make the session send
to IMS. -/
def triggers : List Signal → List Signal → List Signal
  | _, [] => []
  | hist, e :: sigs =>
    (if isTrigger hist e then [e] else []) ++ triggers (hist ++ [e]) sigs

/-- The run sends one packet for each trigger. -/
theorem packetsToIMS_run_length {st : MediaSession × Timer} (h : Tracks cfg hist st.1)
    (sigs : List Signal) :
    (packetsToIMS ((session cfg self).run st sigs).2).length = (triggers hist sigs).length := by
  induction sigs generalizing hist st with
  | nil => rfl
  | cons e sigs ih =>
    rw [Transducer.run_cons, packetsToIMS_append, packetsToIMS_step h, triggers,
      List.length_append, List.length_append, ih (tracks_step h e)]
    split <;> rfl

/-! ## What a packet stands for -/

/-- The message that `hist` has a packet stand for is a web description that
was accepted. -/
def standsForAccepted (hist : List Signal) : Bool :=
  match standsFor hist with
  | none => false
  | some d => d.accepted

/-- The packet is an accepted web description with its SDP replaced, and it is
the one that `hist` has a packet stand for. -/
def Stands (hist : List Signal) (m : SessionMessage) : Prop :=
  ∃ d sdp, standsFor hist = some d ∧ d.accepted = true ∧ m = d.message.withSdp sdp

theorem standsForAccepted_iff :
    standsForAccepted hist = true ↔ ∃ d, standsFor hist = some d ∧ d.accepted = true := by
  unfold standsForAccepted
  cases standsFor hist with
  | none => simp
  | some d => simp

theorem stands_packetToIMS_iff {s : MediaSession} (h : Tracks cfg hist s) (env : Env) :
    Stands hist (packetToIMS cfg env s) ↔ standsForAccepted hist = true := by
  rw [standsForAccepted_iff]
  constructor
  · intro hex
    rcases hex with ⟨d, -, hd, hacc, -⟩
    exact ⟨d, hd, hacc⟩
  · intro hex
    rcases hex with ⟨d, hd, hacc⟩
    refine ⟨d, s.imsAgent.createSdpToIMS cfg.codec env.audioPort env.videoPort s.sessionType,
      hd, hacc, ?_⟩
    rw [packetToIMS, original_of_standsFor h hd]

/-- What one step sends stands for an accepted description exactly when the step
is no trigger, or triggers at one. -/
theorem stands_step_iff {st : MediaSession × Timer} (h : Tracks cfg hist st.1) (e : Signal) :
    (∀ m ∈ packetsToIMS ((session cfg self).step st e).2, Stands (hist ++ [e]) m) ↔
      (isTrigger hist e = true → standsForAccepted (hist ++ [e]) = true) := by
  have hread := tracks_read h e
  rw [packetsToIMS_step h]
  split
  · rename_i htrig
    simp only [List.mem_singleton, forall_eq, htrig, true_imp_iff]
    exact stands_packetToIMS_iff hread e.env
  · rename_i htrig
    simp [htrig]

/-! ## At most one description, for an accepted one -/

/-- At most one packet goes to IMS, and each stands for a web description that
was accepted. -/
def DescribesOnce (cfg : Config) (self : Nat) (t : Timer) (sigs : List Signal) : Prop :=
  (packetsToIMS ((session cfg self).run (newSession cfg t) sigs).2).length ≤ 1 ∧
    ∀ pre e post, sigs = pre ++ e :: post →
      ∀ m ∈ packetsToIMS
          ((session cfg self).step ((session cfg self).run (newSession cfg t) pre).1 e).2,
        Stands (pre ++ [e]) m

/-- A run of a session sends at most one description, and for an accepted one,
exactly when its messages trigger at most once and each trigger finds an
accepted description standing. -/
theorem describes_once_iff (cfg : Config) (self : Nat) (t : Timer) (sigs : List Signal) :
    DescribesOnce cfg self t sigs ↔
      (triggers [] sigs).length ≤ 1 ∧
        ∀ pre e post, sigs = pre ++ e :: post →
          isTrigger pre e = true → standsForAccepted (pre ++ [e]) = true := by
  unfold DescribesOnce
  rw [packetsToIMS_run_length (tracks_new cfg t)]
  refine and_congr_right fun _ => ?_
  refine forall_congr' fun pre => forall_congr' fun e => forall_congr' fun post =>
    imp_congr_right fun _ => ?_
  exact stands_step_iff (tracks_run cfg self t pre) e

/-- A refused offer goes to IMS with the last candidate, and a second end marker
sends an accepted offer again. -/
theorem not_describes_once :
    ¬ DescribesOnce (Config.over []) 0 Timer.init
        [audioSdp .offerFromWeb RoapType.offer "0", endMarker] ∧
      ¬ DescribesOnce (Config.over []) 0 Timer.init
        [audioSdp .offerFromWeb RoapType.offer "8", endMarker, endMarker] := by
  constructor
  · intro hboth
    rcases hboth with ⟨-, hstands⟩
    have hfirst := (stands_step_iff (tracks_run (Config.over []) 0 Timer.init _) _).1
      (hstands [audioSdp .offerFromWeb RoapType.offer "0"] endMarker [] rfl)
    revert hfirst
    decide
  · intro hboth
    rcases hboth with ⟨honce, -⟩
    rw [packetsToIMS_run_length (tracks_new (Config.over []) Timer.init)] at honce
    revert honce
    decide

end MediaGateway
