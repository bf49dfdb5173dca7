import MediaGateway.Lib.Rounds
import MediaGateway.Session.Media

/-!
# Asking for key frames

`receiveDataCallback` counts the video packets from the browser and has
`sendrtcp` ask for a full frame at every 188th.  The counter is a static variable
of the function, and all sessions of the process count with it (`fleet`).

`keyFrames_iff` says for which interleavings each session still asks at every
188th of its own packets: those in which each whole round of the counter belongs
to one session.
-/

namespace MediaGateway

open Lib

/-! ## All sessions of the process -/

/-- The sessions, by number, with the timer tables and the static variables that
they share. -/
structure Fleet where
  sessions : Nat → MediaSession
  timer : Timer
  statics : Statics

/-- What happens to the session `self`.  All sessions are in the fleet, so none
outside of it counts a packet. -/
structure FleetEvent where
  self : Nat
  event : MediaEvent
  inside : event ≠ .counted

/-- One of the sessions with what it shares. -/
def Fleet.live (f : Fleet) (self : Nat) : Live where
  session := f.sessions self
  timer := f.timer
  statics := f.statics

/-- The sessions as one machine. -/
def fleet (cfg : Config) : Transducer Fleet FleetEvent (Nat × Action) where
  step := fun f e =>
    let r := (mediaSession cfg e.self).step (f.live e.self) e.event
    ( { sessions := Function.update f.sessions e.self r.1.session
        timer := r.1.timer
        statics := r.1.statics }
    , r.2.map fun act => (e.self, act) )

/-- A video packet from the browser that `receiveDataCallback` takes. -/
def TakesVideo (w : WebAgent) : MediaEvent → Prop
  | .received _ componentID _ buf =>
    Taken w componentID buf ∧ (RTP_HEADER.payload buf : Int) ≠ PT_PCMA_DEFAULT ∧
      (RTP_HEADER.payload buf : Int) = w.vPayload
  | _ => False

instance (w : WebAgent) : (e : MediaEvent) → Decidable (TakesVideo w e)
  | .received _ _ _ _ => inferInstanceAs (Decidable (_ ∧ _))
  | .signal _ => .isFalse id
  | .forWeb _ _ _ _ => .isFalse id
  | .stateChanged _ _ => .isFalse id
  | .counted => .isFalse id

/-- `sendrtcp` has run. -/
def Action.isRtcp : Action → Bool
  | .srtp .protectRtcp _ => true
  | _ => false

/-- For a video packet that is taken, its session and whether `sendrtcp` ran. -/
def videoPacket (f : Fleet) (e : FleetEvent) (done : List (Nat × Action)) : List (Nat × Bool) :=
  if TakesVideo (f.sessions e.self).webAgent e.event then
    [(e.self, done.any fun act => act.2.isRtcp)]
  else
    []

/-- The video packets of a run, in the order in which they are counted. -/
def videoPackets (cfg : Config) (f : Fleet) (es : List FleetEvent) : List (Nat × Bool) :=
  (fleet cfg).observe videoPacket f es

/-! ## One packet -/

/-- The packets that are counted are the video packets that are taken. -/
theorem statics_step (cfg : Config) (f : Fleet) (e : FleetEvent) :
    ((fleet cfg).step f e).1.statics =
      if TakesVideo (f.sessions e.self).webAgent e.event then f.statics.count else f.statics := by
  obtain ⟨self, event, inside⟩ := e
  cases event with
  | signal e => rfl
  | forWeb srtp mediaData len type => rfl
  | stateChanged componentID state => rfl
  | counted => exact absurd rfl inside
  | received srtp componentID len buf =>
    have hstatics :
        ((fleet cfg).step f ⟨self, .received srtp componentID len buf, inside⟩).1.statics =
        ((f.sessions self).webAgent.receiveDataCallback cfg srtp componentID len buf
          (f.sessions self).imsAgent f.statics).2.1 := rfl
    rw [hstatics]
    by_cases hvideo : TakesVideo (f.sessions self).webAgent (.received srtp componentID len buf)
    · rw [if_pos hvideo, received_of_taken hvideo.1]
      dsimp only
      rw [if_neg hvideo.2.1, if_pos hvideo.2.2]
    · rw [if_neg hvideo]
      by_cases htaken : Taken (f.sessions self).webAgent componentID buf
      · rw [received_of_taken htaken]
        dsimp only
        by_cases haudio : (RTP_HEADER.payload buf : Int) = PT_PCMA_DEFAULT
        · rw [if_pos haudio]
        · rw [if_neg haudio, if_neg fun hpayload => hvideo ⟨htaken, haudio, hpayload⟩]
      · rw [received_of_not_taken htaken]

/-- `sendrtcp` runs at a video packet when the counter is due. -/
theorem any_isRtcp_step (cfg : Config) (f : Fleet) (e : FleetEvent)
    (h : TakesVideo (f.sessions e.self).webAgent e.event) :
    (((fleet cfg).step f e).2.any fun act => act.2.isRtcp) = f.statics.due := by
  obtain ⟨self, event, inside⟩ := e
  cases event with
  | signal e => exact h.elim
  | forWeb srtp mediaData len type => exact h.elim
  | stateChanged componentID state => exact h.elim
  | counted => exact h.elim
  | received srtp componentID len buf =>
    obtain ⟨htaken, haudio, hvideo⟩ := h
    have hdone : ((fleet cfg).step f ⟨self, .received srtp componentID len buf, inside⟩).2 =
        ((f.sessions self).webAgent.receiveDataCallback cfg srtp componentID len buf
          (f.sessions self).imsAgent f.statics).2.2.map fun act => (self, act) := rfl
    rw [hdone, received_of_taken htaken, List.any_map]
    dsimp only
    rw [if_neg haudio, if_pos hvideo]
    obtain ⟨-, hconv, hready, -⟩ := htaken
    cases hdue : f.statics.due with
    | false => rfl
    | true =>
      simp only [if_true, WebAgent.sendrtcp, hconv, hready, Bool.and_self]
      rfl

/-! ## All packets -/

open Statics in
/-- The static variable marks every 188th video packet of the process. -/
theorem videoPackets_eq_marks (cfg : Config) (f : Fleet) (es : List FleetEvent) :
    videoPackets cfg f es =
      Rounds.marks SEND_RTCP_INTERVAL f.statics.cnt ((videoPackets cfg f es).map Prod.fst) := by
  induction es generalizing f with
  | nil => rfl
  | cons e es ih =>
    have hrest := ih ((fleet cfg).step f e).1
    have hstatics := statics_step cfg f e
    have hcons : videoPackets cfg f (e :: es) =
        videoPacket f e ((fleet cfg).step f e).2 ++
          videoPackets cfg ((fleet cfg).step f e).1 es := rfl
    rw [hcons]
    by_cases h : TakesVideo (f.sessions e.self).webAgent e.event
    · rw [if_pos h] at hstatics
      have hcount : f.statics.count.cnt =
          if f.statics.cnt + 1 == SEND_RTCP_INTERVAL then 0 else f.statics.cnt + 1 := by
        unfold Statics.count Statics.due
        split <;> rfl
      rw [hstatics, hcount] at hrest
      rw [videoPacket, if_pos h, any_isRtcp_step cfg f e h, List.cons_append, List.nil_append,
        List.map_cons, Rounds.marks, ← hrest]
      rfl
    · rw [if_neg h] at hstatics
      rw [videoPacket, if_neg h, List.nil_append]
      rwa [hstatics] at hrest

/-- From the start of the process, each session asks for a full frame at every
188th of its own video packets exactly when each whole round of 188 packets is
one session's. -/
theorem keyFrames_iff (cfg : Config) (sessions : Nat → MediaSession) (timer : Timer)
    (es : List FleetEvent) :
    (∀ self, Rounds.Regular Statics.SEND_RTCP_INTERVAL
      (Rounds.own self (videoPackets cfg { sessions, timer, statics := Statics.init } es))) ↔
      Rounds.Whole Statics.SEND_RTCP_INTERVAL
        ((videoPackets cfg { sessions, timer, statics := Statics.init } es).map Prod.fst) := by
  have hmarks : videoPackets cfg { sessions, timer, statics := Statics.init } es =
      Rounds.marks Statics.SEND_RTCP_INTERVAL 0
        ((videoPackets cfg { sessions, timer, statics := Statics.init } es).map Prod.fst) :=
    videoPackets_eq_marks ..
  rw [← Rounds.regular_own_marks_iff (by decide), ← hmarks]

/-- A call of the session `self` is set up. -/
def FleetEvent.establishing (self : Nat) : List FleetEvent :=
  [ { self, event := .signal (audioSdp .offerFromWeb RoapType.offer "8"), inside := nofun }
  , { self, event := .signal (audioSdp .answerFromIMS RoapType.answer "8"), inside := nofun }
  , { self, event := .stateChanged 1 4, inside := nofun } ]

/-- A video packet from the browser of the session `self`. -/
def FleetEvent.video (self : Nat) : FleetEvent where
  self := self
  event := .received Srtp.refusing 1 12 [0x80, 112, 0, 1, 0, 0, 0, 0, 0, 0, 0, 9]
  inside := nofun

/-- After 187 packets of one session the first one of another has `sendrtcp` run,
and the 188th of the first session does not. -/
theorem not_keyFrames :
    ¬ ∀ self, Rounds.Regular Statics.SEND_RTCP_INTERVAL
      (Rounds.own self (videoPackets (Config.over [])
        { sessions := fun _ => MediaSession.fresh (Config.over [])
          timer := Timer.init
          statics := Statics.init }
        (FleetEvent.establishing 0 ++ FleetEvent.establishing 1 ++
          List.replicate 187 (FleetEvent.video 0) ++
          [FleetEvent.video 1, FleetEvent.video 0]))) := by
  intro h
  have hflag := h 0 187 false (by decide +kernel)
  exact Bool.false_ne_true (hflag.2 ⟨1, rfl⟩)

end MediaGateway
