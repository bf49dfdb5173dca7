import MediaGateway.NiceCandidate
import MediaGateway.Session.History

/-!
# Trickled candidates

The browser's candidates arrive one message at a time, closed by one with an
empty text, and may come before, around or after the web description.  This
module shows that the order does not matter: nothing goes to IMS or to ICE until
both the description and the end marker are there (`exchange_run_quiet`), and
then everything goes at once (`trickle_order_free`).

Two things keep a component from being handed exactly its own texts.
`handleCandidateFromWeb` files a text under RTP when its component is `1` and
under RTCP otherwise, so RTCP gets the texts of every other component too.  And
every text is scanned into buffers of fixed size (`scannedTexts`), when it
arrives and again in `setRemoteCandidates`: an IPv6 address is too long for
`ip`.  `trickled_right_iff` says that these are all.
-/

namespace MediaGateway

open Lib MediaSession

variable {cfg : Config} {self : Nat} {hist : List Signal}

/-! ## Before both have arrived -/

theorem not_isTrigger {e : Signal}
    (h : ((hist ++ [e]).any Signal.describes && (hist ++ [e]).any Signal.ends) = false) :
    isTrigger hist e = false := by
  unfold isTrigger
  rw [Bool.and_assoc, h, Bool.and_false]

/-- While the description or the end marker is missing, a session hands nothing
to ICE and sends nothing to IMS. -/
theorem exchange_run_quiet {st : MediaSession × Timer} (h : Tracks cfg hist st.1)
    {sigs : List Signal}
    (hquiet : ((hist ++ sigs).any Signal.describes && (hist ++ sigs).any Signal.ends) = false) :
    ((session cfg self).run st sigs).2.filter Action.isExchange = [] := by
  induction sigs generalizing hist st with
  | nil => rfl
  | cons e sigs ih =>
    rw [List.append_cons] at hquiet
    have hstep : ((hist ++ [e]).any Signal.describes && (hist ++ [e]).any Signal.ends) = false := by
      have hboth := hquiet
      simp only [List.any_append, Bool.and_eq_false_iff, Bool.or_eq_false_iff] at hboth ⊢
      exact hboth.imp And.left And.left
    rw [Transducer.run_cons, List.filter_append, exchange_step h, not_isTrigger hstep,
      ih (tracks_step h e) hquiet]
    rfl

/-! ## The two kinds of calls -/

/-- The messages of a call up to its last candidate: the web description `d` and
the messages `trickle` in their order.  An offer from the web comes first; an
answer to an offer from IMS may come anywhere. -/
inductive TrickledCall (d : Signal) (trickle : List Signal) : List Signal → Prop
  | fromWeb (hd : d.handler = .offerFromWeb) : TrickledCall d trickle (d :: trickle)
  | fromIMS (offer : Signal) (pre post : List Signal) (hoffer : offer.handler = .offerFromIMS)
      (hd : d.handler = .answerFromWeb) (htrickle : trickle = pre ++ post) :
      TrickledCall d trickle (offer :: (pre ++ d :: post))

/-- Candidates, closed by the empty one. -/
structure ClosedTrickle (cands : List Signal) (mark : Signal) : Prop where
  isCandidate : ∀ e ∈ cands, e.handler = .candidateFromWeb ∧ e.sdp ≠ []
  isMark : mark.handler = .candidateFromWeb ∧ mark.sdp = []

namespace ClosedTrickle

variable {cands : List Signal} {mark : Signal}

theorem handler (h : ClosedTrickle cands mark) :
    ∀ e ∈ cands ++ [mark], e.handler = .candidateFromWeb := by
  intro e he
  rcases List.mem_append.1 he with he | he
  · exact (h.isCandidate e he).1
  · rw [List.mem_singleton.1 he]
    exact h.isMark.1

theorem not_ends (h : ClosedTrickle cands mark) : ∀ e ∈ cands, e.ends = false := by
  intro e he
  simp [Signal.ends, (h.isCandidate e he).2]

theorem candidateTexts_eq (h : ClosedTrickle cands mark) :
    candidateTexts (cands ++ [mark]) = cands.map Signal.sdp := by
  rw [candidateTexts_snoc]
  have hmark : mark.candidate? = none := by simp [Signal.candidate?, h.isMark.2]
  have hcands : ∀ e ∈ cands, e.candidate? = some e.sdp := by
    intro e he
    obtain ⟨hhandler, hsdp⟩ := h.isCandidate e he
    simp [Signal.candidate?, hhandler, hsdp]
  rw [hmark, Option.toList_none, List.append_nil, candidateTexts,
    List.filterMap_congr hcands, List.filterMap_eq_map']

end ClosedTrickle

namespace TrickledCall

variable {d : Signal} {trickle sigs : List Signal}

/-- Of the messages with a property that no candidate has, the last one is the
web description or the offer from IMS before it. -/
theorem lastOf_eq (h : TrickledCall d trickle sigs)
    (htrickle : ∀ e ∈ trickle, e.handler = .candidateFromWeb) :
    (d.handler = .offerFromWeb ∧ ∀ p : Signal → Bool,
        (∀ e : Signal, e.handler = .candidateFromWeb → p e = false) →
          lastOf p sigs = if p d then some d else none) ∨
      ∃ offer, offer.handler = .offerFromIMS ∧ d.handler = .answerFromWeb ∧
        ∀ p : Signal → Bool, (∀ e : Signal, e.handler = .candidateFromWeb → p e = false) →
          lastOf p sigs = if p d then some d else if p offer then some offer else none := by
  have hnone : ∀ p : Signal → Bool,
      (∀ e : Signal, e.handler = .candidateFromWeb → p e = false) →
        ∀ xs : List Signal, (∀ e ∈ xs, e ∈ trickle) → xs.filter p = [] := by
    intro p hp xs hxs
    rw [List.filter_eq_nil_iff]
    intro e he
    rw [hp e (htrickle e (hxs e he))]
    exact Bool.false_ne_true
  cases h with
  | fromWeb hd =>
    refine .inl ⟨hd, fun p hp => ?_⟩
    rw [lastOf, List.filter_cons, hnone p hp trickle fun _ he => he]
    split <;> rfl
  | fromIMS offer pre post hoffer hd hsplit =>
    refine .inr ⟨offer, hoffer, hd, fun p hp => ?_⟩
    subst hsplit
    rw [lastOf, List.filter_cons, List.filter_append,
      hnone p hp pre fun _ he => List.mem_append_left _ he, List.filter_cons,
      hnone p hp post fun _ he => List.mem_append_right _ he, List.nil_append]
    cases p d <;> cases p offer <;> rfl

theorem lastOf_carriesSdp (h : TrickledCall d trickle sigs)
    (htrickle : ∀ e ∈ trickle, e.handler = .candidateFromWeb) :
    lastOf Signal.carriesSdp sigs = some d := by
  have hp : ∀ e : Signal, e.handler = .candidateFromWeb → e.carriesSdp = false := by
    simp +contextual [Signal.carriesSdp]
  rcases h.lastOf_eq htrickle with ⟨hd, heq⟩ | ⟨offer, -, hd, heq⟩
  · rw [heq _ hp, if_pos (by simp [Signal.carriesSdp, hd])]
  · rw [heq _ hp, if_pos (by simp [Signal.carriesSdp, hd])]

/-- A packet to IMS carries the web description of the call. -/
theorem standsFor_eq (h : TrickledCall d trickle sigs)
    (htrickle : ∀ e ∈ trickle, e.handler = .candidateFromWeb) : standsFor sigs = some d := by
  have hoffers : ∀ e : Signal, e.handler = .candidateFromWeb → e.isOffer = false := by
    simp +contextual [Signal.isOffer]
  have hanswers : ∀ e : Signal, e.handler = .candidateFromWeb → e.isAnswer = false := by
    simp +contextual [Signal.isAnswer]
  unfold standsFor webCalls
  rcases h.lastOf_eq htrickle with ⟨hd, heq⟩ | ⟨offer, hoffer, hd, heq⟩
  · rw [heq _ hoffers]
    simp [Signal.isOffer, hd]
  · rw [heq _ hoffers, heq _ hanswers]
    simp [Signal.isOffer, Signal.isAnswer, hd, hoffer]

theorem candidateTexts_eq (h : TrickledCall d trickle sigs) :
    candidateTexts sigs = candidateTexts trickle := by
  unfold candidateTexts
  cases h with
  | fromWeb hd => simp [Signal.candidate?, hd]
  | fromIMS offer pre post hoffer hd hsplit => simp [Signal.candidate?, hd, hoffer, hsplit]

/-- The last message is the later of the description and the end marker, and
the other one came before. -/
theorem exists_snoc {cands : List Signal} {mark : Signal}
    (h : TrickledCall d (cands ++ [mark]) sigs) (ht : ClosedTrickle cands mark) :
    ∃ body z, sigs = body ++ [z] ∧
      (z = d ∧ mark ∈ body ∧ body.any Signal.describes = false ∨
        z = mark ∧ d ∈ body ∧ body.any Signal.ends = false) := by
  have hcands : ∀ e ∈ cands, e.describes = false := by
    intro e he
    simp [Signal.describes, (ht.isCandidate e he).1]
  have hmark : mark.describes = false := by simp [Signal.describes, ht.isMark.1]
  cases h with
  | fromWeb hd =>
    refine ⟨d :: cands, mark, rfl, .inr ⟨rfl, List.mem_cons_self, ?_⟩⟩
    simpa [Signal.ends, hd] using ht.not_ends
  | fromIMS offer pre post hoffer hd hsplit =>
    have hofferEnds : offer.ends = false := by simp [Signal.ends, hoffer]
    have hofferDescribes : offer.describes = false := by simp [Signal.describes, hoffer]
    have hdEnds : d.ends = false := by simp [Signal.ends, hd]
    rcases List.eq_nil_or_concat post with rfl | ⟨post, z, rfl⟩
    · rw [List.append_nil] at hsplit
      subst hsplit
      refine ⟨offer :: (cands ++ [mark]), d, rfl, .inl ⟨rfl, by simp, ?_⟩⟩
      simpa [hofferDescribes, hmark] using hcands
    · rw [List.concat_eq_append, ← List.append_assoc] at hsplit
      obtain ⟨rfl, hz⟩ := List.append_inj' hsplit rfl
      obtain rfl := (List.cons.inj hz).1
      refine ⟨offer :: (pre ++ d :: post), mark, by simp, .inr ⟨rfl, by simp, ?_⟩⟩
      have hnot := ht.not_ends
      simp only [List.any_cons, List.any_append, hofferEnds, hdEnds, Bool.false_or]
      simpa [or_imp, forall_and] using hnot

end TrickledCall

/-! ## Everything at once -/

/-- What the gateway hands to ICE and to IMS for the description `d`: the texts
for the two components, and `d` with its SDP replaced by the one
`createSdpToIMS` builds. -/
def exchanged (cfg : Config) (env : Env) (agent : ImsAgent) (d : Signal) (rtp rtcp : List Bytes) :
    List Action :=
  [ WebAgent.setCandidates 1 rtp
  , WebAgent.setCandidates 2 rtcp
  , .sendPacketToSG .ims
      (d.message.withSdp
        (agent.createSdpToIMS cfg.codec env.audioPort env.videoPort (Sdp.sessionType d.sdp))) ]

/-- For every list of candidates closed by the empty one and every place of an
accepted web description among them, the session hands nothing to ICE or IMS
before the later of the description and the end marker, and then everything,
once: the texts of component `1` for RTP, all others for RTCP, each in arrival
order. -/
theorem trickle_order_free (cfg : Config) (self : Nat) (t : Timer) {d mark : Signal}
    {cands sigs : List Signal} (hd : d.accepted = true) (ht : ClosedTrickle cands mark)
    (hcall : TrickledCall d (cands ++ [mark]) sigs) :
    ∃ body z, sigs = body ++ [z] ∧
      (z = d ∧ mark ∈ body ∨ z = mark ∧ d ∈ body) ∧
      ((session cfg self).run (newSession cfg t) body).2.filter Action.isExchange = [] ∧
      ((session cfg self).step ((session cfg self).run (newSession cfg t) body).1 z).2.filter
          Action.isExchange =
        exchanged cfg z.env (agentOf cfg sigs) d ((cands.map Signal.sdp).filter Candidate.isRTP)
          ((cands.map Signal.sdp).filter fun text => !Candidate.isRTP text) := by
  obtain ⟨body, z, rfl, hlater⟩ := hcall.exists_snoc ht
  have hdescribes : d.describes = true := by
    rw [Signal.accepted, Bool.and_eq_true] at hd
    exact hd.1
  have hmark : mark.ends = true := by simp [Signal.ends, ht.isMark]
  have hmem : d ∈ body ++ [z] ∧ mark ∈ body ++ [z] ∧ (z.accepted || z.ends) = true := by
    rcases hlater with ⟨rfl, hm, -⟩ | ⟨rfl, hm, -⟩
    · simp [hm, hd]
    · simp [hm, hmark]
  have hquiet : (body.any Signal.describes && body.any Signal.ends) = false := by
    rcases hlater with ⟨-, -, hnone⟩ | ⟨-, -, hnone⟩ <;> simp only [hnone, Bool.and_false,
      Bool.false_and]
  have htrigger : isTrigger body z = true := by
    rw [isTrigger, hmem.2.2, List.any_eq_true.2 ⟨d, hmem.1, hdescribes⟩,
      List.any_eq_true.2 ⟨mark, hmem.2.1, hmark⟩]
    rfl
  refine ⟨body, z, rfl, hlater.imp (fun h => ⟨h.1, h.2.1⟩) (fun h => ⟨h.1, h.2.1⟩),
    exchange_run_quiet (tracks_new cfg t) hquiet, ?_⟩
  -- the session as the last message leaves it
  have hbody := tracks_run cfg self t body
  have hread := tracks_read hbody z
  rw [exchange_step hbody, if_pos htrigger, packetToIMS,
    original_of_standsFor hread (hcall.standsFor_eq ht.handler), hread.agent,
    hread.type d (hcall.lastOf_carriesSdp ht.handler), WebAgent.setRemoteCandidates, hread.rtp,
    hread.rtcp, hcall.candidateTexts_eq, ht.candidateTexts_eq]
  rfl

/-! ## The buffers of the scan -/

/-- The texts that `setRemoteCandidates` goes through. -/
def Action.considered : Action → List Bytes
  | .setRemoteCandidates _ texts _ => texts
  | _ => []

/-- The texts that are given to `Candidate(const char[])` while `e` is handled:
the one in the message, and the ones that `setRemoteCandidates` goes through. -/
def scannedTexts (e : Signal) (acts : List Action) : List Bytes :=
  e.candidate?.toList ++ acts.flatMap Action.considered

/-- Every text that the run scans fits the buffers of the scan. -/
def InBuffers (cfg : Config) (self : Nat) (st : MediaSession × Timer) (sigs : List Signal) : Prop :=
  ∀ text ∈ (session cfg self).observe (fun _ => scannedTexts) st sigs, Candidate.Fits text

/-- Only an exchange goes through texts, and these have arrived before. -/
theorem mem_considered_step {st : MediaSession × Timer} (h : Tracks cfg hist st.1) {e : Signal}
    {text : Bytes}
    (hmem : text ∈ ((session cfg self).step st e).2.flatMap Action.considered) :
    text ∈ candidateTexts (hist ++ [e]) := by
  obtain ⟨act, hact, htext⟩ := List.mem_flatMap.1 hmem
  have hexchange : act ∈ ((session cfg self).step st e).2.filter Action.isExchange := by
    refine List.mem_filter.2 ⟨hact, ?_⟩
    cases act with
    | setRemoteCandidates component texts passed => rfl
    | _ => cases htext
  have hread := tracks_read h e
  rw [exchange_step h] at hexchange
  split at hexchange
  · simp only [WebAgent.setRemoteCandidates, WebAgent.setCandidates, hread.rtp, hread.rtcp,
      List.cons_append, List.nil_append, List.mem_cons, List.not_mem_nil, or_false] at hexchange
    rcases hexchange with rfl | rfl | rfl
    · exact (List.mem_filter.1 htext).1
    · exact (List.mem_filter.1 htext).1
    · cases htext
  · cases hexchange

/-- A run stays inside the buffers exactly when every text that arrives fits
them. -/
theorem inBuffers_iff {st : MediaSession × Timer} (h : Tracks cfg hist st.1)
    (hhist : ∀ text ∈ candidateTexts hist, Candidate.Fits text) {sigs : List Signal} :
    InBuffers cfg self st sigs ↔ ∀ text ∈ candidateTexts sigs, Candidate.Fits text := by
  induction sigs generalizing hist st with
  | nil => simp [InBuffers, Transducer.observe, candidateTexts]
  | cons e sigs ih =>
    have hcons : candidateTexts (e :: sigs) = e.candidate?.toList ++ candidateTexts sigs := by
      unfold candidateTexts
      cases hc : e.candidate? <;> simp [hc]
    constructor
    · intro hbuf text htext
      have hown : ∀ text ∈ e.candidate?.toList, Candidate.Fits text := fun text ht =>
        hbuf text (List.mem_append_left _ (List.mem_append_left _ ht))
      rw [hcons] at htext
      rcases List.mem_append.1 htext with ht | ht
      · exact hown text ht
      · refine (ih (tracks_step h e) fun text ht => ?_).1
          (fun text ht => hbuf text (List.mem_append_right _ ht)) text ht
        rw [candidateTexts_snoc] at ht
        exact (List.mem_append.1 ht).elim (hhist text) (hown text)
    · intro hfits text htext
      rw [hcons] at hfits
      have hafter : ∀ text ∈ candidateTexts (hist ++ [e]), Candidate.Fits text := by
        intro text ht
        rw [candidateTexts_snoc] at ht
        exact (List.mem_append.1 ht).elim (hhist text)
          fun ht => hfits text (List.mem_append_left _ ht)
      rcases List.mem_append.1 htext with ht | ht
      · rcases List.mem_append.1 ht with ht | ht
        · exact hfits text (List.mem_append_left _ ht)
        · exact hafter text (mem_considered_step h ht)
      · exact (ih (tracks_step h e) hafter).2
          (fun text ht => hfits text (List.mem_append_right _ ht)) text ht

/-! ## Each component and its own texts -/

/-- The texts of a component. -/
def textsOf (component : Int) (texts : List Bytes) : List Bytes :=
  texts.filter fun text => Candidate.componentID text == component

/-- A call is trickled right: nothing goes out before the later of the
description and the end marker, then one packet goes to IMS and each component is
handed exactly its own texts in arrival order, and no text is scanned past the end
of a buffer. -/
structure TrickledRight (cfg : Config) (a : Nat) (t : Timer) (d mark : Signal)
    (cands sigs : List Signal) : Prop where
  once : ∃ body z, sigs = body ++ [z] ∧
    (z = d ∧ mark ∈ body ∨ z = mark ∧ d ∈ body) ∧
    ((session cfg a).run (newSession cfg t) body).2.filter Action.isExchange = [] ∧
    ((session cfg a).step ((session cfg a).run (newSession cfg t) body).1 z).2.filter
        Action.isExchange =
      exchanged cfg z.env (agentOf cfg sigs) d (textsOf 1 (cands.map Signal.sdp))
        (textsOf 2 (cands.map Signal.sdp))
  buffers : InBuffers cfg a (newSession cfg t) sigs

/-- The texts filed under RTCP are those of component `2` when there is no third
one. -/
theorem filter_not_isRTP_iff {texts : List Bytes} :
    (texts.filter fun text => !Candidate.isRTP text) = textsOf 2 texts ↔
      ∀ text ∈ texts, Candidate.componentID text = 1 ∨ Candidate.componentID text = 2 := by
  constructor
  · intro heq text htext
    by_cases hone : Candidate.componentID text = 1
    · exact .inl hone
    · have hfiled : text ∈ texts.filter fun text => !Candidate.isRTP text :=
        List.mem_filter.2 ⟨htext, by simp [Candidate.isRTP, hone]⟩
      rw [heq] at hfiled
      exact .inr (beq_iff_eq.1 (List.mem_filter.1 hfiled).2)
  · intro hall
    refine List.filter_congr fun text htext => ?_
    rcases hall text htext with h | h <;> simp [Candidate.isRTP, h]

/-- For every list of candidates closed by the empty one and every place of an
accepted web description among them, the call is trickled right exactly when each
text is of component `1` or `2` and fits the buffers of the scan. -/
theorem trickled_right_iff (cfg : Config) (self : Nat) (t : Timer) {d mark : Signal}
    {cands sigs : List Signal} (hd : d.accepted = true) (ht : ClosedTrickle cands mark)
    (hcall : TrickledCall d (cands ++ [mark]) sigs) :
    TrickledRight cfg self t d mark cands sigs ↔
      ∀ e ∈ cands, (Candidate.componentID e.sdp = 1 ∨ Candidate.componentID e.sdp = 2) ∧
        Candidate.Fits e.sdp := by
  obtain ⟨body, z, rfl, hlater, hquiet, hstep⟩ := trickle_order_free cfg self t hd ht hcall
  have htexts : candidateTexts (body ++ [z]) = cands.map Signal.sdp := by
    rw [hcall.candidateTexts_eq, ht.candidateTexts_eq]
  have hbuffers : InBuffers cfg self (newSession cfg t) (body ++ [z]) ↔
      ∀ text ∈ cands.map Signal.sdp, Candidate.Fits text := by
    rw [← htexts]
    exact inBuffers_iff (tracks_new cfg t) fun _ hmem => by cases hmem
  constructor
  · intro hright e he
    obtain ⟨body', z', heq, -, -, hstep'⟩ := hright.once
    obtain ⟨rfl, hz⟩ := List.append_inj' heq rfl
    obtain rfl := List.singleton_inj.1 hz
    have hmem : e.sdp ∈ cands.map Signal.sdp := List.mem_map_of_mem he
    refine ⟨filter_not_isRTP_iff.1 ?_ e.sdp hmem, hbuffers.1 hright.buffers e.sdp hmem⟩
    rw [hstep] at hstep'
    simp only [exchanged, WebAgent.setCandidates, List.cons.injEq,
      Action.setRemoteCandidates.injEq] at hstep'
    exact hstep'.2.1.2.1
  · intro hall
    have hrtcp : ((cands.map Signal.sdp).filter fun text => !Candidate.isRTP text) =
        textsOf 2 (cands.map Signal.sdp) := by
      refine filter_not_isRTP_iff.2 fun text hmem => ?_
      obtain ⟨e, he, rfl⟩ := List.mem_map.1 hmem
      exact (hall e he).1
    refine ⟨⟨body, z, rfl, hlater, hquiet, ?_⟩, hbuffers.2 fun text hmem => ?_⟩
    · rw [hstep, hrtcp]
      rfl
    · obtain ⟨e, he, rfl⟩ := List.mem_map.1 hmem
      exact (hall e he).2

/-- An answer from the web between two candidates. -/
theorem trickled_right_around_answer :
    TrickledRight (Config.over []) 0 Timer.init (audioSdp .answerFromWeb RoapType.answer "8")
      endMarker [hostCandidate "1", hostCandidate "2"]
      [ audioSdp .offerFromIMS RoapType.offer "8", hostCandidate "1"
      , audioSdp .answerFromWeb RoapType.answer "8", hostCandidate "2", endMarker ] :=
  (trickled_right_iff (Config.over []) 0 Timer.init (by decide) ⟨by decide, by decide⟩
    (.fromIMS (audioSdp .offerFromIMS RoapType.offer "8") [hostCandidate "1"]
      [hostCandidate "2", endMarker] rfl rfl rfl)).2 (by decide +kernel)

/-- A candidate of type host with an IPv6 address. -/
def ipv6Candidate : Signal where
  handler := .candidateFromWeb
  message := SessionMessage.of RoapType.candidate (bytes "call")
    (bytes "a=candidate:1 1 udp 1 2001:db8::8a2e:370:7334 5000 typ host\r\n")
  env := Env.plain

/-- A candidate with an IPv6 address is scanned past the end of `ip`, and a
candidate of component `3` is handed over for RTCP. -/
theorem not_trickled_right :
    ¬ TrickledRight (Config.over []) 0 Timer.init (audioSdp .offerFromWeb RoapType.offer "8")
        endMarker [ipv6Candidate]
        [audioSdp .offerFromWeb RoapType.offer "8", ipv6Candidate, endMarker] ∧
      ¬ TrickledRight (Config.over []) 0 Timer.init (audioSdp .offerFromWeb RoapType.offer "8")
        endMarker [hostCandidate "3"]
        [audioSdp .offerFromWeb RoapType.offer "8", hostCandidate "3", endMarker] := by
  constructor
  · intro hright
    have hfits := hright.buffers ipv6Candidate.sdp (by decide +kernel)
    exact absurd hfits (by decide +kernel)
  · intro hright
    obtain ⟨body, z, heq, -, -, hstep⟩ := hright.once
    obtain ⟨rfl, hz⟩ : [audioSdp .offerFromWeb RoapType.offer "8", hostCandidate "3"] = body ∧
        [endMarker] = [z] := List.append_inj' heq rfl
    obtain rfl := List.singleton_inj.1 hz
    exact absurd hstep (by decide +kernel)

end MediaGateway
