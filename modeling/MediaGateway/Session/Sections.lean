import MediaGateway.Lib.Lines
import MediaGateway.Session.History

/-!
# Media sections

A description has one section for each line that starts with `m=`.  What
`createSdpToWeb` and `createSdpToIMS` write has one or two of them, by the session
type, and the session type is what the last SDP that was read says: `VIDEO` when it
contains the word `video`.

`sectionsMatch_iff` says for which calls an answer has as many sections as the
offer it answers.
-/

namespace MediaGateway

open Lib Bytes Lines MediaSession

/-- The number of media sections of a description. -/
def sections (sdp : Bytes) : Nat := heads (bytes "m=") sdp

/-! ## What is written for the web -/

namespace WebAgent

variable {ufrag pwd : Bytes}

/-- Two texts with the same line ends and the same number of sections. -/
def SameSections (sdp sdp' : Bytes) : Prop := Crlf sdp → Crlf sdp' ∧ sections sdp' = sections sdp

theorem SameSections.trans {a b c : Bytes} (hab : SameSections a b) (hbc : SameSections b c) :
    SameSections a c := by
  intro ha
  obtain ⟨hb, hsame⟩ := hab ha
  obtain ⟨hc, hsame'⟩ := hbc hb
  exact ⟨hc, hsame'.trans hsame⟩

theorem sameSections_refl (sdp : Bytes) : SameSections sdp sdp := fun h => ⟨h, rfl⟩

/-- Replacing the value behind a label. -/
theorem sameSections_replace {label value sdp : Bytes} {pos p e : Nat}
    (hlabel : 10 ∉ label ∧ 2 ≤ label.length ∧ endsCr false label = false) (hvalue : 10 ∉ value)
    (hp : find sdp label pos = some p)
    (he : find sdp PARAM_END (p + label.length) = some e) :
    SameSections sdp (replace sdp (p + label.length) (e - (p + label.length)) value) := by
  intro hcrlf
  exact heads_replace hcrlf (by decide) hlabel.1 hlabel.2.1 hlabel.2.2 hvalue hp he

/-- A position is one at which the label was found. -/
def Found (label sdp : Bytes) (at_ : Option Nat) : Prop :=
  ∀ p, at_ = some p → ∃ pos, find sdp label pos = some p

theorem found_find (label sdp : Bytes) (pos : Nat) : Found label sdp (find sdp label pos) :=
  fun _ hp => ⟨pos, hp⟩

theorem found_findAt (label sdp : Bytes) (pos : Option Nat) :
    Found label sdp (findAt sdp label pos) := by
  cases pos with
  | none =>
    intro p hp
    cases hp
  | some pos => exact found_find label sdp pos

theorem sameSections_replaceCryptoLoop {crypto : Bytes} (hcrypto : 10 ∉ crypto) (fuel : Nat)
    {at_ : Option Nat} {sdp : Bytes} (hat : Found CRYPTO_80 sdp at_) :
    SameSections sdp (replaceCryptoLoop crypto fuel at_ sdp) := by
  induction fuel generalizing at_ sdp with
  | zero => exact sameSections_refl sdp
  | succ fuel ih =>
    cases at_ with
    | none => exact sameSections_refl sdp
    | some p =>
      obtain ⟨pos, hp⟩ := hat p rfl
      simp only [replaceCryptoLoop]
      cases he : find sdp PARAM_END (p + CRYPTO_80.length) with
      | none => exact sameSections_refl sdp
      | some e =>
        exact (sameSections_replace (by decide) hcrypto hp he).trans (ih (found_find _ _ _))

theorem sameSections_replaceParam {label value sdp : Bytes}
    (hlabel : 10 ∉ label ∧ 2 ≤ label.length ∧ endsCr false label = false) (hvalue : 10 ∉ value)
    {at_ : Option Nat} (hat : Found label sdp at_) :
    SameSections sdp (replaceParam label value at_ sdp).2 := by
  cases at_ with
  | none => exact sameSections_refl sdp
  | some p =>
    obtain ⟨pos, hp⟩ := hat p rfl
    simp only [replaceParam]
    cases he : find sdp PARAM_END (p + label.length) with
    | none => exact sameSections_refl sdp
    | some e => exact sameSections_replace hlabel hvalue hp he

theorem sameSections_replaceUfragPwdLoop (hufrag : 10 ∉ ufrag) (hpwd : 10 ∉ pwd) (fuel : Nat)
    {at_ : Option Nat} {sdp : Bytes} (hat : Found ICE_UFRAG sdp at_) :
    SameSections sdp (replaceUfragPwdLoop ufrag pwd fuel at_ sdp) := by
  induction fuel generalizing at_ sdp with
  | zero => exact sameSections_refl sdp
  | succ fuel ih =>
    cases at_ with
    | none => exact sameSections_refl sdp
    | some p =>
      have hfirst := sameSections_replaceParam (by decide) hufrag hat
      have hsecond := sameSections_replaceParam (by decide) hpwd
        (found_findAt ICE_PWD (replaceParam ICE_UFRAG ufrag (some p) sdp).2
          (replaceParam ICE_UFRAG ufrag (some p) sdp).1)
      exact (hfirst.trans hsecond).trans (ih (found_findAt _ _ _))

/-- The replacements leave the template its sections. -/
theorem sections_replace (hufrag : 10 ∉ ufrag) (hpwd : 10 ∉ pwd) {sdp : Bytes} (h : Crlf sdp) :
    sections (replaceCrypto (replaceUfragPwd ufrag pwd sdp) cryptoToWeb) = sections sdp := by
  have hfirst : SameSections sdp (replaceUfragPwd ufrag pwd sdp) :=
    sameSections_replaceUfragPwdLoop hufrag hpwd _ (found_find _ _ _)
  have hsecond : SameSections (replaceUfragPwd ufrag pwd sdp)
      (replaceCrypto (replaceUfragPwd ufrag pwd sdp) cryptoToWeb) :=
    sameSections_replaceCryptoLoop (by decide) _ (found_find _ _ _)
  exact ((hfirst.trans hsecond) h).2

/-- The sections of a session type. -/
def sectionsOf : SessionType → Nat
  | SessionType.AUDIO => 1
  | .VIDEO => 2

/-- A media section up to its payload. -/
def sectionStart (media : Bytes) : Bytes := bytes "m=" ++ media ++ bytes " 1 RTP/SAVPF "

/-- A media section between the two places where its payload stands. -/
def sectionMiddle (media : Bytes) : Bytes :=
  bytes "\r\n" ++
    bytes "c=IN IP4 0.0.0.0\r\n" ++
    bytes "a=rtcp:1 IN IP4 0.0.0.0\r\n" ++
    bytes "a=ice-ufrag:V6oIgATQATtWFDI1\r\n" ++
    bytes "a=ice-pwd:0fvI8mFb2+EFTVarDx/RHNvW\r\n" ++
    bytes "a=sendrecv\r\n" ++
    bytes "a=mid:" ++ media ++ bytes "\r\n" ++
    bytes "a=rtcp-mux\r\n" ++
    CRYPTO_80 ++ bytes "gnXrE0MSrzWLNu4VzjRm/A4d3ANy0gnpvDNXQlWd\r\n" ++
    bytes "a=rtpmap:"

theorem webSection_eq (media payload codec ssrc label : Bytes) :
    webSection media payload codec ssrc label =
      sectionStart media ++ (payload ++ (sectionMiddle media ++
        (payload ++ (codec ++ ssrcLines ssrc label)))) := by
  unfold webSection sectionStart sectionMiddle
  simp only [List.append_assoc]

/-- The template up to the payload of the video section. -/
def videoStart : Bytes :=
  WEB_SDP_BEGIN ++ WEB_VIDEO_BUNDLE ++
    webSection (bytes "audio") (ofInt PT_PCMA_DEFAULT) (bytes " PCMA/8000\r\n") audioSSRC
      (bytes "00") ++
    sectionStart (bytes "video")

/-- The template has one section for audio and one more for video. -/
theorem template_sections (stype : SessionType) (w : WebAgent) :
    Crlf (webSdpTemplate stype w) ∧ sections (webSdpTemplate stype w) = sectionsOf stype := by
  cases stype with
  | AUDIO =>
    show Crlf (webSdpTemplate SessionType.AUDIO fresh) ∧
      sections (webSdpTemplate SessionType.AUDIO fresh) = 1
    exact ⟨by decide +kernel, by decide +kernel⟩
  | VIDEO =>
    have hpayload := newline_notMem_ofInt w.vPayload
    have htemplate : webSdpTemplate .VIDEO w =
        videoStart ++ (ofInt w.vPayload ++ (sectionMiddle (bytes "video") ++
          (ofInt w.vPayload ++ (bytes " VP8/90000\r\n" ++ ssrcLines videoSSRC (bytes "10"))))) := by
      rw [webSdpTemplate, webSection_eq (bytes "video"), videoStart,
        List.append_assoc _ (sectionStart _)]
    rw [htemplate]
    constructor
    · exact Crlf.append (by decide +kernel) ((crlf_of_free hpayload).append
        (Crlf.append (by decide +kernel) ((crlf_of_free hpayload).append (by decide +kernel))))
    · rw [sections, heads, headsFrom_slot (by decide) (by decide +kernel) hpayload,
        headsFrom_slot (by decide) (by decide +kernel) hpayload]
      decide +kernel

/-- The description for the web. -/
theorem sections_createSdpToWeb (hufrag : 10 ∉ ufrag) (hpwd : 10 ∉ pwd) (stype : SessionType)
    (w : WebAgent) : sections (w.createSdpToWeb ufrag pwd stype) = sectionsOf stype := by
  obtain ⟨hcrlf, hsections⟩ := template_sections stype w
  rw [createSdpToWeb, sections_replace hufrag hpwd hcrlf, hsections]

end WebAgent

/-! ## What is written for IMS -/

/-- One of the codecs that `createSdpToIMS` looks up has an entry. -/
def SIPCodec.hasEntry (codec : SIPCodec) : Bool := codec.H264 || codec.H263 || codec.H263P

namespace ImsAgent

/-- The sections of a session type; the second one is written when the table of
codecs has an entry. -/
def sectionsOf (codec : SIPCodec) : SessionType → Nat
  | SessionType.AUDIO => 1
  | .VIDEO => if codec.hasEntry then 2 else 1

/-- The description up to the audio port. -/
def audioStart : Bytes :=
  bytes "v=0\r\n" ++
    bytes "o=mg 1811991880 0 IN IP4 10.109.247.140\r\n" ++
    bytes "s=abc\r\n" ++
    bytes "c=IN IP4 10.109.247.140\r\n" ++
    bytes "t=0 0\r\n" ++
    bytes "m=audio "

/-- The audio section behind its port. -/
def audioEnd : Bytes :=
  bytes " RTP/AVP " ++ ofInt PT_PCMA_DEFAULT ++ bytes "\r\n" ++
    bytes "a=rtpmap:" ++ ofInt PT_PCMA_DEFAULT ++ bytes " PCMA/8000/1\r\n" ++
    bytes "a=sendrecv\r\n"

theorem createSdpToIMS_eq (codec : SIPCodec) (audioPort videoPort : UInt16) (stype : SessionType)
    (a : ImsAgent) :
    a.createSdpToIMS codec audioPort videoPort stype =
      audioStart ++ (ofInt audioPort.toNat ++ (audioEnd ++
        match stype with
        | SessionType.AUDIO => []
        | .VIDEO => videoSdp codec (ofInt a.vPayload) (ofInt videoPort.toNat))) := by
  unfold createSdpToIMS audioStart audioEnd
  cases stype with
  | AUDIO => simp only [List.append_assoc, List.append_nil]
  | VIDEO => simp only [List.append_assoc]

/-- A video section: its port, its payload and what names the codec. -/
def videoSection (vStr videoPort codec params : Bytes) : Bytes :=
  bytes "m=video " ++ (videoPort ++ (bytes " RTP/AVP " ++ (vStr ++
    (bytes "\r\n" ++ bytes "a=rtpmap:" ++ (vStr ++
      (codec ++ bytes "a=fmtp:" ++ (vStr ++ (params ++ bytes "a=sendrecv\r\n"))))))))

theorem videoSdp_eq (codec : SIPCodec) (vStr videoPort : Bytes) :
    videoSdp codec vStr videoPort =
      if codec.H264 then
        videoSection vStr videoPort (bytes " H264/90000\r\n")
          (bytes " profile-level-id=42E00D; max-br=320\r\n")
      else if codec.H263 then
        videoSection vStr videoPort (bytes " H263-1998/90000\r\n")
          (bytes " CIF=2;QCIF=2;SQCIF=2\r\n")
      else if codec.H263P then
        videoSection vStr videoPort (bytes " H263-1998/90000\r\n")
          (bytes " QCIF=2;CIF=2;VGA=2;CIF4=2;I=1;J=1;T=1\r\n")
      else [] := by
  unfold videoSdp videoSection
  simp only [List.append_assoc]

theorem headsFrom_audioEnd : headsFrom (bytes "m=") false (audioEnd ++ []) = 0 := by
  decide +kernel

theorem headsFrom_videoSection {vStr videoPort codec params : Bytes} (hvStr : 10 ∉ vStr)
    (hvideoPort : 10 ∉ videoPort)
    (hcodec : headsFrom (bytes "m=") false (codec ++ bytes "a=fmtp:") = 0)
    (hend : endsInLine (bytes "m=").length (codec ++ bytes "a=fmtp:") = true)
    (hparams : headsFrom (bytes "m=") false (params ++ bytes "a=sendrecv\r\n") = 0) :
    headsFrom (bytes "m=") false (audioEnd ++ videoSection vStr videoPort codec params) = 1 := by
  have hstart : audioEnd ++ videoSection vStr videoPort codec params =
      (audioEnd ++ bytes "m=video ") ++ (videoPort ++ (bytes " RTP/AVP " ++ (vStr ++
        ((bytes "\r\n" ++ bytes "a=rtpmap:") ++ (vStr ++
          ((codec ++ bytes "a=fmtp:") ++ (vStr ++ (params ++ bytes "a=sendrecv\r\n")))))))) := by
    unfold videoSection
    simp only [List.append_assoc]
  rw [hstart, headsFrom_slot (by decide) (by decide +kernel) hvideoPort,
    headsFrom_slot (by decide) (by decide +kernel) hvStr,
    headsFrom_slot (by decide) (by decide +kernel) hvStr,
    headsFrom_slot (by decide) hend hvStr, hcodec, hparams]
  decide +kernel

/-- The codecs are looked up one after the other. -/
theorem headsFrom_videoSdp (codec : SIPCodec) {vStr videoPort : Bytes} (hvStr : 10 ∉ vStr)
    (hvideoPort : 10 ∉ videoPort) :
    1 + headsFrom (bytes "m=") false (audioEnd ++ videoSdp codec vStr videoPort) =
      sectionsOf codec .VIDEO := by
  rw [videoSdp_eq]
  match codec with
  | ⟨true, _, _⟩ =>
    rw [if_pos rfl, headsFrom_videoSection hvStr hvideoPort (by decide +kernel)
      (by decide +kernel) (by decide +kernel)]
    rfl
  | ⟨false, true, _⟩ =>
    rw [if_neg Bool.false_ne_true, if_pos rfl, headsFrom_videoSection hvStr hvideoPort
      (by decide +kernel) (by decide +kernel) (by decide +kernel)]
    rfl
  | ⟨false, false, true⟩ =>
    rw [if_neg Bool.false_ne_true, if_neg Bool.false_ne_true, if_pos rfl,
      headsFrom_videoSection hvStr hvideoPort (by decide +kernel) (by decide +kernel)
        (by decide +kernel)]
    rfl
  | ⟨false, false, false⟩ =>
    rw [if_neg Bool.false_ne_true, if_neg Bool.false_ne_true, if_neg Bool.false_ne_true,
      headsFrom_audioEnd]
    rfl

/-- The description for IMS. -/
theorem sections_createSdpToIMS (codec : SIPCodec) (audioPort videoPort : UInt16)
    (stype : SessionType) (a : ImsAgent) :
    sections (a.createSdpToIMS codec audioPort videoPort stype) = sectionsOf codec stype := by
  have haudio := newline_notMem_ofInt audioPort.toNat
  have hstart : headsFrom (bytes "m=") true audioStart = 1 := by decide +kernel
  rw [sections, heads, createSdpToIMS_eq, headsFrom_slot (by decide) (by decide +kernel) haudio,
    hstart]
  cases stype with
  | AUDIO =>
    rw [headsFrom_audioEnd]
    rfl
  | VIDEO =>
    exact headsFrom_videoSdp codec (newline_notMem_ofInt a.vPayload)
      (newline_notMem_ofInt videoPort.toNat)

end ImsAgent

/-! ## Answers and their offers -/

variable {cfg : Config} {self : Nat} {hist : List Signal}

/-- An offer or an answer that its handler goes on with. -/
def Signal.supported (e : Signal) : Bool :=
  match e.handler with
  | .offerFromWeb | .answerFromWeb => WebAgent.supportFlag e.sdp
  | .offerFromIMS | .answerFromIMS => Sdp.audioSupport e.sdp
  | .candidateFromWeb => false

/-- The last offer and the last answer of a history, both accepted. -/
structure Agreed (hist : List Signal) (offer answer : Signal) : Prop where
  isOffer : lastOf Signal.isOffer hist = some offer
  isAnswer : lastOf Signal.isAnswer hist = some answer
  supported : offer.supported = true ∧ answer.supported = true

/-- The answers that one step relays: in a call from the web the first packet that
`handleAnswerFromIMS` sends, in a call from IMS what `sendOfferOrAnswerToIMS`
sends. -/
def relayedAnswers (cfg : Config) (self : Nat) (hist : List Signal) (st : MediaSession × Timer)
    (e : Signal) : List SessionMessage :=
  let acts := ((session cfg self).step st e).2
  if webCalls (hist ++ [e]) then
    if e.handler = .answerFromIMS then (packets acts).take 1 else []
  else
    packetsToIMS acts

/-- Whether the step relays an answer. -/
def relays (hist : List Signal) (e : Signal) : Bool :=
  if webCalls (hist ++ [e]) then e.handler == .answerFromIMS && Sdp.audioSupport e.sdp
  else isTrigger hist e

/-- Whether the SDP that was read last contains the word `video`. -/
def namesVideo (hist : List Signal) : Bool :=
  match lastOf Signal.carriesSdp hist with
  | none => false
  | some e => contains e.sdp (bytes "video")

/-- The sections that are written after a history. -/
def written (codec : SIPCodec) (hist : List Signal) : Nat :=
  if namesVideo hist && (webCalls hist || codec.hasEntry) then 2 else 1

/-- Once there is an answer, the session type is what the last SDP says. -/
theorem type_of_agreed {s : MediaSession} {offer answer : Signal} (h : Tracks cfg hist s)
    (hagreed : Agreed hist offer answer) :
    s.sessionType = if namesVideo hist then .VIDEO else SessionType.AUDIO := by
  unfold namesVideo
  cases hlast : lastOf Signal.carriesSdp hist with
  | some e => exact h.type e hlast
  | none =>
    obtain ⟨hin, hoffer⟩ := List.mem_filter.1 (List.mem_of_getLast? hagreed.isOffer)
    have hcarries : offer.carriesSdp = true := by
      unfold Signal.carriesSdp
      unfold Signal.isOffer at hoffer
      cases hhandler : offer.handler <;> simp_all
    have hnone := List.filter_eq_nil_iff.1 (List.getLast?_eq_none_iff.1 hlast)
    exact absurd hcarries (hnone offer hin)

/-- The web description for the last SDP. -/
theorem written_web (codec : SIPCodec) (hcalls : webCalls hist = true) :
    WebAgent.sectionsOf (if namesVideo hist then .VIDEO else SessionType.AUDIO) =
      written codec hist := by
  rw [written, hcalls]
  cases namesVideo hist <;> rfl

/-- The description for IMS likewise. -/
theorem written_ims (codec : SIPCodec) (hcalls : webCalls hist = false) :
    ImsAgent.sectionsOf codec (if namesVideo hist then .VIDEO else SessionType.AUDIO) =
      written codec hist := by
  rw [written, hcalls]
  cases namesVideo hist <;> rfl

/-- The first packet of `handleAnswerFromIMS`. -/
theorem packets_answerFromIMS {st : MediaSession × Timer} {e : Signal}
    (hhandler : e.handler = .answerFromIMS) :
    (packets ((session cfg self).step st e).2).take 1 =
      if Sdp.audioSupport e.sdp then
        [e.message.withSdp
          ((readMessage cfg e.handler e.env e.message st.1).webAgent.createSdpToWeb
            e.env.ufrag e.env.pwd (readMessage cfg e.handler e.env e.message st.1).sessionType)]
      else
        [] := by
  obtain ⟨handler, message, env⟩ := e
  obtain rfl : handler = .answerFromIMS := hhandler
  cases hsup : Sdp.audioSupport message.roap.sdp with
  | true => simp [session, handle_of_startsMedia, startsMedia, reply, hsup, sendDescriptionToWeb,
      packets, Action.packet?, Signal.sdp]
  | false => simp [session, handle_of_not_startsMedia, startsMedia, reply, hsup, packets,
      Signal.sdp]

/-- The description of an answer that a step relays. -/
theorem sections_of_relayed {st : MediaSession × Timer} {e : Signal} {offer answer : Signal}
    (h : Tracks cfg hist st.1) (hice : 10 ∉ e.env.ufrag ∧ 10 ∉ e.env.pwd)
    (hagreed : Agreed (hist ++ [e]) offer answer) :
    (relayedAnswers cfg self hist st e).map (fun m => sections m.roap.sdp) =
      if relays hist e then [written cfg.codec (hist ++ [e])] else [] := by
  have hread := tracks_read h e
  have htype := type_of_agreed hread hagreed
  unfold relayedAnswers relays
  dsimp only
  cases hcalls : webCalls (hist ++ [e]) with
  | true =>
    simp only [if_true]
    by_cases hhandler : e.handler = .answerFromIMS
    · rw [if_pos hhandler, packets_answerFromIMS hhandler, htype, beq_iff_eq.2 hhandler,
        Bool.true_and]
      split
      · simp only [List.map_cons, List.map_nil, SessionMessage.withSdp]
        rw [WebAgent.sections_createSdpToWeb hice.1 hice.2, written_web cfg.codec hcalls]
      · rfl
    · rw [if_neg hhandler, beq_false_of_ne hhandler]
      rfl
  | false =>
    simp only [Bool.false_eq_true, if_false]
    rw [packetsToIMS_step h]
    split
    · simp only [List.map_cons, List.map_nil, packetToIMS, SessionMessage.withSdp]
      rw [ImsAgent.sections_createSdpToIMS, htype, written_ims cfg.codec hcalls]
    · rfl

/-- Whenever an answer is relayed whose offer and which itself was accepted, its
description has as many sections as the offer. -/
def SectionsMatch (cfg : Config) (self : Nat) (t : Timer) (sigs : List Signal) : Prop :=
  ∀ pre e post, sigs = pre ++ e :: post →
    ∀ offer answer, Agreed (pre ++ [e]) offer answer →
      ∀ m ∈ relayedAnswers cfg self pre ((session cfg self).run (newSession cfg t) pre).1 e,
        sections m.roap.sdp = sections offer.sdp

/-- One step. -/
theorem sectionsMatch_step_iff {st : MediaSession × Timer} {e : Signal} {offer answer : Signal}
    (h : Tracks cfg hist st.1) (hice : 10 ∉ e.env.ufrag ∧ 10 ∉ e.env.pwd)
    (hagreed : Agreed (hist ++ [e]) offer answer) :
    (∀ m ∈ relayedAnswers cfg self hist st e, sections m.roap.sdp = sections offer.sdp) ↔
      (relays hist e = true → written cfg.codec (hist ++ [e]) = sections offer.sdp) := by
  have hmap : (relayedAnswers cfg self hist st e).map (fun m => sections m.roap.sdp) =
      if relays hist e then [written cfg.codec (hist ++ [e])] else [] :=
    sections_of_relayed h hice hagreed
  rw [← List.forall_mem_map (f := fun m : SessionMessage => sections m.roap.sdp)
    (P := fun n => n = sections offer.sdp), hmap]
  cases relays hist e <;> simp

/-- A session's answers have as many sections as the offers exactly when, at each
answer that is relayed, the SDP that was read last contains the word `video` if the
offer has two sections, and does not contain it if the offer has one. -/
theorem sectionsMatch_iff (cfg : Config) (self : Nat) (t : Timer) (sigs : List Signal)
    (hice : ∀ e ∈ sigs, 10 ∉ e.env.ufrag ∧ 10 ∉ e.env.pwd) :
    SectionsMatch cfg self t sigs ↔
      ∀ pre e post, sigs = pre ++ e :: post →
        ∀ offer answer, Agreed (pre ++ [e]) offer answer →
          relays pre e = true → written cfg.codec (pre ++ [e]) = sections offer.sdp := by
  unfold SectionsMatch
  refine forall_congr' fun pre => forall_congr' fun e => forall_congr' fun post =>
    forall_congr' fun heq => forall_congr' fun offer => forall_congr' fun answer =>
      forall_congr' fun hagreed => ?_
  have hmem : e ∈ sigs := heq ▸ List.mem_append_right pre List.mem_cons_self
  exact sectionsMatch_step_iff (tracks_run cfg self t pre) (hice e hmem) hagreed

/-- An offer or an answer with audio and video. -/
def videoSdp (handler : Handler) (type : RoapType) : Signal where
  handler
  message := SessionMessage.of type (bytes "call")
    (bytes "m=audio 1 RTP/SAVPF 8\r\nm=video 1 RTP/SAVPF 100\r\na=rtpmap:100 VP8/90000\r\n")
  env := Env.plain

/-- A call with audio and video on both sides. -/
theorem sectionsMatch_call :
    SectionsMatch (Config.over []) 0 Timer.init
      [videoSdp .offerFromWeb RoapType.offer, videoSdp .answerFromIMS RoapType.answer] := by
  apply (sectionsMatch_iff (Config.over []) 0 Timer.init _ (by decide)).2
  intro pre e post heq offer answer hagreed hrelays
  rcases pre with _ | ⟨d, _ | ⟨d', pre⟩⟩
  · obtain ⟨rfl, -⟩ := List.cons.inj heq
    cases hrelays
  · obtain ⟨rfl, hrest⟩ := List.cons.inj heq
    obtain ⟨rfl, -⟩ := List.cons.inj hrest
    obtain rfl := Option.some.inj hagreed.isOffer
    decide +kernel
  · simp at heq

/-- An audio answer from IMS to an offer with video from the web, and an audio
answer from the web to an offer with video from IMS. -/
theorem not_sectionsMatch :
    ¬ SectionsMatch (Config.over []) 0 Timer.init
        [videoSdp .offerFromWeb RoapType.offer, audioSdp .answerFromIMS RoapType.answer "8"] ∧
      ¬ SectionsMatch (Config.over []) 0 Timer.init
        [ videoSdp .offerFromIMS RoapType.offer, endMarker
        , audioSdp .answerFromWeb RoapType.answer "8"] := by
  constructor
  · intro hmatch
    have hlast := hmatch [videoSdp .offerFromWeb RoapType.offer] _ [] rfl _ _
      ⟨rfl, rfl, by decide +kernel⟩
    rw [sectionsMatch_step_iff (tracks_run (Config.over []) 0 Timer.init _) (by decide)
      ⟨rfl, rfl, by decide +kernel⟩] at hlast
    revert hlast
    decide +kernel
  · intro hmatch
    have hlast := hmatch [videoSdp .offerFromIMS RoapType.offer, endMarker] _ [] rfl _ _
      ⟨rfl, rfl, by decide +kernel⟩
    rw [sectionsMatch_step_iff (tracks_run (Config.over []) 0 Timer.init _) (by decide)
      ⟨rfl, rfl, by decide +kernel⟩] at hlast
    revert hlast
    decide +kernel

end MediaGateway
