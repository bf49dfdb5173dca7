import MediaGateway.Lib.Decimal
import MediaGateway.Sdp.Scan

/-!
# The gateway reads its own IMS description

`createSdpToIMS` and `handleSdpFromIMS` are independent pieces of text code.  The
text is written as lines here, and as a `Description`, from which the rules for the
scans read the two ports, the audio format and the payload number back.
-/

namespace MediaGateway.Sdp

open Lib Bytes ImsAgent

/-! ## The lines -/

/-- The lines above the audio section. -/
def imsSessionLines : List Bytes :=
  [bytes "v=0", bytes "o=mg 1811991880 0 IN IP4 10.109.247.140", bytes "s=abc",
    bytes "c=IN IP4 10.109.247.140", bytes "t=0 0"]

/-- The audio line up to its end. -/
def imsAudioLine (port : UInt16) : Bytes :=
  audioLine (ofInt port.toNat) (bytes "RTP/AVP") (bytes "8") []

/-- The lines of a video section for H264. -/
def imsVideoLines (port : UInt16) (payload : Int) : List Bytes :=
  [ bytes "m=video " ++ (ofInt port.toNat ++ 32 :: (bytes "RTP/AVP " ++ ofInt payload))
  , bytes "a=rtpmap:" ++ (ofInt payload ++ 32 :: bytes "H264/90000")
  , bytes "a=fmtp:" ++ (ofInt payload ++ bytes " profile-level-id=42E00D; max-br=320")
  , bytes "a=sendrecv" ]

/-- The lines below the audio line. -/
def imsBelow (videoPort : UInt16) (payload : Int) : SessionType → List Bytes
  | SessionType.AUDIO => [bytes "a=rtpmap:8 PCMA/8000/1", bytes "a=sendrecv"]
  | .VIDEO =>
    bytes "a=rtpmap:8 PCMA/8000/1" :: bytes "a=sendrecv" :: imsVideoLines videoPort payload

def imsLines (audioPort videoPort : UInt16) (payload : Int) (stype : SessionType) : List Bytes :=
  imsSessionLines ++ imsAudioLine audioPort :: imsBelow videoPort payload stype

/-- The video section stands behind the text of an audio session. -/
theorem imsLines_video (audioPort videoPort : UInt16) (payload : Int) :
    imsLines audioPort videoPort payload .VIDEO =
      imsLines audioPort videoPort payload SessionType.AUDIO ++
        imsVideoLines videoPort payload := by
  rw [imsLines, imsLines, List.append_assoc]
  rfl

/-- The video section is the one for H264. -/
theorem videoSdp_lines {codec : SIPCodec} (hcodec : codec.H264 = true) (port : UInt16)
    (payload : Int) :
    videoSdp codec (ofInt payload) (ofInt port.toNat) = unlines (imsVideoLines port payload) := by
  have hproto : bytes " RTP/AVP " = 32 :: bytes "RTP/AVP " := by decide
  have hend : bytes "\r\n" = [13, 10] := by decide
  have hcodecName : bytes " H264/90000\r\n" = 32 :: (bytes "H264/90000" ++ [13, 10]) := by decide
  have hparams : bytes " profile-level-id=42E00D; max-br=320\r\n" =
      bytes " profile-level-id=42E00D; max-br=320" ++ [13, 10] := by decide
  have hsend : bytes "a=sendrecv\r\n" = bytes "a=sendrecv" ++ [13, 10] := by decide
  rw [videoSdp]
  simp only [hcodec, if_true]
  unfold imsVideoLines
  simp only [unlines_cons, unlines_nil]
  rw [hproto, hcodecName, hparams, hsend, hend]
  simp only [List.append_assoc, List.cons_append, List.append_nil]

theorem createSdpToIMS_lines {codec : SIPCodec} (hcodec : codec.H264 = true)
    (audioPort videoPort : UInt16) (stype : SessionType) (a : ImsAgent) :
    a.createSdpToIMS codec audioPort videoPort stype =
      unlines (imsLines audioPort videoPort a.vPayload stype) := by
  have hsession : bytes "v=0\r\n" ++ bytes "o=mg 1811991880 0 IN IP4 10.109.247.140\r\n" ++
      bytes "s=abc\r\n" ++ bytes "c=IN IP4 10.109.247.140\r\n" ++ bytes "t=0 0\r\n" =
        unlines imsSessionLines := by decide +kernel
  have hproto : bytes " RTP/AVP " = 32 :: (bytes "RTP/AVP" ++ [32]) := by decide
  have hbelow : ofInt PT_PCMA_DEFAULT ++ (bytes "\r\n" ++ (bytes "a=rtpmap:" ++
      (ofInt PT_PCMA_DEFAULT ++ (bytes " PCMA/8000/1\r\n" ++ bytes "a=sendrecv\r\n")))) =
        bytes "8" ++
          ([13, 10] ++ unlines [bytes "a=rtpmap:8 PCMA/8000/1", bytes "a=sendrecv"]) := by
    decide +kernel
  have haudio : bytes "v=0\r\n" ++ bytes "o=mg 1811991880 0 IN IP4 10.109.247.140\r\n" ++
      bytes "s=abc\r\n" ++ bytes "c=IN IP4 10.109.247.140\r\n" ++ bytes "t=0 0\r\n" ++
      bytes "m=audio " ++ ofInt audioPort.toNat ++ bytes " RTP/AVP " ++ ofInt PT_PCMA_DEFAULT ++
      bytes "\r\n" ++ bytes "a=rtpmap:" ++ ofInt PT_PCMA_DEFAULT ++ bytes " PCMA/8000/1\r\n" ++
      bytes "a=sendrecv\r\n" =
        unlines (imsLines audioPort videoPort a.vPayload SessionType.AUDIO) := by
    rw [imsLines, unlines_append, ← hsession, unlines_cons, imsAudioLine, audioLine]
    simp only [List.append_assoc, List.cons_append]
    rw [hbelow, hproto]
    simp only [List.append_assoc, List.cons_append, List.nil_append]
    rfl
  cases stype with
  | AUDIO => exact haudio
  | VIDEO =>
    rw [imsLines_video, unlines_append, ← haudio, ← videoSdp_lines hcodec]
    rfl

/-! ## The text as a description -/

section

variable (audioPort videoPort : UInt16) (payload : Int) (stype : SessionType)

theorem inLine_number (n : Int) : InLine (ofInt n) ∧ 32 ∉ ofInt n ∧ 58 ∉ ofInt n :=
  ⟨⟨notMem_ofInt (by decide) (by decide) n, notMem_ofInt (by decide) (by decide) n⟩,
    notMem_ofInt (by decide) (by decide) n, notMem_ofInt (by decide) (by decide) n⟩

/-- What holds of the fixed lines and of the lines with a number holds of all lines. -/
theorem forall_imsLines {Q : Bytes → Prop} (hsession : ∀ l ∈ imsSessionLines, Q l)
    (haudio : Q (imsAudioLine audioPort))
    (hbelow : ∀ l ∈ [bytes "a=rtpmap:8 PCMA/8000/1", bytes "a=sendrecv"], Q l)
    (hvideo : ∀ l ∈ imsVideoLines videoPort payload, Q l) :
    ∀ l ∈ imsLines audioPort videoPort payload stype, Q l := by
  have hlines : ∀ l ∈ imsLines audioPort videoPort payload SessionType.AUDIO, Q l := by
    rw [imsLines, List.forall_mem_append, List.forall_mem_cons]
    exact ⟨hsession, haudio, hbelow⟩
  cases stype with
  | AUDIO => exact hlines
  | VIDEO =>
    rw [imsLines_video, List.forall_mem_append]
    exact ⟨hlines, hvideo⟩

theorem inLine_imsLines : ∀ l ∈ imsLines audioPort videoPort payload stype, InLine l := by
  have hport := (inLine_number videoPort.toNat).1
  have hpayload := (inLine_number payload).1
  have hspace : InLine (32 :: bytes "H264/90000") := by decide
  refine forall_imsLines audioPort videoPort payload stype (by decide +kernel) ?_
    (by decide +kernel) ?_
  · exact InLine.append (by decide) ((inLine_number audioPort.toNat).1.append (by decide))
  · unfold imsVideoLines
    simp only [List.forall_mem_cons]
    refine ⟨?_, ?_, ?_, by decide, by simp⟩
    · exact InLine.append (by decide) (hport.append (InLine.append (x := 32 :: bytes "RTP/AVP ")
        (by decide) hpayload))
    · exact InLine.append (by decide) (hpayload.append hspace)
    · exact InLine.append (by decide) (hpayload.append (by decide))

theorem wellMapped_imsLines :
    ∀ l ∈ imsLines audioPort videoPort payload stype, WellMapped l := by
  have hnone : ∀ l : Bytes, ¬ bytes "a=rtpmap:" <:+: l → WellMapped l := fun l hl h => absurd h hl
  -- no colon stands behind a number
  have hcolon : ∀ {n : Int} {x y : Bytes}, ¬ bytes "a=rtpmap:" <:+: x → 58 ∉ y →
      ¬ bytes "a=rtpmap:" <:+: x ++ (ofInt n ++ y) := by
    intro n x y hx hy
    refine not_infix_append (c := 58) hx (by decide) ?_
    rw [List.mem_append, not_or]
    exact ⟨(inLine_number n).2.2, hy⟩
  refine forall_imsLines audioPort videoPort payload stype (by decide +kernel) ?_
    (by decide +kernel) ?_
  · exact hnone _ (hcolon (by decide) (by decide))
  · unfold imsVideoLines
    simp only [List.forall_mem_cons]
    refine ⟨?_, ?_, ?_, by decide, by simp⟩
    · refine hnone _ (hcolon (by decide) ?_)
      show 58 ∉ (32 :: bytes "RTP/AVP ") ++ ofInt payload
      rw [List.mem_append, not_or]
      exact ⟨by decide, (inLine_number payload).2.2⟩
    · intro _
      have hdrop : (bytes "a=rtpmap:" ++ (ofInt payload ++ 32 :: bytes "H264/90000")).drop
          (bytes "a=rtpmap:").length = ofInt payload ++ 32 :: bytes "H264/90000" := List.drop_left
      refine ⟨List.prefix_append _ _, ?_, ?_⟩
      · rw [hdrop]
        simp
      · rw [hdrop]
        exact hcolon (x := []) (by decide) (by decide)
    · exact hnone _ (hcolon (by decide) (by decide))

def imsDescription : Description where
  above := imsSessionLines
  port := ofInt audioPort.toNat
  proto := bytes "RTP/AVP"
  fmt := bytes "8"
  fmts := []
  below := imsBelow videoPort payload stype
  inLine := inLine_imsLines audioPort videoPort payload stype
  token := by
    rw [List.forall_mem_cons]
    exact ⟨(inLine_number _).2.1, by decide⟩
  first := by decide +kernel
  mapped := wellMapped_imsLines audioPort videoPort payload stype

theorem mappings_imsDescription :
    (imsDescription audioPort videoPort payload .VIDEO).mappings =
      [(bytes "8", bytes "PCMA/8000/1"), (ofInt payload, bytes "H264/90000")] := by
  have hsession : imsSessionLines.filterMap mapping? = [] := by decide +kernel
  have haudio : mapping? (imsAudioLine audioPort) = none := by rfl
  have hpcma : mapping? (bytes "a=rtpmap:8 PCMA/8000/1") =
      some (bytes "8", bytes "PCMA/8000/1") := by decide +kernel
  have hsend : mapping? (bytes "a=sendrecv") = none := by decide +kernel
  have hmedia : mapping? (bytes "m=video " ++
      (ofInt videoPort.toNat ++ 32 :: (bytes "RTP/AVP " ++ ofInt payload))) = none := by rfl
  have hmapping := mapping?_line (inLine_number payload).2.1 (bytes "H264/90000")
  have hparams : mapping? (bytes "a=fmtp:" ++
      (ofInt payload ++ bytes " profile-level-id=42E00D; max-br=320")) = none := by rfl
  show (imsLines audioPort videoPort payload .VIDEO).filterMap mapping? = _
  rw [imsLines, imsBelow, imsVideoLines]
  simp only [List.filterMap_append, hsession, List.nil_append, List.filterMap_cons, haudio, hpcma,
    hsend, hmedia, hmapping, hparams, List.filterMap_nil]

/-! ## What is read from it -/

/-- An audio section does not name video. -/
theorem not_video_imsLines : ∀ l ∈ imsLines audioPort videoPort payload SessionType.AUDIO,
    ¬ bytes "video" <:+: l := by
  have haudio : ¬ bytes "video" <:+: imsAudioLine audioPort := by
    refine not_infix_append (c := 111) (by decide) (by decide) ?_
    rw [List.mem_append, not_or]
    exact ⟨notMem_ofInt (by decide) (by decide) _, by decide⟩
  have hbelow : ∀ l ∈ [bytes "a=rtpmap:8 PCMA/8000/1", bytes "a=sendrecv"],
      ¬ bytes "video" <:+: l := by decide +kernel
  rw [imsLines, List.forall_mem_append, List.forall_mem_cons]
  exact ⟨by decide +kernel, haudio, hbelow⟩

theorem sessionType_imsLines :
    sessionType (unlines (imsLines audioPort videoPort payload stype)) = stype := by
  cases stype with
  | AUDIO => exact sessionType_audio (not_video_imsLines audioPort videoPort payload)
  | VIDEO =>
    have hmem : bytes "m=video " ++ (ofInt videoPort.toNat ++ 32 :: (bytes "RTP/AVP " ++
        ofInt payload)) ∈ imsLines audioPort videoPort payload .VIDEO := by
      simp [imsLines, imsBelow, imsVideoLines]
    have hname : bytes "video" <:+: bytes "m=video " := by decide
    exact sessionType_video hmem (hname.trans (List.prefix_append _ _).isInfix)

theorem toPort_ofInt (port : UInt16) : toPort (atoi (ofInt port.toNat)) = port := by
  have hlt := port.toNat_lt
  rw [atoi_ofInt (by omega) (by omega), toPort]
  have hmod : ((port.toNat : Int) % 65536).toNat = port.toNat := by omega
  rw [hmod, UInt16.ofNat_toNat]

theorem param_imsLines : param (unlines (imsLines audioPort videoPort payload stype))
    (bytes "c=IN IP4 ") = some (bytes "10.109.247.140") := by
  have hsession : imsSessionLines = imsSessionLines.take 3 ++
      (bytes "c=IN IP4 " ++ bytes "10.109.247.140") :: [bytes "t=0 0"] := by decide +kernel
  have habove : ∀ l ∈ imsSessionLines.take 3, ¬ bytes "c=IN IP4 " <:+: l := by decide +kernel
  rw [imsLines, hsession, List.append_assoc, List.cons_append]
  exact param_lines (by decide) (by decide) (by decide) habove _

theorem audioPort_imsLines (old : UInt16) :
    sectionPort (unlines (imsLines audioPort videoPort payload stype)) (bytes "m=audio ") old =
      audioPort := by
  have habove : ∀ l ∈ imsSessionLines, ¬ bytes "m=audio " <:+: l := by decide +kernel
  rw [imsLines, imsAudioLine, audioLine,
    sectionPort_lines (by decide) (by decide) (inLine_number _).2.1 habove, toPort_ofInt]

/-- Without a video section the variable keeps what it held. -/
theorem videoPort_imsLines (old : UInt16) :
    sectionPort (unlines (imsLines audioPort videoPort payload stype)) (bytes "m=video ") old =
      match stype with
      | SessionType.AUDIO => old
      | .VIDEO => videoPort := by
  have hpart : bytes "video" <:+: bytes "m=video " := by decide
  have hpre : ∀ l ∈ imsLines audioPort videoPort payload SessionType.AUDIO,
      ¬ bytes "m=video " <:+: l := fun l hl h =>
    not_video_imsLines audioPort videoPort payload l hl (hpart.trans h)
  cases stype with
  | AUDIO =>
    have hnone : find (unlines (imsLines audioPort videoPort payload SessionType.AUDIO))
        (bytes "m=video ") 0 = none := by
      rw [find_eq_none_iff, infix_unlines (by decide) (by decide)]
      intro h
      obtain ⟨l, hl, hin⟩ := h
      exact hpre l hl hin
    rw [sectionPort, hnone]
  | VIDEO =>
    rw [imsLines_video, imsVideoLines,
      sectionPort_lines (by decide) (by decide) (inLine_number _).2.1 hpre, toPort_ofInt]

theorem getRemoteIpAndPort_imsLines (aport vport : UInt16) :
    getRemoteIpAndPort (unlines (imsLines audioPort videoPort payload stype)) aport vport =
      (bytes "10.109.247.140", audioPort,
        match stype with
        | SessionType.AUDIO => vport
        | .VIDEO => videoPort) := by
  rw [getRemoteIpAndPort, param_imsLines, audioPort_imsLines, videoPort_imsLines,
    Option.getD_some]

end

/-- What the agent knows after its own description. -/
def imsRecovered (audioPort videoPort vport : UInt16) (payload : Int) (r : ImsAgent) :
    SessionType → ImsAgent
  | SessionType.AUDIO =>
    { r with
      audioDestination := (bytes "10.109.247.140", audioPort)
      videoDestination := (bytes "10.109.247.140", vport) }
  | .VIDEO =>
    { r with
      audioDestination := (bytes "10.109.247.140", audioPort)
      videoDestination := (bytes "10.109.247.140", videoPort)
      vPayload := payload }

/-- `handleSdpFromIMS` reads back what `createSdpToIMS` writes. -/
theorem handleSdpFromIMS_createSdpToIMS {codec : SIPCodec} (hcodec : codec.H264 = true)
    (audioPort videoPort aport vport : UInt16) (stype : SessionType) (a r : ImsAgent)
    (hlow : -2 ^ 31 ≤ a.vPayload) (hhigh : a.vPayload < 2 ^ 31) :
    r.handleSdpFromIMS codec aport vport (a.createSdpToIMS codec audioPort videoPort stype) =
      (imsRecovered audioPort videoPort vport a.vPayload r stype, stype, true) := by
  let d := imsDescription audioPort videoPort a.vPayload stype
  have htext : a.createSdpToIMS codec audioPort videoPort stype =
      unlines (imsLines audioPort videoPort a.vPayload stype) :=
    createSdpToIMS_lines hcodec audioPort videoPort stype a
  have htype := sessionType_imsLines audioPort videoPort a.vPayload stype
  have haudio : audioSupport (unlines (imsLines audioPort videoPort a.vPayload stype)) = true :=
    d.audioSupport_text.trans (decide_eq_true (List.mem_singleton_self _))
  rw [htext, handleSdpFromIMS, getRemoteIpAndPort_imsLines, ImsAgent.scanPayload, htype, haudio]
  cases stype with
  | AUDIO => rfl
  | VIDEO =>
    have hpayload : rtpmapPayload (bytes "H264")
        (unlines (imsLines audioPort videoPort a.vPayload .VIDEO)) = some a.vPayload := by
      have hscan := @Description.rtpmapPayload_text d (bytes "H264") (by decide)
      rw [mappings_imsDescription] at hscan
      exact hscan.trans (congrArg some (atoi_ofInt hlow hhigh))
    simp only [hcodec, if_true, hpayload]
    rfl

theorem handleSdpFromIMS_ownDescription :
    ((ImsAgent.fresh ⟨true, false, false⟩ 0).vPayload = 98) ∧
    (ImsAgent.fresh ⟨true, false, false⟩ 0).handleSdpFromIMS ⟨true, false, false⟩ 0 0
        ((ImsAgent.fresh ⟨true, false, false⟩ 0).createSdpToIMS ⟨true, false, false⟩ 4000 4002
          .VIDEO) =
      (imsRecovered 4000 4002 0 98 (ImsAgent.fresh ⟨true, false, false⟩ 0) .VIDEO, .VIDEO, true) :=
  ⟨rfl, handleSdpFromIMS_createSdpToIMS rfl 4000 4002 0 0 .VIDEO _ _ (by decide) (by decide)⟩

end MediaGateway.Sdp
