import MediaGateway.Lib.Decimal
import MediaGateway.Sdp.Bounds
import MediaGateway.Sdp.Rewrite
import MediaGateway.Sdp.Scan

/-!
# The gateway reads its own offer

`createSdpToWeb` builds a template and rewrites it twice.  `createSdpToWeb_eq` says
what the text is then: the lines of the template with the live credentials and key
in each media section.  As lines it is a `Description`, so the rules for the scans
say what `handleSdpFromWeb` reads from it.
-/

namespace MediaGateway.Sdp

open Lib Bytes
open WebAgent hiding credentials

/-! ## The lines -/

/-- The values that `createSdpToWeb` writes into each media section. -/
structure Live where
  ufrag : Bytes
  pwd : Bytes
  key : Bytes

/-- One media section, as lines. -/
def mediaLines (v : Live) (media payload codec ssrc label : Bytes) : List Bytes :=
  [ (bytes "m=" ++ (media ++ bytes " 1 RTP/SAVPF ")) ++ payload
  , bytes "c=IN IP4 0.0.0.0"
  , bytes "a=rtcp:1 IN IP4 0.0.0.0"
  , ICE_UFRAG ++ v.ufrag
  , ICE_PWD ++ v.pwd
  , bytes "a=sendrecv"
  , bytes "a=mid:" ++ media
  , bytes "a=rtcp-mux"
  , CRYPTO_80 ++ v.key
  , bytes "a=rtpmap:" ++ (payload ++ codec)
  , SSRC ++ (ssrc ++ (SSRC_END ++ bytes "nuGkF01P6jVEX8n8"))
  , SSRC ++ (ssrc ++ bytes " mslabel:gUzyEDlZWN688rqW3YWb6Al1eqdok5HBdc7M")
  , SSRC ++ (ssrc ++ (bytes " label:gUzyEDlZWN688rqW3YWb6Al1eqdok5HBdc7M" ++ label)) ]

theorem webSection_eq_unlines (media payload codec ssrc label : Bytes) :
    webSection media payload (codec ++ bytes "\r\n") ssrc label =
      unlines (mediaLines ⟨bytes "V6oIgATQATtWFDI1", bytes "0fvI8mFb2+EFTVarDx/RHNvW",
        bytes "gnXrE0MSrzWLNu4VzjRm/A4d3ANy0gnpvDNXQlWd"⟩ media payload codec ssrc label) := by
  have hend : bytes "\r\n" = [13, 10] := by decide
  have hc : bytes "c=IN IP4 0.0.0.0\r\n" = bytes "c=IN IP4 0.0.0.0" ++ [13, 10] := by decide +kernel
  have hrtcp : bytes "a=rtcp:1 IN IP4 0.0.0.0\r\n" =
      bytes "a=rtcp:1 IN IP4 0.0.0.0" ++ [13, 10] := by decide +kernel
  have hufrag : bytes "a=ice-ufrag:V6oIgATQATtWFDI1\r\n" =
      ICE_UFRAG ++ (bytes "V6oIgATQATtWFDI1" ++ [13, 10]) := by decide +kernel
  have hpwd : bytes "a=ice-pwd:0fvI8mFb2+EFTVarDx/RHNvW\r\n" =
      ICE_PWD ++ (bytes "0fvI8mFb2+EFTVarDx/RHNvW" ++ [13, 10]) := by decide +kernel
  have hsend : bytes "a=sendrecv\r\n" = bytes "a=sendrecv" ++ [13, 10] := by decide
  have hmux : bytes "a=rtcp-mux\r\n" = bytes "a=rtcp-mux" ++ [13, 10] := by decide
  have hkey : bytes "gnXrE0MSrzWLNu4VzjRm/A4d3ANy0gnpvDNXQlWd\r\n" =
      bytes "gnXrE0MSrzWLNu4VzjRm/A4d3ANy0gnpvDNXQlWd" ++ [13, 10] := by decide +kernel
  have hcname : bytes "nuGkF01P6jVEX8n8\r\na=ssrc:" =
      bytes "nuGkF01P6jVEX8n8" ++ ([13, 10] ++ SSRC) := by decide +kernel
  have hmslabel : bytes " mslabel:gUzyEDlZWN688rqW3YWb6Al1eqdok5HBdc7M\r\na=ssrc:" =
      bytes " mslabel:gUzyEDlZWN688rqW3YWb6Al1eqdok5HBdc7M" ++ ([13, 10] ++ SSRC) := by
    decide +kernel
  unfold webSection ssrcLines mediaLines
  simp only [unlines_cons, unlines_nil]
  simp only [List.append_assoc, List.append_nil]
  rw [hc, hrtcp, hufrag, hpwd, hsend, hmux, hkey, hcname, hmslabel, hend]
  simp only [List.append_assoc]

/-- The lines above the media sections. -/
def sessionLines : SessionType → List Bytes
  | SessionType.AUDIO =>
    [bytes "v=0", bytes "o=- 3407814663 2 IN IP4 127.0.0.1", bytes "s=-", bytes "t=0 0",
      bytes "a=group:BUNDLE audio"]
  | .VIDEO =>
    [bytes "v=0", bytes "o=- 3407814663 2 IN IP4 127.0.0.1", bytes "s=-", bytes "t=0 0",
      bytes "a=group:BUNDLE audio video"]

def audioLines (v : Live) : List Bytes :=
  mediaLines v (bytes "audio") (ofInt PT_PCMA_DEFAULT) (bytes " PCMA/8000") audioSSRC (bytes "00")

def videoLines (v : Live) (payload : Int) : List Bytes :=
  mediaLines v (bytes "video") (ofInt payload) (bytes " VP8/90000") videoSSRC (bytes "10")

/-- The text with the values in place. -/
def webLines (v : Live) (payload : Int) (stype : SessionType) : List Bytes :=
  sessionLines stype ++ (audioLines v ++
    match stype with
    | SessionType.AUDIO => []
    | .VIDEO => videoLines v payload)

/-- The values of the template. -/
def placeholder : Live where
  ufrag := bytes "V6oIgATQATtWFDI1"
  pwd := bytes "0fvI8mFb2+EFTVarDx/RHNvW"
  key := bytes "gnXrE0MSrzWLNu4VzjRm/A4d3ANy0gnpvDNXQlWd"

theorem webSdpTemplate_eq (stype : SessionType) (w : WebAgent) :
    webSdpTemplate stype w = unlines (webLines placeholder w.vPayload stype) := by
  have hpcma : bytes " PCMA/8000\r\n" = bytes " PCMA/8000" ++ bytes "\r\n" := by decide
  have hvp8 : bytes " VP8/90000\r\n" = bytes " VP8/90000" ++ bytes "\r\n" := by decide
  have haudio : webSection (bytes "audio") (ofInt PT_PCMA_DEFAULT) (bytes " PCMA/8000\r\n")
      audioSSRC (bytes "00") = unlines (audioLines placeholder) := by
    rw [hpcma, webSection_eq_unlines]
    rfl
  have hvideo : webSection (bytes "video") (ofInt w.vPayload) (bytes " VP8/90000\r\n") videoSSRC
      (bytes "10") = unlines (videoLines placeholder w.vPayload) := by
    rw [hvp8, webSection_eq_unlines]
    rfl
  have hbeginAudio : WEB_SDP_BEGIN ++ WEB_AUDIO_BUNDLE =
      unlines (sessionLines SessionType.AUDIO) := by decide +kernel
  have hbeginVideo : WEB_SDP_BEGIN ++ WEB_VIDEO_BUNDLE = unlines (sessionLines .VIDEO) := by
    decide +kernel
  cases stype with
  | AUDIO =>
    calc webSdpTemplate SessionType.AUDIO w
      _ = WEB_SDP_BEGIN ++ WEB_AUDIO_BUNDLE ++ webSection (bytes "audio") (ofInt PT_PCMA_DEFAULT)
          (bytes " PCMA/8000\r\n") audioSSRC (bytes "00") := rfl
      _ = unlines (sessionLines SessionType.AUDIO) ++ unlines (audioLines placeholder) := by
        rw [hbeginAudio, haudio]
      _ = unlines (webLines placeholder w.vPayload SessionType.AUDIO) := by
        rw [webLines, List.append_nil, unlines_append]
  | VIDEO =>
    calc webSdpTemplate .VIDEO w
      _ = WEB_SDP_BEGIN ++ WEB_VIDEO_BUNDLE ++ webSection (bytes "audio") (ofInt PT_PCMA_DEFAULT)
            (bytes " PCMA/8000\r\n") audioSSRC (bytes "00") ++
          webSection (bytes "video") (ofInt w.vPayload) (bytes " VP8/90000\r\n") videoSSRC
            (bytes "10") := rfl
      _ = unlines (sessionLines .VIDEO) ++ unlines (audioLines placeholder) ++
          unlines (videoLines placeholder w.vPayload) := by
        rw [hbeginVideo, haudio, hvideo]
      _ = unlines (webLines placeholder w.vPayload .VIDEO) := by
        rw [webLines, unlines_append, unlines_append, List.append_assoc]

/-! ## The rewriting -/

/-- The lines of the text that are the same for all values. -/
def fixedLines : List Bytes :=
  sessionLines SessionType.AUDIO ++ (sessionLines .VIDEO ++
    [ bytes "m=audio 1 RTP/SAVPF 8", bytes "c=IN IP4 0.0.0.0", bytes "a=rtcp:1 IN IP4 0.0.0.0"
    , bytes "a=sendrecv", bytes "a=mid:audio", bytes "a=mid:video", bytes "a=rtcp-mux"
    , bytes "a=rtpmap:8 PCMA/8000"
    , bytes "a=ssrc:222222222 cname:nuGkF01P6jVEX8n8"
    , bytes "a=ssrc:222222222 mslabel:gUzyEDlZWN688rqW3YWb6Al1eqdok5HBdc7M"
    , bytes "a=ssrc:222222222 label:gUzyEDlZWN688rqW3YWb6Al1eqdok5HBdc7M00"
    , bytes "a=ssrc:333333333 cname:nuGkF01P6jVEX8n8"
    , bytes "a=ssrc:333333333 mslabel:gUzyEDlZWN688rqW3YWb6Al1eqdok5HBdc7M"
    , bytes "a=ssrc:333333333 label:gUzyEDlZWN688rqW3YWb6Al1eqdok5HBdc7M10" ])

/-- None of them has a label of a value, or one of a mapping in a wrong place. -/
theorem fixedLines_free : ∀ l ∈ fixedLines, InLine l ∧ WellMapped l ∧
    ¬ ICE_UFRAG <:+: l ∧ ¬ ICE_PWD <:+: l ∧ ¬ CRYPTO_80 <:+: l := by
  decide +kernel

/-- The lines of the session and the three lines above the credentials. -/
def aboveCreds (stype : SessionType) : List Bytes :=
  sessionLines stype ++
    [bytes "m=audio 1 RTP/SAVPF 8", bytes "c=IN IP4 0.0.0.0", bytes "a=rtcp:1 IN IP4 0.0.0.0"]

theorem aboveCreds_free (stype : SessionType) : ∀ l ∈ aboveCreds stype,
    ¬ ICE_UFRAG <:+: l ∧ ¬ ICE_PWD <:+: l ∧ ¬ CRYPTO_80 <:+: l := by
  have hsub : aboveCreds stype ⊆ fixedLines := by
    cases stype <;> simp [aboveCreds, sessionLines, fixedLines, List.cons_subset]
  exact fun l hl => (fixedLines_free l (hsub hl)).2.2

def videoMedia (payload : Int) : Bytes := bytes "m=video 1 RTP/SAVPF " ++ ofInt payload

def videoMapping (payload : Int) : Bytes :=
  bytes "a=rtpmap:" ++ (ofInt payload ++ bytes " VP8/90000")

theorem audioLines_eq (v : Live) :
    audioLines v =
      [bytes "m=audio 1 RTP/SAVPF 8", bytes "c=IN IP4 0.0.0.0", bytes "a=rtcp:1 IN IP4 0.0.0.0",
        ICE_UFRAG ++ v.ufrag, ICE_PWD ++ v.pwd, bytes "a=sendrecv", bytes "a=mid:audio",
        bytes "a=rtcp-mux", CRYPTO_80 ++ v.key, bytes "a=rtpmap:8 PCMA/8000",
        bytes "a=ssrc:222222222 cname:nuGkF01P6jVEX8n8",
        bytes "a=ssrc:222222222 mslabel:gUzyEDlZWN688rqW3YWb6Al1eqdok5HBdc7M",
        bytes "a=ssrc:222222222 label:gUzyEDlZWN688rqW3YWb6Al1eqdok5HBdc7M00"] := by
  rfl

theorem audioLines_subset (v : Live) :
    audioLines v ⊆ fixedLines ++
      [ICE_UFRAG ++ v.ufrag, ICE_PWD ++ v.pwd, CRYPTO_80 ++ v.key] := by
  rw [audioLines_eq, fixedLines]
  simp [List.cons_subset]

theorem videoLines_eq (v : Live) (payload : Int) :
    videoLines v payload =
      [videoMedia payload, bytes "c=IN IP4 0.0.0.0", bytes "a=rtcp:1 IN IP4 0.0.0.0",
        ICE_UFRAG ++ v.ufrag, ICE_PWD ++ v.pwd, bytes "a=sendrecv", bytes "a=mid:video",
        bytes "a=rtcp-mux", CRYPTO_80 ++ v.key, videoMapping payload,
        bytes "a=ssrc:333333333 cname:nuGkF01P6jVEX8n8",
        bytes "a=ssrc:333333333 mslabel:gUzyEDlZWN688rqW3YWb6Al1eqdok5HBdc7M",
        bytes "a=ssrc:333333333 label:gUzyEDlZWN688rqW3YWb6Al1eqdok5HBdc7M10"] := by
  rfl

theorem videoLines_subset (v : Live) (payload : Int) :
    videoLines v payload ⊆ fixedLines ++ [ICE_UFRAG ++ v.ufrag, ICE_PWD ++ v.pwd,
      CRYPTO_80 ++ v.key, videoMedia payload, videoMapping payload] := by
  rw [videoLines_eq, fixedLines]
  simp [List.cons_subset]

/-- What holds of the fixed lines and of the lines with a value holds of all lines. -/
theorem forall_webLines {Q : Bytes → Prop} {v : Live} {payload : Int} (stype : SessionType)
    (hfixed : ∀ l ∈ fixedLines, Q l) (hufrag : Q (ICE_UFRAG ++ v.ufrag))
    (hpwd : Q (ICE_PWD ++ v.pwd)) (hkey : Q (CRYPTO_80 ++ v.key)) (hmedia : Q (videoMedia payload))
    (hmapping : Q (videoMapping payload)) : ∀ l ∈ webLines v payload stype, Q l := by
  have hsession : ∀ l ∈ sessionLines stype, Q l := by
    intro l hl
    refine hfixed l ?_
    rw [fixedLines, List.mem_append, List.mem_append]
    cases stype with
    | AUDIO => exact .inl hl
    | VIDEO => exact .inr (.inl hl)
  have haudio : ∀ l ∈ audioLines v, Q l := by
    intro l hl
    rcases List.mem_append.1 (audioLines_subset v hl) with h | h
    · exact hfixed l h
    · simp only [List.mem_cons, List.not_mem_nil, or_false] at h
      rcases h with rfl | rfl | rfl
      · exact hufrag
      · exact hpwd
      · exact hkey
  have hvideo : ∀ l ∈ videoLines v payload, Q l := by
    intro l hl
    rcases List.mem_append.1 (videoLines_subset v payload hl) with h | h
    · exact hfixed l h
    · simp only [List.mem_cons, List.not_mem_nil, or_false] at h
      rcases h with rfl | rfl | rfl | rfl | rfl
      · exact hufrag
      · exact hpwd
      · exact hkey
      · exact hmedia
      · exact hmapping
  cases stype with
  | AUDIO =>
    rw [webLines, List.append_nil, List.forall_mem_append]
    exact ⟨hsession, haudio⟩
  | VIDEO =>
    rw [webLines, List.forall_mem_append, List.forall_mem_append]
    exact ⟨hsession, haudio, hvideo⟩

/-- A label that ends in a colon does not reach into a payload number. -/
theorem not_infix_media {label : Bytes} (hlast : label.getLast? = some 58)
    (h : ¬ label <:+: bytes "m=video 1 RTP/SAVPF ") (payload : Int) :
    ¬ label <:+: videoMedia payload :=
  not_infix_append h hlast (notMem_ofInt (by decide) (by decide) payload)

theorem not_infix_mapping {label : Bytes} (hlast : label.getLast? = some 58)
    (h : ¬ label <:+: bytes "a=rtpmap:") (payload : Int) : ¬ label <:+: videoMapping payload := by
  refine not_infix_append h hlast ?_
  rw [List.mem_append, not_or]
  exact ⟨notMem_ofInt (by decide) (by decide) payload, by decide⟩

/-- A section from its start to its credentials. -/
def audioBlock (v : Live) (above : List Bytes) : Block :=
  ⟨above ++ (audioLines v).take 3, v.ufrag, v.pwd⟩

def videoBlock (v : Live) (payload : Int) (above : List Bytes) : Block :=
  ⟨above ++ (videoLines v payload).take 3, v.ufrag, v.pwd⟩

/-- The sections as blocks, and what stands below the last one. -/
def webBlocks (v : Live) (payload : Int) : SessionType → List Block
  | SessionType.AUDIO => [audioBlock v (sessionLines SessionType.AUDIO)]
  | .VIDEO =>
    [audioBlock v (sessionLines .VIDEO), videoBlock v payload ((audioLines v).drop 5)]

def webTail (v : Live) (payload : Int) : SessionType → List Bytes
  | SessionType.AUDIO => (audioLines v).drop 5
  | .VIDEO => (videoLines v payload).drop 5

theorem webLines_eq_blocks (v : Live) (payload : Int) (stype : SessionType) :
    webLines v payload stype =
      (webBlocks v payload stype).flatMap Block.lines ++ webTail v payload stype := by
  cases stype <;> rfl

/-- The credentials are replaced in each section. -/
theorem replaceUfragPwd_webLines {ufrag pwd : Bytes} (hufrag : ¬ ICE_PWD <:+: ufrag)
    (hpwd : ¬ ICE_UFRAG <:+: pwd) (payload : Int) (stype : SessionType) :
    replaceUfragPwd ufrag pwd (unlines (webLines placeholder payload stype)) =
      unlines (webLines ⟨ufrag, pwd, placeholder.key⟩ payload stype) := by
  have hmedia : ¬ ICE_UFRAG <:+: videoMedia payload :=
    not_infix_media (by decide) (by decide) payload
  have hmapping : ¬ ICE_UFRAG <:+: videoMapping payload :=
    not_infix_mapping (by decide) (by decide) payload
  have hold : 13 ∉ placeholder.ufrag ∧ 13 ∉ placeholder.pwd := by decide
  have haudio : ∀ stype, (audioBlock placeholder (sessionLines stype)).WellFormed := by
    intro stype
    exact ⟨fun l hl => (aboveCreds_free stype l hl).1, hold.1, hold.2⟩
  have hbehind : ∀ l ∈ (audioLines placeholder).drop 5, ¬ ICE_UFRAG <:+: l := by decide +kernel
  have hvideo : (videoBlock placeholder payload ((audioLines placeholder).drop 5)).WellFormed := by
    refine ⟨?_, hold.1, hold.2⟩
    have htop : ∀ l ∈ [bytes "c=IN IP4 0.0.0.0", bytes "a=rtcp:1 IN IP4 0.0.0.0"],
        ¬ ICE_UFRAG <:+: l := by decide
    show ∀ l ∈ (audioLines placeholder).drop 5 ++ (videoLines placeholder payload).take 3, _
    rw [List.forall_mem_append]
    exact ⟨hbehind, List.forall_mem_cons.2 ⟨hmedia, htop⟩⟩
  have htail : ∀ l ∈ webTail placeholder payload stype, ¬ ICE_UFRAG <:+: l := by
    cases stype with
    | AUDIO => exact hbehind
    | VIDEO =>
      have hmiddle : ∀ l ∈ [bytes "a=sendrecv", bytes "a=mid:video", bytes "a=rtcp-mux",
          CRYPTO_80 ++ placeholder.key], ¬ ICE_UFRAG <:+: l := by decide +kernel
      have hend : ∀ l ∈ [bytes "a=ssrc:333333333 cname:nuGkF01P6jVEX8n8",
          bytes "a=ssrc:333333333 mslabel:gUzyEDlZWN688rqW3YWb6Al1eqdok5HBdc7M",
          bytes "a=ssrc:333333333 label:gUzyEDlZWN688rqW3YWb6Al1eqdok5HBdc7M10"],
          ¬ ICE_UFRAG <:+: l := by decide +kernel
      rw [webTail, videoLines_eq]
      exact List.forall_mem_append.2 ⟨hmiddle, List.forall_mem_cons.2 ⟨hmapping, hend⟩⟩
  have hblocks : ∀ b ∈ webBlocks placeholder payload stype, b.WellFormed := by
    cases stype with
    | AUDIO => exact List.forall_mem_singleton.2 (haudio _)
    | VIDEO => exact List.forall_mem_cons.2 ⟨haudio _, List.forall_mem_singleton.2 hvideo⟩
  rw [webLines_eq_blocks, replaceUfragPwd_blocks hufrag hpwd htail hblocks, webLines_eq_blocks]
  cases stype <;> rfl

/-- The key of a section. -/
theorem map_setKey_mediaLines (v : Live) (media payload codec ssrc label crypto : Bytes) :
    (mediaLines v media payload codec ssrc label).map (setKey crypto) =
      mediaLines ⟨v.ufrag, v.pwd, crypto⟩ media payload codec ssrc label := by
  have hkey : setKey crypto (CRYPTO_80 ++ v.key) = CRYPTO_80 ++ crypto :=
    if_pos (List.prefix_append _ _)
  have hother : ∀ x : Bytes, ¬ x <+: CRYPTO_80 → ¬ CRYPTO_80 <+: x → ∀ y, setKey crypto (x ++ y) =
      x ++ y := fun x hx hmarker y => setKey_append hx hmarker y
  have hwhole : ∀ l : Bytes, ¬ CRYPTO_80 <+: l → setKey crypto l = l := fun l hl => if_neg hl
  unfold mediaLines
  simp only [List.map_cons, List.map_nil, List.append_assoc, hkey]
  rw [hother (bytes "m=") (by decide) (by decide), hwhole (bytes "c=IN IP4 0.0.0.0") (by decide),
    hwhole (bytes "a=rtcp:1 IN IP4 0.0.0.0") (by decide), hother ICE_UFRAG (by decide) (by decide),
    hother ICE_PWD (by decide) (by decide), hwhole (bytes "a=sendrecv") (by decide),
    hother (bytes "a=mid:") (by decide) (by decide), hwhole (bytes "a=rtcp-mux") (by decide),
    hother (bytes "a=rtpmap:") (by decide) (by decide), hother SSRC (by decide) (by decide),
    hother SSRC (by decide) (by decide), hother SSRC (by decide) (by decide)]

/-- Nothing but the key lines has the marker, and these have it at their start. -/
theorem rewritable_webLines {v : Live} (hufrag : 58 ∉ v.ufrag) (hpwd : 58 ∉ v.pwd) {crypto : Bytes}
    (hkey : 13 ∉ v.key ∧ v.key.length ≤ crypto.length) (hcolon : 58 ∉ v.key) (payload : Int)
    (stype : SessionType) :
    ∀ l ∈ webLines v payload stype, Rewritable crypto l ∧ ¬ CRYPTO_80 <:+: l.tail := by
  have hnone : ∀ l : Bytes, ¬ CRYPTO_80 <:+: l → Rewritable crypto l ∧ ¬ CRYPTO_80 <:+: l.tail :=
    fun l hl => ⟨fun h => absurd h hl, fun h => hl (h.trans (List.tail_suffix l).isInfix)⟩
  refine forall_webLines stype (fun l hl => hnone l (fixedLines_free l hl).2.2.2.2) ?_ ?_ ?_ ?_ ?_
  · exact hnone _ (not_infix_append (c := 58) (by decide) (by decide) hufrag)
  · exact hnone _ (not_infix_append (c := 58) (by decide) (by decide) hpwd)
  · refine ⟨fun _ => ⟨v.key, rfl, hkey⟩, ?_⟩
    have htail : (CRYPTO_80 ++ v.key).tail = CRYPTO_80.tail ++ v.key := rfl
    rw [htail]
    exact not_infix_append (c := 58) (by decide) (by decide) hcolon
  · exact hnone _ (not_infix_media (by decide) (by decide) payload)
  · exact hnone _ (not_infix_mapping (by decide) (by decide) payload)

/-- The text of `createSdpToWeb`: every media section has the live credentials and the
key of the gateway. -/
theorem createSdpToWeb_eq {ufrag pwd : Bytes} (hufrag : 58 ∉ ufrag) (hpwd : 58 ∉ pwd)
    (stype : SessionType) (w : WebAgent) :
    createSdpToWeb ufrag pwd stype w =
      unlines (webLines ⟨ufrag, pwd, cryptoToWeb⟩ w.vPayload stype) := by
  have hlabel : ∀ {label value : Bytes}, 58 ∈ label → 58 ∉ value → ¬ label <:+: value :=
    fun hmem hvalue h => hvalue (h.subset hmem)
  have hsession : (sessionLines stype).map (setKey cryptoToWeb) = sessionLines stype := by
    cases stype <;> decide +kernel
  have hkey : 13 ∉ placeholder.key ∧ placeholder.key.length ≤ cryptoToWeb.length := by decide
  have hcolon : 58 ∉ placeholder.key := by decide
  have hlines := rewritable_webLines (v := ⟨ufrag, pwd, placeholder.key⟩) hufrag hpwd hkey
    hcolon w.vPayload stype
  rw [createSdpToWeb, webSdpTemplate_eq, replaceUfragPwd_webLines (hlabel (by decide) hufrag)
    (hlabel (by decide) hpwd), replaceCrypto_lines (by decide +kernel)
    (fun l hl => (hlines l hl).1) (fun l hl => (hlines l hl).2)]
  cases stype with
  | AUDIO =>
    rw [webLines, List.map_append, List.map_append, hsession, audioLines, map_setKey_mediaLines]
    rfl
  | VIDEO =>
    rw [webLines, List.map_append, List.map_append, hsession, audioLines, map_setKey_mediaLines,
      videoLines, map_setKey_mediaLines]
    rfl

/-! ## What is read from it -/

/-- The first SSRC below the video line. -/
theorem scanVideoSSRC_lines {media ssrc : Bytes} (hssrc : 32 ∉ ssrc) {pre mid : List Bytes}
    (hpre : ∀ l ∈ pre, ¬ bytes "m=video" <:+: l)
    (hmid : ∀ l ∈ (bytes "m=video" ++ media) :: mid, ¬ bytes "a=ssrc:" <:+: l)
    (more : Bytes) (post : List Bytes) (old : Bytes) :
    scanVideoSSRC (unlines (pre ++ ((bytes "m=video" ++ media) :: mid ++
      (bytes "a=ssrc:" ++ (ssrc ++ 32 :: more)) :: post))) old = ssrc := by
  let above := unlines pre ++ unlines ((bytes "m=video" ++ media) :: mid)
  let text := unlines (pre ++ ((bytes "m=video" ++ media) :: mid ++
    (bytes "a=ssrc:" ++ (ssrc ++ 32 :: more)) :: post))
  have htext : text = (above ++ bytes "a=ssrc:") ++
      (ssrc ++ 32 :: (more ++ ([13, 10] ++ unlines post))) := by
    simp only [text, above]
    rw [unlines_append, unlines_append, unlines_cons (bytes "a=ssrc:" ++ _)]
    simp only [List.append_assoc, List.cons_append]
  have hvideo : find text (bytes "m=video") 0 = some (unlines pre).length :=
    find_label (by decide) (by decide) hpre media _
  have hlabel : find text (bytes "a=ssrc:") (unlines pre).length = some above.length := by
    have hfind := find_label (by decide) (by decide) hmid (ssrc ++ 32 :: more) post
    simp only [text, above]
    rw [unlines_append, find_append_length, hfind, List.length_append]
    rfl
  have hspace : find text [32] (above ++ bytes "a=ssrc:").length =
      some ((above ++ bytes "a=ssrc:").length + ssrc.length) := by
    rw [htext, find_append_length, find_byte hssrc]
    rfl
  show scanVideoSSRC text old = ssrc
  rw [scanVideoSSRC, hvideo]
  simp only [hlabel, ← List.length_append, show bytes " " = [32] from rfl, hspace]
  rw [@List.length_append _ _ ssrc, Nat.add_sub_cancel_left, htext, substr_append_length]

/-- Wherever the label stands in the text, the value and the end of the line follow. -/
def Carries (text label value : Bytes) : Prop :=
  ∀ a b, text = a ++ (label ++ b) → ∃ rest, b = value ++ ([13, 10] ++ rest)

/-- A non-empty text over the alphabet of ICE that does not look like a video session. -/
structure IsCredential (value : Bytes) : Prop where
  nonempty : value ≠ []
  alphabet : ∀ c ∈ value, Checked.iceChar c = true
  noVideo : ¬ bytes "video" <:+: value

/-- A character outside the alphabet. -/
theorem IsCredential.notMem {value : Bytes} (h : IsCredential value) {c : UInt8}
    (hc : Checked.iceChar c = false) : c ∉ value := by
  intro hmem
  rw [h.alphabet c hmem] at hc
  cases hc

/-- The credentials that ICE reports. -/
structure Credentials where
  ufrag : Bytes
  pwd : Bytes
  isUfrag : IsCredential ufrag
  isPwd : IsCredential pwd

namespace Credentials

variable (c : Credentials) (payload : Int) (stype : SessionType)

def live : Live := ⟨c.ufrag, c.pwd, cryptoToWeb⟩

/-- The lines of the audio section up to the key, and those from the key on. -/
theorem audioLines_live :
    audioLines c.live =
      [bytes "m=audio 1 RTP/SAVPF 8", bytes "c=IN IP4 0.0.0.0", bytes "a=rtcp:1 IN IP4 0.0.0.0"] ++
        ([ICE_UFRAG ++ c.ufrag, ICE_PWD ++ c.pwd] ++
          (audioLines ⟨[], [], cryptoToWeb⟩).drop 5) := by
  rw [audioLines_eq, audioLines_eq]
  rfl

/-- No audio section names video. -/
theorem not_video_audioLines : ∀ l ∈ audioLines c.live, ¬ bytes "video" <:+: l := by
  have hparam : ∀ (name) {value : Bytes}, ¬ bytes "video" <:+: name → IsCredential value →
      ¬ bytes "video" <:+: name ++ 58 :: value := by
    intro name value hname hvalue h
    rcases infix_of_append_cons (by decide) h with h | h
    · exact hname h
    · exact hvalue.noVideo h
  have htop : ∀ l ∈ [bytes "m=audio 1 RTP/SAVPF 8", bytes "c=IN IP4 0.0.0.0",
      bytes "a=rtcp:1 IN IP4 0.0.0.0"], ¬ bytes "video" <:+: l := by decide +kernel
  have hcreds : ∀ l ∈ [ICE_UFRAG ++ c.ufrag, ICE_PWD ++ c.pwd], ¬ bytes "video" <:+: l := by
    rw [List.forall_mem_cons, List.forall_mem_singleton]
    exact ⟨hparam (bytes "a=ice-ufrag") (by decide) c.isUfrag,
      hparam (bytes "a=ice-pwd") (by decide) c.isPwd⟩
  have hbottom : ∀ l ∈ (audioLines ⟨[], [], cryptoToWeb⟩).drop 5, ¬ bytes "video" <:+: l := by
    decide +kernel
  rw [audioLines_live, List.forall_mem_append, List.forall_mem_append]
  exact ⟨htop, hcreds, hbottom⟩

theorem sessionType_webLines : sessionType (unlines (webLines c.live payload stype)) = stype := by
  cases stype with
  | AUDIO =>
    have hsession : ∀ l ∈ sessionLines SessionType.AUDIO, ¬ bytes "video" <:+: l := by
      decide +kernel
    apply sessionType_audio
    rw [webLines, List.append_nil, List.forall_mem_append]
    exact ⟨hsession, c.not_video_audioLines⟩
  | VIDEO =>
    have hbundle : bytes "a=group:BUNDLE audio video" ∈ webLines c.live payload .VIDEO :=
      List.mem_append_left _ (by decide)
    exact sessionType_video hbundle (by decide +kernel)

/-- The labels of the credentials do not reach into them. -/
theorem not_infix_creds {label : Bytes} (hlast : label.getLast? = some 58)
    (hufrag : ¬ label <:+: ICE_UFRAG) (hpwd : ¬ label <:+: ICE_PWD) :
    ∀ l ∈ [ICE_UFRAG ++ c.ufrag, ICE_PWD ++ c.pwd], ¬ label <:+: l := by
  rw [List.forall_mem_cons, List.forall_mem_singleton]
  exact ⟨not_infix_append hufrag hlast (c.isUfrag.notMem (by decide)),
    not_infix_append hpwd hlast (c.isPwd.notMem (by decide))⟩

/-- The lines from the credentials on. -/
def belowCreds : SessionType → List Bytes
  | SessionType.AUDIO => (audioLines c.live).drop 5
  | .VIDEO => (audioLines c.live).drop 5 ++ videoLines c.live payload

theorem webLines_eq_creds :
    webLines c.live payload stype = aboveCreds stype ++
      (ICE_UFRAG ++ c.ufrag) :: (ICE_PWD ++ c.pwd) :: belowCreds c payload stype := by
  cases stype <;> rfl

theorem credentials_webLines :
    WebAgent.credentials (unlines (webLines c.live payload stype)) =
      [.setCredentials c.ufrag c.pwd] := by
  have habove := aboveCreds_free stype
  have hufrag : param (unlines (webLines c.live payload stype)) ICE_UFRAG = some c.ufrag := by
    rw [webLines_eq_creds]
    exact param_lines (by decide) (by decide) (c.isUfrag.notMem (by decide))
      (fun l hl => (habove l hl).1) _
  have hpwd : param (unlines (webLines c.live payload stype)) ICE_PWD = some c.pwd := by
    have hpre : ∀ l ∈ aboveCreds stype ++ [ICE_UFRAG ++ c.ufrag], ¬ ICE_PWD <:+: l := by
      rw [List.forall_mem_append, List.forall_mem_singleton]
      exact ⟨fun l hl => (habove l hl).2.1,
        not_infix_append (c := 58) (by decide) (by decide) (c.isUfrag.notMem (by decide))⟩
    rw [webLines_eq_creds, List.append_cons]
    exact param_lines (by decide) (by decide) (c.isPwd.notMem (by decide)) hpre _
  have hlen : ∀ {value : Bytes}, IsCredential value → value.length ≠ 0 := fun h hzero =>
    h.nonempty (List.length_eq_zero_iff.1 hzero)
  rw [WebAgent.credentials, hufrag, hpwd]
  exact if_pos ⟨hlen c.isUfrag, hlen c.isPwd⟩

theorem scanCrypto_webLines (old : Bytes) :
    scanCrypto (unlines (webLines c.live payload stype)) old = cryptoToWeb := by
  have hsplit : webLines c.live payload stype =
      (aboveCreds stype ++ ([ICE_UFRAG ++ c.ufrag, ICE_PWD ++ c.pwd] ++
        [bytes "a=sendrecv", bytes "a=mid:audio", bytes "a=rtcp-mux"])) ++
      (CRYPTO_80 ++ cryptoToWeb) :: (belowCreds c payload stype).drop 4 := by
    cases stype <;> rfl
  have habove : ∀ l ∈ aboveCreds stype, ¬ CRYPTO_80 <:+: l := fun l hl =>
    (aboveCreds_free stype l hl).2.2
  have hbetween : ∀ l ∈ [bytes "a=sendrecv", bytes "a=mid:audio", bytes "a=rtcp-mux"],
      ¬ CRYPTO_80 <:+: l := by decide +kernel
  have hkey : param (unlines (webLines c.live payload stype)) CRYPTO_80 = some cryptoToWeb := by
    rw [hsplit]
    refine param_lines (by decide) (by decide) (by decide) ?_ _
    rw [List.forall_mem_append, List.forall_mem_append]
    exact ⟨habove, c.not_infix_creds (by decide) (by decide) (by decide), hbetween⟩
  have hcrypto : contains (unlines (webLines c.live payload stype)) (bytes "crypto") = true := by
    rw [contains_unlines (by decide) (by decide), hsplit]
    exact ⟨CRYPTO_80 ++ cryptoToWeb, List.mem_append_right _ List.mem_cons_self,
      by decide +kernel⟩
  rw [scanCrypto, if_pos hcrypto, getCryptoInfo, hkey]
  rfl

theorem scanVideoSSRC_webLines (old : Bytes) :
    scanVideoSSRC (unlines (webLines c.live payload .VIDEO)) old = videoSSRC := by
  have hsplit : webLines c.live payload .VIDEO =
      (sessionLines .VIDEO ++ audioLines c.live) ++
        ((bytes "m=video" ++ (bytes " 1 RTP/SAVPF " ++ ofInt payload)) ::
          ([bytes "c=IN IP4 0.0.0.0", bytes "a=rtcp:1 IN IP4 0.0.0.0"] ++
            ([ICE_UFRAG ++ c.ufrag, ICE_PWD ++ c.pwd] ++
              ([bytes "a=sendrecv", bytes "a=mid:video", bytes "a=rtcp-mux",
                CRYPTO_80 ++ cryptoToWeb] ++ [videoMapping payload]))) ++
          (bytes "a=ssrc:" ++ (videoSSRC ++ 32 :: bytes "cname:nuGkF01P6jVEX8n8")) ::
            (videoLines c.live payload).drop 11) := by
    rw [webLines, List.append_assoc, videoLines_eq]
    rfl
  have hmedia : ¬ bytes "a=ssrc:" <:+:
      bytes "m=video" ++ (bytes " 1 RTP/SAVPF " ++ ofInt payload) :=
    not_infix_media (by decide) (by decide) payload
  have hmapping : ¬ bytes "a=ssrc:" <:+: videoMapping payload :=
    not_infix_mapping (by decide) (by decide) payload
  have hpre : ∀ l ∈ sessionLines .VIDEO ++ audioLines c.live, ¬ bytes "m=video" <:+: l := by
    have hsession : ∀ l ∈ sessionLines .VIDEO, ¬ bytes "m=video" <:+: l := by decide +kernel
    have hpart : bytes "video" <:+: bytes "m=video" := by decide
    rw [List.forall_mem_append]
    exact ⟨hsession, fun l hl h => c.not_video_audioLines l hl (hpart.trans h)⟩
  rw [hsplit]
  refine scanVideoSSRC_lines (by decide) hpre ?_ _ _ old
  have hhead : ∀ l ∈ [bytes "c=IN IP4 0.0.0.0", bytes "a=rtcp:1 IN IP4 0.0.0.0"],
      ¬ bytes "a=ssrc:" <:+: l := by decide +kernel
  have htail : ∀ l ∈ [bytes "a=sendrecv", bytes "a=mid:video", bytes "a=rtcp-mux",
      CRYPTO_80 ++ cryptoToWeb], ¬ bytes "a=ssrc:" <:+: l := by decide +kernel
  rw [List.forall_mem_cons, List.forall_mem_append, List.forall_mem_append, List.forall_mem_append,
    List.forall_mem_singleton]
  exact ⟨hmedia, hhead, c.not_infix_creds (by decide) (by decide) (by decide), htail, hmapping⟩

/-! ## The text as a description -/

theorem inLine_ofInt (n : Int) : InLine (ofInt n) :=
  ⟨notMem_ofInt (by decide) (by decide) n, notMem_ofInt (by decide) (by decide) n⟩

theorem inLine_webLines : ∀ l ∈ webLines c.live payload stype, InLine l := by
  have hcred : ∀ {label value : Bytes}, InLine label → IsCredential value →
      InLine (label ++ value) := fun hlabel hvalue =>
    hlabel.append ⟨hvalue.notMem (by decide), hvalue.notMem (by decide)⟩
  refine forall_webLines stype (fun l hl => (fixedLines_free l hl).1) ?_ ?_ ?_ ?_ ?_
  · exact hcred (by decide) c.isUfrag
  · exact hcred (by decide) c.isPwd
  · show InLine (CRYPTO_80 ++ cryptoToWeb)
    decide +kernel
  · exact InLine.append (by decide) (inLine_ofInt payload)
  · exact InLine.append (by decide) ((inLine_ofInt payload).append (by decide))

theorem wellMapped_webLines : ∀ l ∈ webLines c.live payload stype, WellMapped l := by
  have hnone : ∀ l : Bytes, ¬ bytes "a=rtpmap:" <:+: l → WellMapped l := fun l hl h => absurd h hl
  refine forall_webLines stype (fun l hl => (fixedLines_free l hl).2.1) ?_ ?_ ?_ ?_ ?_
  · exact hnone _ (not_infix_append (c := 58) (by decide) (by decide)
      (c.isUfrag.notMem (by decide)))
  · exact hnone _ (not_infix_append (c := 58) (by decide) (by decide)
      (c.isPwd.notMem (by decide)))
  · show WellMapped (CRYPTO_80 ++ cryptoToWeb)
    decide +kernel
  · exact hnone _ (not_infix_media (by decide) (by decide) payload)
  · intro _
    have hdrop : (videoMapping payload).drop (bytes "a=rtpmap:").length =
        ofInt payload ++ bytes " VP8/90000" := List.drop_left
    have hfree : 58 ∉ ofInt payload ++ bytes " VP8/90000" := by
      rw [List.mem_append, not_or]
      exact ⟨notMem_ofInt (by decide) (by decide) payload, by decide⟩
    refine ⟨List.prefix_append _ _, ?_, ?_⟩
    · rw [hdrop, List.mem_append]
      exact .inr (by decide)
    · rw [hdrop]
      exact not_infix_append (x := []) (by decide) (by decide) hfree

theorem webLines_eq_audio :
    sessionLines stype ++ audioLine (bytes "1") (bytes "RTP/SAVPF") (bytes "8") [] ::
      (webLines c.live payload stype).drop 6 = webLines c.live payload stype := by
  cases stype <;> rfl

def description : Description where
  above := sessionLines stype
  port := bytes "1"
  proto := bytes "RTP/SAVPF"
  fmt := bytes "8"
  fmts := []
  below := (webLines c.live payload stype).drop 6
  inLine := by
    rw [webLines_eq_audio]
    exact c.inLine_webLines payload stype
  token := by decide
  first := by cases stype <;> decide +kernel
  mapped := by
    rw [webLines_eq_audio]
    exact c.wellMapped_webLines payload stype

theorem text_description :
    (c.description payload stype).text = unlines (webLines c.live payload stype) :=
  congrArg unlines (c.webLines_eq_audio payload stype)

theorem mappings_description :
    (c.description payload .VIDEO).mappings =
      [(bytes "8", bytes "PCMA/8000"), (ofInt payload, bytes "VP8/90000")] := by
  have hsplit : webLines c.live payload .VIDEO =
      aboveCreds .VIDEO ++ ([ICE_UFRAG ++ c.ufrag, ICE_PWD ++ c.pwd] ++
        ((audioLines ⟨[], [], cryptoToWeb⟩).drop 5 ++
          ([videoMedia payload, bytes "c=IN IP4 0.0.0.0", bytes "a=rtcp:1 IN IP4 0.0.0.0"] ++
            ([ICE_UFRAG ++ c.ufrag, ICE_PWD ++ c.pwd] ++
              ([bytes "a=sendrecv", bytes "a=mid:video", bytes "a=rtcp-mux",
                CRYPTO_80 ++ cryptoToWeb] ++
                (videoMapping payload :: (videoLines ⟨[], [], cryptoToWeb⟩ 0).drop 10)))))) := by
    rw [webLines_eq_creds, belowCreds, videoLines_eq]
    rfl
  have habove : (aboveCreds .VIDEO).filterMap mapping? = [] := by decide +kernel
  have hcreds : [ICE_UFRAG ++ c.ufrag, ICE_PWD ++ c.pwd].filterMap mapping? = [] := by rfl
  have haudio : ((audioLines ⟨[], [], cryptoToWeb⟩).drop 5).filterMap mapping? =
      [(bytes "8", bytes "PCMA/8000")] := by decide +kernel
  have hmedia : [videoMedia payload, bytes "c=IN IP4 0.0.0.0",
      bytes "a=rtcp:1 IN IP4 0.0.0.0"].filterMap mapping? = [] := by rfl
  have hmiddle : [bytes "a=sendrecv", bytes "a=mid:video", bytes "a=rtcp-mux",
      CRYPTO_80 ++ cryptoToWeb].filterMap mapping? = [] := by decide +kernel
  have hmapping : mapping? (videoMapping payload) = some (ofInt payload, bytes "VP8/90000") :=
    mapping?_line (notMem_ofInt (by decide) (by decide) payload) (bytes "VP8/90000")
  have hend : ((videoLines ⟨[], [], cryptoToWeb⟩ 0).drop 10).filterMap mapping? = [] := by
    decide +kernel
  show (sessionLines .VIDEO ++ audioLine (bytes "1") (bytes "RTP/SAVPF") (bytes "8") [] ::
      (webLines c.live payload .VIDEO).drop 6).filterMap mapping? = _
  rw [webLines_eq_audio, hsplit]
  simp only [List.filterMap_append, habove, hcreds, haudio, hmedia, hmiddle, List.nil_append,
    List.filterMap_cons, hmapping, hend]
  rfl

/-! ## No value of the template is left -/

/-- A label that ends in a colon stands at one place in front of a value without
colons. -/
theorem value_of_label {label value a b : Bytes} (hlast : label.getLast? = some 58)
    (hvalue : 58 ∉ value) (h : label ++ value = a ++ (label ++ b)) : b = value := by
  rw [← List.append_assoc, List.append_eq_append_iff] at h
  rcases h with ⟨t, ht, hb⟩ | ⟨t, ht, hb⟩
  · rcases List.eq_nil_or_concat t with rfl | ⟨t, d, rfl⟩
    · exact hb.symm
    · obtain ⟨p, rfl⟩ := List.getLast?_eq_some_iff.1 hlast
      rw [List.concat_eq_append, ← List.append_assoc, ← List.append_assoc] at ht
      obtain ⟨-, hd⟩ := List.append_inj' ht rfl
      obtain rfl := List.singleton_inj.1 hd
      exact absurd (by rw [hb]; simp) hvalue
  · have hlen := congrArg List.length ht
    simp only [List.length_append] at hlen
    obtain rfl : t = [] := List.length_eq_zero_iff.1 (by omega)
    exact hb

/-- A label that stands in no line but its own is followed by the live value. -/
theorem carries_webLines {label value : Bytes} (hlast : label.getLast? = some 58)
    (hin : InLine label) (hvalue : 58 ∉ value) (hfixed : ∀ l ∈ fixedLines, ¬ label <:+: l)
    (hmedia : ¬ label <:+: bytes "m=video 1 RTP/SAVPF ") (hmapping : ¬ label <:+: bytes "a=rtpmap:")
    (hufrag : label <:+: ICE_UFRAG ++ c.ufrag → ICE_UFRAG ++ c.ufrag = label ++ value)
    (hpwd : label <:+: ICE_PWD ++ c.pwd → ICE_PWD ++ c.pwd = label ++ value)
    (hkey : label <:+: CRYPTO_80 ++ cryptoToWeb → CRYPTO_80 ++ cryptoToWeb = label ++ value) :
    Carries (unlines (webLines c.live payload stype)) label value := by
  intro a b h
  have hne : label ≠ [] := by
    intro heq
    rw [heq] at hlast
    cases hlast
  have hline : ∀ l ∈ webLines c.live payload stype, label <:+: l → l = label ++ value :=
    forall_webLines stype (fun l hl h => absurd h (hfixed l hl)) hufrag hpwd hkey
      (fun h => absurd h (not_infix_media hlast hmedia payload))
      (fun h => absurd h (not_infix_mapping hlast hmapping payload))
  obtain ⟨l, hl, a', b', rest, hsplit, hb⟩ := exists_line_of_eq hne hin h
  have hinside : label <:+: l := ⟨a', b', by rw [hsplit, List.append_assoc]⟩
  rw [hline l hl hinside] at hsplit
  exact ⟨rest, by rw [hb, value_of_label hlast hvalue hsplit]⟩

/-- The label of one value does not stand in the line of another. -/
theorem not_infix_line {label name value : Bytes} (hlast : label.getLast? = some 58)
    (hname : ¬ label <:+: name) (hvalue : 58 ∉ value) (line : Bytes) :
    label <:+: name ++ value → name ++ value = line := fun h =>
  absurd h (not_infix_append hname hlast hvalue)

theorem carries_live :
    Carries (unlines (webLines c.live payload stype)) ICE_UFRAG c.ufrag ∧
    Carries (unlines (webLines c.live payload stype)) ICE_PWD c.pwd ∧
    Carries (unlines (webLines c.live payload stype)) CRYPTO_80 cryptoToWeb := by
  have hufrag : 58 ∉ c.ufrag := c.isUfrag.notMem (by decide)
  have hpwd : 58 ∉ c.pwd := c.isPwd.notMem (by decide)
  have hkey : 58 ∉ cryptoToWeb := by decide
  have hfixed := fixedLines_free
  refine ⟨?_, ?_, ?_⟩
  · exact c.carries_webLines payload stype (by decide) (by decide) hufrag
      (fun l hl => (hfixed l hl).2.2.1) (by decide) (by decide) (fun _ => rfl)
      (not_infix_line (by decide) (by decide) hpwd _)
      (not_infix_line (by decide) (by decide) hkey _)
  · exact c.carries_webLines payload stype (by decide) (by decide) hpwd
      (fun l hl => (hfixed l hl).2.2.2.1) (by decide) (by decide)
      (not_infix_line (by decide) (by decide) hufrag _) (fun _ => rfl)
      (not_infix_line (by decide) (by decide) hkey _)
  · exact c.carries_webLines payload stype (by decide) (by decide) hkey
      (fun l hl => (hfixed l hl).2.2.2.2) (by decide) (by decide)
      (not_infix_line (by decide) (by decide) hufrag _)
      (not_infix_line (by decide) (by decide) hpwd _) (fun _ => rfl)

/-- An audio session has no video line. -/
theorem scanVideoSSRC_audio (old : Bytes) :
    scanVideoSSRC (unlines (webLines c.live payload SessionType.AUDIO)) old = old := by
  have hsession : ∀ l ∈ sessionLines SessionType.AUDIO, ¬ bytes "m=video" <:+: l := by
    decide +kernel
  have hpart : bytes "video" <:+: bytes "m=video" := by decide
  have hnone : find (unlines (webLines c.live payload SessionType.AUDIO)) (bytes "m=video") 0 =
      none := by
    rw [find_eq_none_iff, infix_unlines (by decide) (by decide), webLines, List.append_nil]
    intro h
    obtain ⟨l, hl, hvideo⟩ := h
    rcases List.mem_append.1 hl with hl | hl
    · exact hsession l hl hvideo
    · exact c.not_video_audioLines l hl (hpart.trans hvideo)
  rw [scanVideoSSRC, hnone]

end Credentials

/-- What the agent knows after its own kind of offer: the key of the gateway, and for a
video session the SSRC and the payload number that were offered. -/
def recovered (payload : Int) (r : WebAgent) : SessionType → WebAgent
  | SessionType.AUDIO => { r with cryptoFromWeb := cryptoToWeb }
  | .VIDEO =>
    { r with cryptoFromWeb := cryptoToWeb, videoSSRCFromWeb := videoSSRC, vPayload := payload }

/-- The text of `createSdpToWeb` carries the live values wherever it has one of the
labels, and `handleSdpFromWeb` reads them back. -/
theorem handleSdpFromWeb_createSdpToWeb (c : Credentials) (stype : SessionType) (w r : WebAgent)
    (hlow : -2 ^ 31 ≤ w.vPayload) (hhigh : w.vPayload < 2 ^ 31) :
    createSdpToWeb c.ufrag c.pwd stype w = unlines (webLines c.live w.vPayload stype) ∧
    Carries (createSdpToWeb c.ufrag c.pwd stype w) ICE_UFRAG c.ufrag ∧
    Carries (createSdpToWeb c.ufrag c.pwd stype w) ICE_PWD c.pwd ∧
    Carries (createSdpToWeb c.ufrag c.pwd stype w) CRYPTO_80 cryptoToWeb ∧
    r.handleSdpFromWeb (createSdpToWeb c.ufrag c.pwd stype w) =
      (recovered w.vPayload r stype, stype, true) ∧
    WebAgent.credentials (createSdpToWeb c.ufrag c.pwd stype w) =
      [.setCredentials c.ufrag c.pwd] := by
  have htext : createSdpToWeb c.ufrag c.pwd stype w = unlines (webLines c.live w.vPayload stype) :=
    createSdpToWeb_eq (c.isUfrag.notMem (by decide)) (c.isPwd.notMem (by decide)) stype w
  have htype := c.sessionType_webLines w.vPayload stype
  have haudio : audioSupport (unlines (webLines c.live w.vPayload stype)) = true := by
    rw [← c.text_description, Description.audioSupport_text]
    exact decide_eq_true (List.mem_singleton_self _)
  obtain ⟨hufrag, hpwd, hkey⟩ := c.carries_live w.vPayload stype
  refine ⟨htext, htext ▸ hufrag, htext ▸ hpwd, htext ▸ hkey, ?_, ?_⟩
  · rw [htext, handleSdpFromWeb, c.scanCrypto_webLines, htype, supportFlag, scanPayload, htype]
    cases stype with
    | AUDIO =>
      simp only [haudio, c.scanVideoSSRC_audio]
      rfl
    | VIDEO =>
      have hpayload : rtpmapPayload (bytes "VP8") (unlines (webLines c.live w.vPayload .VIDEO)) =
          some w.vPayload := by
        rw [← c.text_description, Description.rtpmapPayload_text _ (by decide),
          c.mappings_description]
        exact congrArg some (atoi_ofInt hlow hhigh)
      simp only [haudio, c.scanVideoSSRC_webLines, hpayload]
      rfl
  · rw [htext, c.credentials_webLines]

/-- Credentials as ICE makes them. -/
def browserCredentials : Credentials where
  ufrag := bytes "F7gI"
  pwd := bytes "x9cml/YzichV2+XlhiMu8g"
  isUfrag := ⟨by decide, by decide, by decide⟩
  isPwd := ⟨by decide, by decide, by decide⟩

theorem handleSdpFromWeb_browserCredentials :
    (-2 ^ 31 ≤ WebAgent.fresh.vPayload ∧ WebAgent.fresh.vPayload < 2 ^ 31) ∧
    WebAgent.fresh.handleSdpFromWeb
        (createSdpToWeb (bytes "F7gI") (bytes "x9cml/YzichV2+XlhiMu8g") .VIDEO WebAgent.fresh) =
      (recovered 112 WebAgent.fresh .VIDEO, .VIDEO, true) := by
  obtain ⟨-, -, -, -, hread, -⟩ := handleSdpFromWeb_createSdpToWeb browserCredentials .VIDEO
    WebAgent.fresh WebAgent.fresh (by decide) (by decide)
  exact ⟨⟨by decide, by decide⟩, hread⟩

end MediaGateway.Sdp
