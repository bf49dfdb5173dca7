import MediaGateway.ImsAgent
import MediaGateway.Lib.Search
import MediaGateway.WebAgent

/-!
# The scans stay inside the text

`std::string::substr` and `replace` throw when the start lies beyond the end of the
string.  Here each handler and each rewriting loop is written out once more with
these calls checked: a start out of range is an error, and so is a loop that uses
up its fuel.

The theorems say that neither error occurs, by equating the checked version with
the plain one.  For the scans this needs nothing of the text.  The rewriting loops
search on from what they have inserted, so there the inserted value must not contain
the label; the measure is the text behind the position.
-/

namespace MediaGateway

open Lib Bytes

/-- How a checked run fails. -/
inductive Stop
  | outOfRange
  | unfinished
  deriving DecidableEq, Repr

namespace Checked

/-! ## The string operations -/

/-- `substr(pos, n)`. -/
def substr (s : Bytes) (pos n : Nat) : Except Stop Bytes :=
  if pos ≤ s.length then .ok (s.substr pos n) else .error .outOfRange

/-- `substr(pos, limit - pos)`. -/
def substrTo (s : Bytes) (pos : Nat) (limit : Option Nat) : Except Stop Bytes :=
  if pos ≤ s.length then .ok (s.substrTo pos limit) else .error .outOfRange

/-- `replace(pos, n, t)`. -/
def replace (s : Bytes) (pos n : Nat) (t : Bytes) : Except Stop Bytes :=
  if pos ≤ s.length then .ok (s.replace pos n t) else .error .outOfRange

theorem substr_eq {s : Bytes} {pos : Nat} (h : pos ≤ s.length) (n : Nat) :
    substr s pos n = .ok (s.substr pos n) := if_pos h

theorem substrTo_eq {s : Bytes} {pos : Nat} (h : pos ≤ s.length) (limit : Option Nat) :
    substrTo s pos limit = .ok (s.substrTo pos limit) := if_pos h

theorem replace_eq {s : Bytes} {pos : Nat} (h : pos ≤ s.length) (n : Nat) (t : Bytes) :
    replace s pos n t = .ok (s.replace pos n t) := if_pos h

/-- The position behind what was found, or `0`. -/
theorem next_le {s pat : Bytes} {pos : Nat} (hpat : pat ≠ []) :
    next (find s pat pos) ≤ s.length := by
  have hlen := List.length_pos_of_ne_nil hpat
  cases hfind : find s pat pos with
  | none => exact Nat.zero_le _
  | some p =>
    have hle := find_le hfind
    simp only [next]
    omega

/-! ## The scans -/

def lastFormat (sdp : Bytes) (beginPos : Nat) : Except Stop Bool := do
  let last ← substrTo sdp beginPos (find sdp (bytes "\r\n") beginPos)
  return last == bytes "8"

/-- `Sdp.audioScan`. -/
def audioScan (sdp : Bytes) (endPos : Option Nat) : Nat → Nat → Except Stop Bool
  | 0, _ => .error .unfinished
  | fuel + 1, beginPos =>
    if before beginPos endPos then
      match find sdp (bytes " ") beginPos with
      | none => lastFormat sdp beginPos
      | some p2 =>
        if after p2 endPos then lastFormat sdp beginPos
        else do
          let format ← substr sdp beginPos (p2 - beginPos)
          if format == bytes "8" then return true else audioScan sdp endPos fuel (p2 + 1)
    else
      .ok true

/-- `Sdp.audioSupport`. -/
def audioSupport (sdp : Bytes) : Except Stop Bool :=
  match find sdp (bytes "m=audio ") 0 with
  | none => .ok false
  | some p =>
    let beginPos := p + (bytes "m=audio ").length
    let beginPos := next (find sdp (bytes " ") beginPos)
    let beginPos := next (find sdp (bytes " ") beginPos)
    audioScan sdp (find sdp (bytes "\n") beginPos) (sdp.length + 1) beginPos

/-- `Sdp.rtpmapScan`. -/
def rtpmapScan (encoding sdp : Bytes) : Nat → Nat → Except Stop (Option Int)
  | 0, _ => .error .unfinished
  | fuel + 1, pos =>
    match find sdp (bytes "a=rtpmap:") pos with
    | none => .ok none
    | some p => do
      let beginPos := p + (bytes "a=rtpmap:").length
      let endPos := find sdp (bytes " ") beginPos
      let vStr ← substrTo sdp beginPos endPos
      let name ← substr sdp (next endPos) encoding.length
      if name == encoding then return some (atoi vStr)
      else rtpmapScan encoding sdp fuel beginPos

/-- `Sdp.rtpmapPayload`. -/
def rtpmapPayload (encoding sdp : Bytes) : Except Stop (Option Int) :=
  rtpmapScan encoding sdp (sdp.length + 1) 0

/-- `Sdp.param`. -/
def param (sdp label : Bytes) : Except Stop (Option Bytes) :=
  match find sdp label 0 with
  | none => .ok none
  | some p =>
    let beginPos := p + label.length
    match find sdp PARAM_END beginPos with
    | none => .ok none
    | some endPos => some <$> substr sdp beginPos (endPos - beginPos)

theorem lastFormat_eq {sdp : Bytes} {pos : Nat} (h : pos ≤ sdp.length) :
    lastFormat sdp pos = .ok (Sdp.lastFormat sdp pos) := by
  rw [lastFormat, substrTo_eq h]
  rfl

theorem audioScan_eq {sdp : Bytes} {endPos : Option Nat} (fuel : Nat) {pos : Nat}
    (hpos : pos ≤ sdp.length) (hfuel : sdp.length ≤ pos + fuel) :
    audioScan sdp endPos (fuel + 1) pos = .ok (Sdp.audioScan sdp endPos (fuel + 1) pos) := by
  induction fuel generalizing pos with
  | zero =>
    rw [audioScan, Sdp.audioScan, Sdp.find_space_eq_none (by omega)]
    simp only [lastFormat_eq hpos]
    split <;> rfl
  | succ fuel ih =>
    rw [audioScan, Sdp.audioScan]
    split
    · cases hfind : find sdp (bytes " ") pos with
      | none => exact lastFormat_eq hpos
      | some p =>
        have hle := find_le hfind
        have hlen : (bytes " ").length = 1 := by decide
        simp only [lastFormat_eq hpos, substr_eq hpos, bind, Except.bind,
          ih (show p + 1 ≤ sdp.length by omega) (show sdp.length ≤ p + 1 + fuel by omega)]
        split
        · rfl
        · split <;> rfl
    · rfl

theorem audioSupport_eq (sdp : Bytes) : audioSupport sdp = .ok (Sdp.audioSupport sdp) := by
  rw [audioSupport, Sdp.audioSupport]
  cases find sdp (bytes "m=audio ") 0 with
  | none => rfl
  | some p => exact audioScan_eq _ (next_le (by decide)) (Nat.le_add_left _ _)

theorem rtpmapScan_eq {encoding sdp : Bytes} (fuel : Nat) {pos : Nat}
    (hfuel : sdp.length ≤ pos + fuel) :
    rtpmapScan encoding sdp (fuel + 1) pos = .ok (Sdp.rtpmapScan encoding sdp (fuel + 1) pos) := by
  have hlen : (bytes "a=rtpmap:").length = 9 := by decide
  induction fuel generalizing pos with
  | zero =>
    rw [rtpmapScan, Sdp.rtpmapScan]
    cases hfind : find sdp (bytes "a=rtpmap:") pos with
    | none => rfl
    | some p =>
      have hle := find_le hfind
      omega
  | succ fuel ih =>
    rw [rtpmapScan, Sdp.rtpmapScan]
    cases hfind : find sdp (bytes "a=rtpmap:") pos with
    | none => rfl
    | some p =>
      have hle := find_le hfind
      have hbegin : p + (bytes "a=rtpmap:").length ≤ sdp.length := by omega
      have hspace : next (find sdp (bytes " ") (p + (bytes "a=rtpmap:").length)) ≤ sdp.length :=
        next_le (by decide)
      simp only [substrTo_eq hbegin, substr_eq hspace, bind, Except.bind,
        ih (show sdp.length ≤ p + (bytes "a=rtpmap:").length + fuel by omega)]
      split <;> rfl

theorem rtpmapPayload_eq (encoding sdp : Bytes) :
    rtpmapPayload encoding sdp = .ok (Sdp.rtpmapPayload encoding sdp) :=
  rtpmapScan_eq _ (Nat.le_add_left _ _)

theorem param_eq (sdp label : Bytes) : param sdp label = .ok (Sdp.param sdp label) := by
  rw [param, Sdp.param]
  cases hfind : find sdp label 0 with
  | none => rfl
  | some p =>
    have hle := find_le hfind
    simp only [substr_eq hle.2]
    cases find sdp PARAM_END (p + label.length) <;> rfl

/-! ## The handlers -/

/-- `getCryptoInfo`. -/
def getCryptoInfo (sdp : Bytes) : Except Stop Bytes := do
  let key ← param sdp CRYPTO_80
  return key.getD (bytes "NULL")

def scanCrypto (sdp old : Bytes) : Except Stop Bytes :=
  if contains sdp (bytes "crypto") then getCryptoInfo sdp else .ok old

/-- `getIceInfo`, and `setCredentials` with what it finds. -/
def credentials (sdp : Bytes) : Except Stop (List Action) := do
  let ufrag := (← param sdp ICE_UFRAG).getD []
  let pwd := (← param sdp ICE_PWD).getD []
  return if ufrag.length ≠ 0 ∧ pwd.length ≠ 0 then [.setCredentials ufrag pwd] else []

def scanVideoSSRC (sdp old : Bytes) : Except Stop Bytes :=
  match find sdp (bytes "m=video") 0 with
  | none => .ok old
  | some p =>
    match find sdp (bytes "a=ssrc:") p with
    | none => .ok old
    | some q =>
      let p2 := q + (bytes "a=ssrc:").length
      match find sdp (bytes " ") p2 with
      | none => .ok old
      | some endPos => substr sdp p2 (endPos - p2)

/-- `WebAgent::handleSdpFromWeb`: the agent, the session type and the result, and the
credentials that were set. -/
def handleSdpFromWeb (sdp : Bytes) (w : WebAgent) :
    Except Stop ((WebAgent × SessionType × Bool) × List Action) := do
  let stype := Sdp.sessionType sdp
  let cryptoFromWeb ← scanCrypto sdp w.cryptoFromWeb
  let set ← credentials sdp
  let videoSSRCFromWeb ← scanVideoSSRC sdp w.videoSSRCFromWeb
  let audio ← audioSupport sdp
  let w := { w with cryptoFromWeb, videoSSRCFromWeb }
  match stype with
  | SessionType.AUDIO => return ((w, stype, audio), set)
  | .VIDEO =>
    let payload ← rtpmapPayload (bytes "VP8") sdp
    return (({ w with vPayload := payload.getD w.vPayload }, stype, audio && payload.isSome), set)

/-- One port of `getRemoteIpAndPort`. -/
def sectionPort (sdp label : Bytes) (old : UInt16) : Except Stop UInt16 :=
  match find sdp label 0 with
  | none => .ok old
  | some p =>
    let beginPos := p + label.length
    match find sdp (bytes " ") beginPos with
    | none => .ok old
    | some endPos => do
      let tmp ← substr sdp beginPos (endPos - beginPos)
      return ImsAgent.toPort (atoi tmp)

/-- `ImsAgent::getRemoteIpAndPort`. -/
def getRemoteIpAndPort (sdp : Bytes) (aport vport : UInt16) :
    Except Stop (Bytes × UInt16 × UInt16) := do
  let ip ← param sdp (bytes "c=IN IP4 ")
  let aport ← sectionPort sdp (bytes "m=audio ") aport
  let vport ← sectionPort sdp (bytes "m=video ") vport
  return (ip.getD [], aport, vport)

/-- `ImsAgent::handleSdpFromIMS`. -/
def handleSdpFromIMS (codec : SIPCodec) (aport vport : UInt16) (sdp : Bytes) (a : ImsAgent) :
    Except Stop (ImsAgent × SessionType × Bool) := do
  let (ip, aport, vport) ← getRemoteIpAndPort sdp aport vport
  let a := { a with videoDestination := (ip, vport), audioDestination := (ip, aport) }
  let stype := Sdp.sessionType sdp
  let audio ← audioSupport sdp
  match stype with
  | SessionType.AUDIO => return (a, stype, audio)
  | .VIDEO =>
    if codec.H264 then
      let payload ← rtpmapPayload (bytes "H264") sdp
      return ({ a with vPayload := payload.getD a.vPayload }, stype, audio)
    else if codec.H263 then
      let payload ← rtpmapPayload (bytes "H263") sdp
      return ({ a with vPayload := payload.getD a.vPayload }, stype, audio)
    else
      return (a, stype, audio)

theorem scanCrypto_eq (sdp old : Bytes) :
    scanCrypto sdp old = .ok (WebAgent.scanCrypto sdp old) := by
  rw [scanCrypto, WebAgent.scanCrypto, getCryptoInfo, param_eq]
  split <;> rfl

theorem credentials_eq (sdp : Bytes) : credentials sdp = .ok (WebAgent.credentials sdp) := by
  rw [credentials, param_eq, param_eq]
  rfl

theorem scanVideoSSRC_eq (sdp old : Bytes) :
    scanVideoSSRC sdp old = .ok (WebAgent.scanVideoSSRC sdp old) := by
  rw [scanVideoSSRC, WebAgent.scanVideoSSRC]
  cases find sdp (bytes "m=video") 0 with
  | none => rfl
  | some p =>
    simp only
    cases hssrc : find sdp (bytes "a=ssrc:") p with
    | none => rfl
    | some q =>
      have hle := find_le hssrc
      simp only [substr_eq hle.2]
      cases find sdp (bytes " ") (q + (bytes "a=ssrc:").length) <;> rfl

theorem sectionPort_eq (sdp label : Bytes) (old : UInt16) :
    sectionPort sdp label old = .ok (ImsAgent.sectionPort sdp label old) := by
  rw [sectionPort, ImsAgent.sectionPort]
  cases hlabel : find sdp label 0 with
  | none => rfl
  | some p =>
    have hle := find_le hlabel
    simp only [substr_eq hle.2]
    cases find sdp (bytes " ") (p + label.length) <;> rfl

theorem getRemoteIpAndPort_eq (sdp : Bytes) (aport vport : UInt16) :
    getRemoteIpAndPort sdp aport vport = .ok (ImsAgent.getRemoteIpAndPort sdp aport vport) := by
  rw [getRemoteIpAndPort, param_eq, sectionPort_eq, sectionPort_eq]
  rfl

theorem handleSdpFromWeb_eq (sdp : Bytes) (w : WebAgent) :
    handleSdpFromWeb sdp w = .ok (w.handleSdpFromWeb sdp, WebAgent.credentials sdp) := by
  rw [handleSdpFromWeb, scanCrypto_eq, credentials_eq, scanVideoSSRC_eq, audioSupport_eq,
    rtpmapPayload_eq, WebAgent.handleSdpFromWeb, WebAgent.supportFlag, WebAgent.scanPayload]
  cases Sdp.sessionType sdp <;> rfl

theorem handleSdpFromIMS_eq (codec : SIPCodec) (aport vport : UInt16) (sdp : Bytes)
    (a : ImsAgent) :
    handleSdpFromIMS codec aport vport sdp a = .ok (a.handleSdpFromIMS codec aport vport sdp) := by
  rw [handleSdpFromIMS, getRemoteIpAndPort_eq, audioSupport_eq, rtpmapPayload_eq, rtpmapPayload_eq,
    ImsAgent.handleSdpFromIMS, ImsAgent.scanPayload]
  cases Sdp.sessionType sdp with
  | AUDIO => rfl
  | VIDEO =>
    cases codec.H264 with
    | true => rfl
    | false => cases codec.H263 <;> rfl

/-! ## The rewriting loops -/

/-- The loop of `WebAgent::replaceCrypto`. -/
def replaceCryptoLoop (crypto : Bytes) : Nat → Option Nat → Bytes → Except Stop Bytes
  | 0, _, _ => .error .unfinished
  | _ + 1, none, sdp => .ok sdp
  | fuel + 1, some p, sdp =>
    let beginPos := p + CRYPTO_80.length
    match find sdp PARAM_END beginPos with
    | none => .ok sdp
    | some endPos => do
      let sdp ← replace sdp beginPos (endPos - beginPos) crypto
      replaceCryptoLoop crypto fuel (find sdp CRYPTO_80 endPos) sdp

def replaceCrypto (sdp crypto : Bytes) : Except Stop Bytes :=
  replaceCryptoLoop crypto (sdp.length + 1) (find sdp CRYPTO_80 0) sdp

/-- `WebAgent.replaceParam`. -/
def replaceParam (label value : Bytes) (pos : Option Nat) (sdp : Bytes) :
    Except Stop (Option Nat × Bytes) :=
  match pos with
  | none => .ok (none, sdp)
  | some p =>
    let beginPos := p + label.length
    match find sdp PARAM_END beginPos with
    | none => .ok (some beginPos, sdp)
    | some endPos => do
      let sdp ← replace sdp beginPos (endPos - beginPos) value
      return (some beginPos, sdp)

/-- The loop of `WebAgent::replaceUfragPwd`. -/
def replaceUfragPwdLoop (ufrag pwd : Bytes) : Nat → Option Nat → Bytes → Except Stop Bytes
  | 0, _, _ => .error .unfinished
  | _ + 1, none, sdp => .ok sdp
  | fuel + 1, some p, sdp => do
    let (pos, sdp) ← replaceParam ICE_UFRAG ufrag (some p) sdp
    let (pos, sdp) ← replaceParam ICE_PWD pwd (WebAgent.findAt sdp ICE_PWD pos) sdp
    replaceUfragPwdLoop ufrag pwd fuel (WebAgent.findAt sdp ICE_UFRAG pos) sdp

def replaceUfragPwd (ufrag pwd sdp : Bytes) : Except Stop Bytes :=
  replaceUfragPwdLoop ufrag pwd (sdp.length + 1) (find sdp ICE_UFRAG 0) sdp

/-- A position where a label stands. -/
def At (label sdp : Bytes) (pos : Option Nat) : Prop :=
  ∀ p, pos = some p → p + label.length ≤ sdp.length

theorem at_find (label sdp : Bytes) (pos : Nat) : At label sdp (find sdp label pos) :=
  fun _ h => (find_le h).2

theorem at_findAt (label sdp : Bytes) (pos : Option Nat) :
    At label sdp (WebAgent.findAt sdp label pos) := by
  cases pos with
  | none =>
    intro p h
    cases h
  | some pos => exact at_find label sdp pos

/-- A label that is found behind a replaced value is found behind the CRLF, so there is
less text behind it than there was. -/
theorem find_replaced {s value label : Bytes} {pos e start q : Nat} (hlabel : label ≠ [])
    (hin : InLine label) (hvalue : ¬ label <:+: value) (he : find s PARAM_END pos = some e)
    (hstart : pos ≤ start ∧ start ≤ e)
    (hq : find (s.replace pos (e - pos) value) label start = some q) :
    (s.replace pos (e - pos) value).length + pos < s.length + q := by
  obtain ⟨x, old, y, hs, hx, hold, hreplace⟩ := replace_line he value
  have hlen : s.length = x.length + old.length + 2 + y.length := by
    rw [hs]
    simp only [List.length_append, List.length_cons, List.length_nil]
    omega
  rw [hreplace] at hq ⊢
  have hnew : (x ++ (value ++ ([13, 10] ++ y))).length =
      x.length + value.length + 2 + y.length := by
    simp only [List.length_append, List.length_cons, List.length_nil]
    omega
  by_cases hn : start - pos ≤ value.length
  · have hbehind := le_of_find_in_line hlabel hin hvalue hn x y
      (q := q) (by rwa [hx, Nat.add_sub_cancel' hstart.1])
    omega
  · have hle := find_le hq
    omega

/-- The crypto loop, with enough fuel for the text behind the position. -/
theorem replaceCryptoLoop_eq {crypto : Bytes} (hcrypto : ¬ CRYPTO_80 <:+: crypto) (fuel : Nat)
    {pos : Option Nat} {sdp : Bytes} (hat : At CRYPTO_80 sdp pos)
    (hfuel : ∀ p, pos = some p → sdp.length ≤ p + fuel) :
    replaceCryptoLoop crypto (fuel + 1) pos sdp =
      .ok (WebAgent.replaceCryptoLoop crypto (fuel + 1) pos sdp) := by
  have hlen : 0 < CRYPTO_80.length := by decide
  induction fuel generalizing pos sdp with
  | zero =>
    cases pos with
    | none => rfl
    | some p =>
      have hp := hat p rfl
      have hle := hfuel p rfl
      omega
  | succ fuel ih =>
    cases pos with
    | none => rfl
    | some p =>
      have hp := hat p rfl
      have hle := hfuel p rfl
      rw [replaceCryptoLoop, WebAgent.replaceCryptoLoop]
      cases he : find sdp PARAM_END (p + CRYPTO_80.length) with
      | none => rfl
      | some e =>
        simp only [replace_eq hp, bind, Except.bind]
        refine ih (at_find _ _ _) fun q hq => ?_
        have hend := find_le he
        have hless := find_replaced (by decide) (by decide) hcrypto he ⟨hend.1, Nat.le_refl e⟩ hq
        omega

theorem replaceCrypto_eq {crypto : Bytes} (hcrypto : ¬ CRYPTO_80 <:+: crypto) (sdp : Bytes) :
    replaceCrypto sdp crypto = .ok (WebAgent.replaceCrypto sdp crypto) :=
  replaceCryptoLoop_eq hcrypto _ (at_find _ _ _) fun _ _ => Nat.le_add_left _ _

/-- One replacement of a round: it stays in range, and the next label is found in less
text. -/
theorem replaceParam_eq {label value : Bytes} (hpos : 0 < label.length) {sdp : Bytes}
    {pos : Option Nat} (hat : At label sdp pos) :
    replaceParam label value pos sdp = .ok (WebAgent.replaceParam label value pos sdp) ∧
    ∀ {other : Bytes}, other ≠ [] → InLine other → ¬ other <:+: value → ∀ p, pos = some p →
      ∀ q, WebAgent.findAt (WebAgent.replaceParam label value pos sdp).2 other
          (WebAgent.replaceParam label value pos sdp).1 = some q →
        (WebAgent.replaceParam label value pos sdp).2.length + p < sdp.length + q := by
  cases pos with
  | none => exact ⟨rfl, fun _ _ _ p hp => absurd hp (by simp)⟩
  | some p =>
    have hp := hat p rfl
    rw [replaceParam, WebAgent.replaceParam]
    cases he : find sdp PARAM_END (p + label.length) with
    | none =>
      refine ⟨rfl, ?_⟩
      intro other _ _ _ p' hp' q hq
      have hle := find_le hq
      obtain rfl := Option.some.inj hp'
      show sdp.length + p < sdp.length + q
      omega
    | some e =>
      refine ⟨?_, ?_⟩
      · simp only [replace_eq hp]
        rfl
      · intro other hne hin hvalue p' hp' q hq
        have hend := find_le he
        have hless := find_replaced hne hin hvalue he ⟨Nat.le_refl _, hend.1⟩ hq
        obtain rfl := Option.some.inj hp'
        show (sdp.replace _ _ value).length + p < sdp.length + q
        omega

/-- The loop of the credentials. -/
theorem replaceUfragPwdLoop_eq {ufrag pwd : Bytes} (hufrag : ¬ ICE_PWD <:+: ufrag)
    (hpwd : ¬ ICE_UFRAG <:+: pwd) (fuel : Nat) {pos : Option Nat} {sdp : Bytes}
    (hat : At ICE_UFRAG sdp pos) (hfuel : ∀ p, pos = some p → sdp.length ≤ p + fuel) :
    replaceUfragPwdLoop ufrag pwd (fuel + 1) pos sdp =
      .ok (WebAgent.replaceUfragPwdLoop ufrag pwd (fuel + 1) pos sdp) := by
  have hlen : 0 < ICE_UFRAG.length := by decide
  induction fuel generalizing pos sdp with
  | zero =>
    cases pos with
    | none => rfl
    | some p =>
      have hp := hat p rfl
      have hle := hfuel p rfl
      omega
  | succ fuel ih =>
    cases pos with
    | none => rfl
    | some p =>
      have hle := hfuel p rfl
      have hatPwd := at_findAt ICE_PWD (WebAgent.replaceParam ICE_UFRAG ufrag (some p) sdp).2
        (WebAgent.replaceParam ICE_UFRAG ufrag (some p) sdp).1
      obtain ⟨hfirst, hfirstLess⟩ := @replaceParam_eq ICE_UFRAG ufrag hlen sdp (some p) hat
      obtain ⟨hsecond, hsecondLess⟩ := @replaceParam_eq ICE_PWD pwd (by decide) _ _ hatPwd
      rw [replaceUfragPwdLoop, WebAgent.replaceUfragPwdLoop, hfirst]
      simp only [bind, Except.bind, hsecond]
      refine ih (at_findAt _ _ _) fun r hr => ?_
      -- the label of the password was found, or the search for the next one ends
      cases hq : WebAgent.findAt (WebAgent.replaceParam ICE_UFRAG ufrag (some p) sdp).2 ICE_PWD
          (WebAgent.replaceParam ICE_UFRAG ufrag (some p) sdp).1 with
      | none =>
        rw [hq] at hr
        cases hr
      | some q =>
        have hless := hfirstLess (by decide) (by decide) hufrag p rfl q hq
        have hlessAgain := hsecondLess (by decide) (by decide) hpwd q hq r hr
        rw [hq] at hlessAgain
        omega

theorem replaceUfragPwd_eq {ufrag pwd : Bytes} (hufrag : ¬ ICE_PWD <:+: ufrag)
    (hpwd : ¬ ICE_UFRAG <:+: pwd) (sdp : Bytes) :
    replaceUfragPwd ufrag pwd sdp = .ok (WebAgent.replaceUfragPwd ufrag pwd sdp) :=
  replaceUfragPwdLoop_eq hufrag hpwd _ (at_find _ _ _) fun _ _ => Nat.le_add_left _ _

/-! ## Alphabets -/

/-- The characters of ICE credentials. -/
def iceChar (c : UInt8) : Bool :=
  (65 ≤ c && c ≤ 90) || (97 ≤ c && c ≤ 122) || isDigit c || c == 43 || c == 47

/-- The characters of a base64 text: those and the padding. -/
def base64Char (c : UInt8) : Bool := iceChar c || c == 61

/-- Each label has a colon, which no value over one of the alphabets has. -/
theorem not_infix_of_alphabet {label value : Bytes} (hlabel : 58 ∈ label)
    (hvalue : ∀ c ∈ value, base64Char c = true) : ¬ label <:+: value := fun h =>
  absurd (hvalue 58 (h.subset hlabel)) (by decide)

theorem base64Char_of_iceChar {value : Bytes} (h : ∀ c ∈ value, iceChar c = true) :
    ∀ c ∈ value, base64Char c = true := by
  intro c hc
  rw [base64Char, h c hc, Bool.true_or]

/-- The scans and the rewriting loops end on every text, without a position beyond its
end. -/
theorem sdp_inBounds :
    (∀ (sdp : Bytes) (w : WebAgent),
      handleSdpFromWeb sdp w = .ok (w.handleSdpFromWeb sdp, WebAgent.credentials sdp)) ∧
    (∀ (codec : SIPCodec) (aport vport : UInt16) (sdp : Bytes) (a : ImsAgent),
      handleSdpFromIMS codec aport vport sdp a =
        .ok (a.handleSdpFromIMS codec aport vport sdp)) ∧
    (∀ ufrag pwd sdp : Bytes, (∀ c ∈ ufrag, iceChar c = true) → (∀ c ∈ pwd, iceChar c = true) →
      replaceUfragPwd ufrag pwd sdp = .ok (WebAgent.replaceUfragPwd ufrag pwd sdp)) ∧
    (∀ sdp crypto : Bytes, (∀ c ∈ crypto, base64Char c = true) →
      replaceCrypto sdp crypto = .ok (WebAgent.replaceCrypto sdp crypto)) := by
  refine ⟨handleSdpFromWeb_eq, handleSdpFromIMS_eq, ?_, ?_⟩
  · intro ufrag pwd sdp hufrag hpwd
    exact replaceUfragPwd_eq
      (not_infix_of_alphabet (by decide) (base64Char_of_iceChar hufrag))
      (not_infix_of_alphabet (by decide) (base64Char_of_iceChar hpwd)) sdp
  · intro sdp crypto hcrypto
    exact replaceCrypto_eq (not_infix_of_alphabet (by decide) hcrypto) sdp

theorem sdp_inBounds_rewrites :
    replaceUfragPwd (bytes "a+") (bytes "/9") (bytes "a=ice-ufrag:\r\na=ice-pwd:x") =
        .ok (bytes "a=ice-ufrag:a+\r\na=ice-pwd:x") ∧
      replaceCrypto (CRYPTO_80 ++ bytes "k\r\n" ++ CRYPTO_80) (bytes "Zm9v=") =
        .ok (CRYPTO_80 ++ bytes "Zm9v=\r\n" ++ CRYPTO_80) := by
  obtain ⟨-, -, hice, hcrypto⟩ := sdp_inBounds
  rw [hice _ _ _ (by decide) (by decide), hcrypto _ _ (by decide)]
  exact ⟨by decide +kernel, by decide +kernel⟩

end Checked

end MediaGateway
