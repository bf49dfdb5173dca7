import MediaGateway.Session.History

/-!
# The SRTP keys

`doTailingJobs` hands `cryptoFromWeb` to `RTPConverter::init`, which decodes it
and copies it.  What `cryptoFromWeb` holds then depends on every web description
the session has read: one that contains the word `crypto` replaces it, by the
text `NULL` when the line for AES_CM_128_HMAC_SHA1_80 is missing, and one without
the word leaves it alone.

`KeysRight` says that the keys `init` copied are the ones the accepted web
description stands for.  `ready` is set by the last statement of `init`, and also
by a decryption key that is long enough to run over it; behind the object nothing
is known.  `ready_with_keys_iff` is the condition on the messages under which
every `init` that sets `ready`, one way or the other, has the right keys.
-/

namespace MediaGateway

open Lib MediaSession

variable {cfg : Config} {self : Nat} {hist : List Signal}

/-! ## What `init` is given -/

/-- The result of `RTPConverter::init`, for an action that runs it. -/
def Action.initResult? : Action → Option RTPConverter.InitResult
  | .initConverter result => some result
  | _ => none

/-- The results of `RTPConverter::init` among the actions. -/
def initResults (acts : List Action) : List RTPConverter.InitResult :=
  acts.filterMap Action.initResult?

theorem initResults_append (xs ys : List Action) :
    initResults (xs ++ ys) = initResults xs ++ initResults ys :=
  List.filterMap_append ..

theorem initResults_init (result : RTPConverter.InitResult) :
    initResults [.doTailingJobs, .initConverter result] = [result] :=
  rfl

theorem initResults_reply (h : Handler) (env : Env) (sMsg : SessionMessage)
    (s : MediaSession) : initResults (reply cfg h env sMsg s) = [] := by
  unfold initResults
  rw [List.filterMap_eq_nil_iff]
  intro a ha
  have hsig := isSignalling_of_mem_reply ha
  cases a with
  | initConverter result => cases hsig
  | _ => rfl

/-- The decoded key that the session hands to `init` after the history. -/
def decodedKey (hist : List Signal) : Bytes := Base64.base64Decode (cryptoText hist)

/-- A key that sets `ready` when it is copied to `masterKey`, or that runs past
the end of the object. -/
def Reaches (key : Bytes) : Prop :=
  (key[READY]?).any (· != 0) = true ∨ OBJECT_END < key.length

instance (key : Bytes) : Decidable (Reaches key) :=
  inferInstanceAs (Decidable (_ ∨ _))

/-- The result of `init` at an accepted answer, with the key of the history. -/
def answerResult (env : Env) (hist : List Signal) : RTPConverter.InitResult :=
  if env.encryptStatus ≠ .ok then
    .encryptFailed env.encryptStatus (Base64.base64Decode WebAgent.cryptoToWeb)
  else if env.decryptStatus ≠ .ok then
    .decryptFailed env.decryptStatus (Base64.base64Decode WebAgent.cryptoToWeb) (decodedKey hist)
  else
    .setReady (Base64.base64Decode WebAgent.cryptoToWeb) (decodedKey hist)

/-- `init` runs once for each accepted answer. -/
theorem initResults_step {st : MediaSession × Timer} (h : Tracks cfg hist st.1) (e : Signal) :
    initResults ((session cfg self).step st e).2 =
      if startsMedia e.handler e.message then [answerResult e.env (hist ++ [e])] else [] := by
  have hread := tracks_read h e
  cases hm : startsMedia e.handler e.message with
  | false => simp [session, handle_of_not_startsMedia hm, initResults_reply]
  | true =>
    have hcrypto := hread.crypto
    simp only [session, handle_of_startsMedia hm, initResults_append, initResults_reply,
      List.nil_append, doTailingJobs, WebAgent.doTailingJobs, hcrypto, initResults_init,
      RTPConverter.init_result]
    rfl

/-! ## The keys of the accepted description -/

/-- The key text of an SDP: what stands behind
`a=crypto:1 AES_CM_128_HMAC_SHA1_80 inline:`. -/
def keyText (sdp : Bytes) : Option Bytes := Sdp.behind sdp CRYPTO_80

/-- Both copied keys fill their arrays exactly, and the decryption key is the
decoding of the key text of the last accepted web description. -/
def KeysRight (hist : List Signal) (r : RTPConverter.InitResult) : Prop :=
  r.enc.length = MASTER_KEY_LEN ∧ ∃ dec ∈ r.dec?, dec.length = MASTER_KEY_LEN ∧
    ∃ d text, lastOf Signal.accepted hist = some d ∧ keyText d.sdp = some text ∧
      dec = Base64.base64Decode text

theorem KeysRight.length {r : RTPConverter.InitResult} (h : KeysRight hist r) :
    r.dec?.map List.length = some MASTER_KEY_LEN := by
  obtain ⟨-, dec, hmem, hlen, -⟩ := h
  rw [Option.mem_def.1 hmem, Option.map_some, hlen]

/-- The last accepted web description has a key text of 30 bytes, and the last
web description that contains the word `crypto` has, on a line that is ended,
a key that decodes to the same bytes. -/
def CarriesKey (hist : List Signal) : Prop :=
  ∃ d text c line, lastOf Signal.accepted hist = some d ∧ keyText d.sdp = some text ∧
    (Base64.base64Decode text).length = MASTER_KEY_LEN ∧
    lastCrypto hist = some c ∧ Sdp.param c.sdp CRYPTO_80 = some line ∧
    Base64.base64Decode line = Base64.base64Decode text

/-- Without a line for AES_CM_128_HMAC_SHA1_80 the key is empty or `NULL`, and
neither decodes to 30 bytes. -/
theorem decodedKey_length {hist : List Signal} (h : (decodedKey hist).length = MASTER_KEY_LEN) :
    ∃ c line, lastCrypto hist = some c ∧ Sdp.param c.sdp CRYPTO_80 = some line ∧
      decodedKey hist = Base64.base64Decode line := by
  unfold decodedKey cryptoText at *
  cases hc : lastCrypto hist with
  | none =>
    rw [hc] at h
    exact absurd h (by decide)
  | some c =>
    simp only [hc, WebAgent.getCryptoInfo] at h ⊢
    cases hline : Sdp.param c.sdp CRYPTO_80 with
    | none =>
      rw [hline] at h
      exact absurd h (by decide)
    | some line => exact ⟨c, line, rfl, hline, rfl⟩

/-- The key that the descriptions carry is the one `init` is given. -/
theorem decodedKey_of_carries {c : Signal} {line text : Bytes} (hc : lastCrypto hist = some c)
    (hline : Sdp.param c.sdp CRYPTO_80 = some line)
    (hsame : Base64.base64Decode line = Base64.base64Decode text) :
    decodedKey hist = Base64.base64Decode text := by
  simp only [decodedKey, cryptoText, hc, WebAgent.getCryptoInfo, hline, Option.getD_some, hsame]

/-- A key that reaches `ready` is too long to be a right one. -/
theorem CarriesKey.not_reaches (h : CarriesKey hist) : ¬ Reaches (decodedKey hist) := by
  obtain ⟨d, text, c, line, -, -, hlen, hc, hline, hsame⟩ := h
  have hkey : (decodedKey hist).length = MASTER_KEY_LEN := by
    rw [decodedKey_of_carries hc hline hsame, hlen]
  have hend : MASTER_KEY_LEN ≤ READY ∧ READY ≤ OBJECT_END := by decide
  intro hreaches
  rcases hreaches with hset | hpast
  · rw [List.getElem?_eq_none (by omega)] at hset
    cases hset
  · omega

/-- With the key of the history the keys are right when the descriptions carry
it. -/
theorem keysRight_iff {r : RTPConverter.InitResult}
    (henc : r.enc = Base64.base64Decode WebAgent.cryptoToWeb)
    (hdec : r.dec? = some (decodedKey hist)) : KeysRight hist r ↔ CarriesKey hist := by
  have hlenEnc : r.enc.length = MASTER_KEY_LEN := by
    rw [henc]
    decide
  constructor
  · intro hex
    rcases hex with ⟨-, dec, hmem, hlen, d, text, hd, htext, hkey⟩
    rw [hdec, Option.mem_some] at hmem
    subst hmem
    obtain ⟨c, line, hc, hline, hcopied⟩ := decodedKey_length hlen
    exact ⟨d, text, c, line, hd, htext, by rw [← hkey, hlen], hc, hline,
      by rw [← hcopied, hkey]⟩
  · intro hex
    rcases hex with ⟨d, text, c, line, hd, htext, hlen, hc, hline, hsame⟩
    have hkey := decodedKey_of_carries hc hline hsame
    exact ⟨hlenEnc, decodedKey hist, hdec, by rw [hkey, hlen], d, text, hd, htext, hkey⟩

/-! ## Ready with the right keys -/

/-- The encryption key fits its array. -/
theorem enc_fits :
    (Base64.base64Decode WebAgent.cryptoToWeb)[READY - MASEN]? = none ∧
      ¬ OBJECT_END < MASEN + (Base64.base64Decode WebAgent.cryptoToWeb).length := by
  decide

/-- What an accepted answer needs: the right keys where both sessions exist, and
a key that stays away from `ready` where the second one failed. -/
def AnswerRight (env : Env) (hist : List Signal) : Prop :=
  env.encryptStatus = .ok →
    if env.decryptStatus = .ok then CarriesKey hist else ¬ Reaches (decodedKey hist)

theorem answerRight_iff (env : Env) (hist : List Signal) :
    ((answerResult env hist).setsReady = true ∨ (answerResult env hist).overruns →
        KeysRight hist (answerResult env hist)) ↔ AnswerRight env hist := by
  obtain ⟨hnone, hinside⟩ := enc_fits
  unfold answerResult AnswerRight
  by_cases henc : env.encryptStatus = .ok
  · rw [if_neg (not_not.2 henc)]
    by_cases hdec : env.decryptStatus = .ok
    · rw [if_neg (not_not.2 hdec), if_pos hdec, keysRight_iff rfl rfl]
      exact ⟨fun h _ => h (.inl rfl), fun h _ => h henc⟩
    · rw [if_pos hdec, if_neg hdec, keysRight_iff rfl rfl]
      have hreaches : ((RTPConverter.InitResult.decryptFailed env.decryptStatus
            (Base64.base64Decode WebAgent.cryptoToWeb) (decodedKey hist)).setsReady = true ∨
          (RTPConverter.InitResult.decryptFailed env.decryptStatus
            (Base64.base64Decode WebAgent.cryptoToWeb) (decodedKey hist)).overruns) ↔
          Reaches (decodedKey hist) := by
        simp only [RTPConverter.InitResult.setsReady, RTPConverter.InitResult.stored,
          RTPConverter.InitResult.overruns, RTPConverter.InitResult.enc,
          RTPConverter.InitResult.dec?, hnone, Option.or_none, hinside, false_or, Option.mem_some,
          exists_eq_left', Reaches]
      rw [hreaches]
      exact ⟨fun h _ hr => (h hr).not_reaches hr, fun h hr => absurd hr (h henc)⟩
  · rw [if_pos henc]
    refine iff_of_true (fun hset => ?_) fun heq => absurd heq henc
    simp [RTPConverter.InitResult.setsReady, RTPConverter.InitResult.stored,
      RTPConverter.InitResult.overruns, RTPConverter.InitResult.enc,
      RTPConverter.InitResult.dec?, hnone, hinside] at hset

/-- Every `init` of the run that sets `ready`, or that leaves nothing known of
it, has copied the right keys. -/
def ReadyWithKeys (cfg : Config) (self : Nat) (t : Timer) (sigs : List Signal) : Prop :=
  ∀ pre e post, sigs = pre ++ e :: post →
    ∀ r ∈ initResults
        ((session cfg self).step ((session cfg self).run (newSession cfg t) pre).1 e).2,
      r.setsReady = true ∨ r.overruns → KeysRight (pre ++ [e]) r

/-- In every run of a session the converter becomes ready with the right keys
alone exactly when, at every accepted answer for which the first session is
created, the web descriptions so far carry the key if the second one is created
too, and have no key that runs as far as `ready` if it is not. -/
theorem ready_with_keys_iff (cfg : Config) (self : Nat) (t : Timer) (sigs : List Signal) :
    ReadyWithKeys cfg self t sigs ↔
      ∀ pre e post, sigs = pre ++ e :: post →
        startsMedia e.handler e.message = true → AnswerRight e.env (pre ++ [e]) := by
  refine forall_congr' fun pre => forall_congr' fun e => forall_congr' fun post =>
    imp_congr_right fun _ => ?_
  rw [initResults_step (tracks_run cfg self t pre) e, ← answerRight_iff]
  cases startsMedia e.handler e.message with
  | false => simp
  | true => simp

/-- An accepted offer from the web without a key, and an accepted answer from
IMS. -/
def callWithoutKey : List Signal :=
  [audioSdp .offerFromWeb RoapType.offer "8", audioSdp .answerFromIMS RoapType.answer "8"]

/-- An accepted offer from the web whose key has 61 bytes, and an accepted answer
from IMS for which the second `srtp_create` fails. -/
def callWithLongKey : List Signal :=
  [ { audioSdp .offerFromWeb RoapType.offer "8" with
      message := SessionMessage.of RoapType.offer (bytes "call")
        (bytes "m=audio 1 RTP/SAVPF 8\r\n" ++ CRYPTO_80 ++ List.replicate 82 66 ++ PARAM_END) }
  , { audioSdp .answerFromIMS RoapType.answer "8" with
      env := { Env.plain with decryptStatus := .initFail } } ]

/-- The converter becomes ready with a key of no bytes, and with a key of 61 bytes
the last of which is written to `ready`. -/
theorem not_ready_with_keys :
    ¬ ReadyWithKeys (Config.over []) 0 Timer.init callWithoutKey ∧
      ¬ ReadyWithKeys (Config.over []) 0 Timer.init callWithLongKey := by
  constructor
  · intro hready
    have hright := hready [callWithoutKey.head (by decide)] _ [] rfl
      (answerResult Env.plain callWithoutKey)
      (by rw [initResults_step (tracks_run (Config.over []) 0 Timer.init _)]; decide +kernel)
      (.inl (by decide))
    exact absurd hright.length (by decide)
  · intro hready
    have hright := hready [callWithLongKey.head (by decide)] _ [] rfl
      (answerResult { Env.plain with decryptStatus := .initFail } callWithLongKey)
      (by rw [initResults_step (tracks_run (Config.over []) 0 Timer.init _)]; decide +kernel)
      (.inl (by decide +kernel))
    exact absurd hright.length (by decide +kernel)

end MediaGateway
