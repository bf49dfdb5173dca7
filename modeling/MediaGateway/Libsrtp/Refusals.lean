import MediaGateway.Libsrtp.RoundTrip

/-!
# Packets that are refused

Anybody can send packets to the gateway.  A packet that is too short, that was there before or
whose tag is wrong changes ciphers and hash contexts of the session on its way to the refusal, but
not its streams.  `refused_leave_no_trace` says that a run without the refused packets gives the
same replies to all other calls.
-/

namespace MediaGateway.Libsrtp

open Lib

/-- The statuses of packets that do not come from the peer, or not for the first time. -/
def refusals : List ErrStatus := [.badParam, .replayOld, .replayFail, .authFail]

/-- A call on a packet that came in was refused. -/
def Refused : Call → Reply → Prop
  | .unprotect _, r => r.status ∈ refusals
  | .unprotectRtcp _, r => r.status ∈ refusals
  | _, _ => False

instance : (c : Call) → (r : Reply) → Decidable (Refused c r)
  | .unprotect _, r => inferInstanceAs (Decidable (r.status ∈ refusals))
  | .unprotectRtcp _, r => inferInstanceAs (Decidable (r.status ∈ refusals))
  | .protect _, _ => isFalse id
  | .protectRtcp _, _ => isFalse id

/-- The calls that were not refused, with their replies. -/
def kept (calls : List Call) (replies : List Reply) : List (Call × Reply) :=
  (calls.zip replies).filter fun e => ¬ Refused e.1 e.2

variable {crypt : Crypt} {s : Streams} {pkt : Bytes}

theorem kept_cons (c : Call) (r : Reply) (calls : List Call) (replies : List Reply) :
    kept (c :: calls) (r :: replies) =
      if Refused c r then kept calls replies else (c, r) :: kept calls replies := by
  unfold kept
  rw [List.zip_cons_cons, List.filter_cons]
  by_cases h : Refused c r
  · simp [h]
  · simp [h]

theorem kept_nil (replies : List Reply) : kept [] replies = [] :=
  rfl

theorem kept_cons_of_refused {status : ErrStatus} (h : status ∈ refusals) (out : Bytes)
    (events : List SrtpEvent) (calls : List Call) (replies : List Reply) :
    kept (.unprotect pkt :: calls) (⟨status, out, events⟩ :: replies) = kept calls replies := by
  rw [kept_cons]
  exact if_pos h

theorem kept_cons_of_ok {status : ErrStatus} (h : status = .ok) (out : Bytes)
    (events : List SrtpEvent) (calls : List Call) (replies : List Reply) :
    kept (.unprotect pkt :: calls) (⟨status, out, events⟩ :: replies) =
      (.unprotect pkt, ⟨status, out, events⟩) :: kept calls replies := by
  have htaken : status ∉ refusals := by
    rw [h]
    decide
  rw [kept_cons]
  exact if_neg htaken

/-! ## The streams -/

theorem unprotect_of_refused (h : (s.unprotect crypt pkt).1.status ∈ refusals) :
    (s.unprotect crypt pkt).2 = s := by
  unfold Streams.unprotect at h ⊢
  by_cases hshort : pkt.length < octetsInRtpHeader
  · rw [if_pos hshort]
  · rw [if_neg hshort] at h ⊢
    cases hincoming : s.incoming pkt with
    | error status => rfl
    | ok r =>
      obtain ⟨delta, est⟩ := r
      rw [hincoming] at h
      generalize s.updateLimit = limited at h ⊢
      obtain ⟨event, limits, next⟩ := limited
      dsimp only at h ⊢
      by_cases hforged : crypt.rtpTag (pkt.take (pkt.length - authTagLen) ++ roc est) ≠
          pkt.drop (pkt.length - authTagLen)
      · rw [if_pos hforged]
      · rw [if_neg hforged] at h
        -- behind the authentication no status is a refusal
        by_cases hhard : event = .hardLimit
        · rw [if_pos hhard] at h
          exact absurd h (show ErrStatus.keyExpired ∉ refusals by decide)
        · rw [if_neg hhard] at h
          generalize xorPart _ pkt (encStart pkt) (pkt.length - authTagLen) = part at h
          cases part with
          | none => exact absurd h (show ErrStatus.cipherFail ∉ refusals by decide)
          | some dec => exact absurd h (show ErrStatus.ok ∉ refusals by decide)

theorem unprotectRtcp_of_refused (h : (s.unprotectRtcp crypt pkt).1.status ∈ refusals) :
    (s.unprotectRtcp crypt pkt).2 = s := by
  unfold Streams.unprotectRtcp at h ⊢
  dsimp only at h ⊢
  generalize Framing.ofHeader _ = trailer at h ⊢
  cases hcheck : s.checkRtcp pkt (trailer &&& Streams.srtcpIndexMask) with
  | ok =>
    rw [hcheck] at h
    dsimp only at h ⊢
    by_cases hforged : crypt.rtcpTag (pkt.take (pkt.length - authTagLen)) ≠
        pkt.drop (pkt.length - authTagLen)
    · rw [if_pos hforged]
    · rw [if_neg hforged] at h ⊢
      generalize (if trailer &&& srtcpEBit = 0 then some pkt else _) = part at h ⊢
      cases part with
      | none => rfl
      | some dec => exact absurd h (show ErrStatus.ok ∉ refusals by decide)
  | _ => rfl

theorem call_of_refused {c : Call} (h : Refused c (s.call crypt c).1) :
    (s.call crypt c).2 = s := by
  cases c with
  | protect pkt => cases h
  | unprotect pkt => exact unprotect_of_refused h
  | protectRtcp pkt => cases h
  | unprotectRtcp pkt => exact unprotectRtcp_of_refused h

/-! ## Runs -/

variable {aes : Bytes → Block → Block} {keys : Keys} {ctx ctx' : SrtpCtx}

/-- Two sessions with the same keys and the same streams, one of which does not get the refused
packets of the other. -/
theorem kept_run_eq {calls : List Call} (h : Keyed ctx keys) (h' : Keyed ctx' keys)
    (hsame : ctx.streams = ctx'.streams) (hfits : ∀ c ∈ calls, c.Fits) :
    ((srtpCalls aes).run ctx' ((kept calls ((srtpCalls aes).run ctx calls).2).map Prod.fst)).2 =
      (kept calls ((srtpCalls aes).run ctx calls).2).map Prod.snd := by
  induction calls generalizing ctx ctx' with
  | nil => rfl
  | cons c calls ih =>
    have hc := hfits c List.mem_cons_self
    have hrest := fun c' hc' => hfits c' (List.mem_cons_of_mem c hc')
    obtain ⟨hkeyed, hstreams, hreply⟩ := calls_step aes h hc
    obtain ⟨hkeyed', hstreams', hreply'⟩ := calls_step aes h' hc
    rw [Transducer.run_cons]
    dsimp only
    rw [hreply, List.singleton_append, kept_cons]
    by_cases hrefused : Refused c (ctx.streams.call (keys.crypt aes) c).1
    · rw [if_pos hrefused]
      exact ih hkeyed h' (by rw [hstreams, call_of_refused hrefused, hsame]) hrest
    · rw [if_neg hrefused, List.map_cons, List.map_cons, Transducer.run_cons]
      dsimp only
      rw [hreply', ← hsame, List.singleton_append,
        ih hkeyed hkeyed' (by rw [hstreams, hstreams', hsame]) hrest]

/-- Without the refused packets all other calls get the replies that they get with them. -/
theorem refused_leave_no_trace {mem : Memory} {policy : SrtpPolicy} {calls : List Call}
    (hcreate : srtpCreate aes mem policy = .ok ctx) (hfits : ∀ c ∈ calls, c.Fits) :
    ((srtpCalls aes).run ctx ((kept calls ((srtpCalls aes).run ctx calls).2).map Prod.fst)).2 =
      (kept calls ((srtpCalls aes).run ctx calls).2).map Prod.snd :=
  kept_run_eq (keyed_create hcreate).1 (keyed_create hcreate).1 rfl hfits

/-! ### A packet twice -/

theorem run_unprotect_cons (aes : Bytes → Block → Block) (ctx : SrtpCtx) (pkt : Bytes)
    (calls : List Call) :
    ((srtpCalls aes).run ctx (.unprotect pkt :: calls)).2 =
      ⟨(srtpUnprotect aes ctx pkt).status, (srtpUnprotect aes ctx pkt).pkt,
          (srtpUnprotect aes ctx pkt).events⟩ ::
        ((srtpCalls aes).run (srtpUnprotect aes ctx pkt).ctx calls).2 :=
  rfl

theorem run_short_cons (aes : Bytes → Block → Block) (ctx : SrtpCtx) (calls : List Call) :
    ((srtpCalls aes).run ctx (.unprotect [0x80] :: calls)).2 =
      ⟨.badParam, [0x80], []⟩ :: ((srtpCalls aes).run ctx calls).2 := by
  have hshort : srtpUnprotect aes ctx [0x80] = ⟨.badParam, [0x80], [], ctx⟩ := if_pos (by decide)
  rw [run_unprotect_cons, hshort]

/-- The first packet of a source, the same once more, and the second packet. -/
theorem deliver_replayed (aes : Bytes → Block → Block) {out : SrtpCtx}
    (h : Sides keys out ctx (newStreams outgoingPolicy) (newStreams incomingPolicy))
    {first second : Bytes} (hfirst : (srtpProtect aes out firstPkt).pkt = first)
    (hsecond : (srtpProtect aes (srtpProtect aes out firstPkt).ctx secondPkt).pkt = second) :
    (first.length < 2 ^ 28 ∧ second.length < 2 ^ 28) ∧
      ∃ once twice, (srtpUnprotect aes ctx first).ctx = once ∧
        (srtpUnprotect aes once first).ctx = twice ∧
        (srtpUnprotect aes ctx first).status = .ok ∧
        (srtpUnprotect aes once first).status = .replayFail ∧
        (srtpUnprotect aes twice second).status = .ok := by
  obtain ⟨hok, hshort, honce⟩ := deliver_firstPkt aes h
  rw [hfirst] at hok hshort honce
  generalize (srtpUnprotect aes ctx first).ctx = once at honce ⊢
  have hreplay : gotFirst.incoming firstPkt = .error .replayFail := by decide +kernel
  have hbefore : Sides keys out once (newStreams outgoingPolicy) gotFirst :=
    ⟨h.sender, honce.receiver, h.sent, honce.got⟩
  obtain ⟨hrefused, htwice⟩ :=
    hbefore.refuse firstPkt_sendable (by decide) outgoing_firstPkt hreplay
  rw [hfirst] at hrefused htwice
  generalize hctx' : (srtpUnprotect aes once first).ctx = twice at htwice
  have hafter : Sides keys (srtpProtect aes out firstPkt).ctx twice sentFirst gotFirst :=
    ⟨honce.sender, htwice.receiver, honce.sent, htwice.got⟩
  obtain ⟨-, -, hshort', -⟩ :=
    hafter.protect secondPkt_sendable (by decide) outgoing_secondPkt
  obtain ⟨hok', -, -⟩ := hafter.deliver secondPkt_sendable (by decide) outgoing_secondPkt
    incoming_secondPkt (by decide +kernel)
  rw [hsecond] at hshort' hok'
  exact ⟨⟨hshort, hshort'⟩, once, twice, rfl, hctx', hok, hrefused, hok'⟩

/-- A packet that is too short, then the first packet of a source twice and its second one: what
is left is the first packet once and the second one. -/
theorem refused_leave_no_trace_replayed :
    outgoingPolicy.key = incomingPolicy.key ∧ ∀ aes, ∃ out ctx,
      srtpCreate aes zeroMemory outgoingPolicy = .ok out ∧
      srtpCreate aes zeroMemory incomingPolicy = .ok ctx ∧
      let first := Call.unprotect (srtpProtect aes out firstPkt).pkt
      let second := Call.unprotect
        (srtpProtect aes (srtpProtect aes out firstPkt).ctx secondPkt).pkt
      let replies := ((srtpCalls aes).run ctx [.unprotect [0x80], first, first, second]).2
      replies.map Reply.status = [.badParam, .ok, .replayFail, .ok] ∧
        ((srtpCalls aes).run ctx [first, second]).2.map some = [replies[1]?, replies[3]?] := by
  refine ⟨rfl, fun aes => ?_⟩
  obtain ⟨out, hout⟩ := create_of_valid aes zeroMemory (show outgoingPolicy.Valid by decide)
  obtain ⟨ctx, hctx⟩ := create_of_valid aes zeroMemory (show incomingPolicy.Valid by decide)
  refine ⟨out, ctx, hout, hctx, ?_⟩
  generalize hfirst : (srtpProtect aes out firstPkt).pkt = first
  generalize hsecond : (srtpProtect aes (srtpProtect aes out firstPkt).ctx secondPkt).pkt = second
  obtain ⟨⟨hshort, hshort'⟩, once, twice, honce, htwice, hok, hreplay, hok'⟩ :=
    deliver_replayed aes (sides_create hout hctx) hfirst hsecond
  have hfits : ∀ c ∈ [Call.unprotect [0x80], .unprotect first, .unprotect first,
      .unprotect second], c.Fits :=
    List.forall_mem_cons.2 ⟨show (1 : Nat) < 2 ^ 28 by decide, List.forall_mem_cons.2 ⟨hshort,
      List.forall_mem_cons.2 ⟨hshort, List.forall_mem_cons.2 ⟨hshort', List.forall_mem_nil _⟩⟩⟩⟩
  have hreplies := run_short_cons aes ctx [.unprotect first, .unprotect first, .unprotect second]
  rw [run_unprotect_cons aes ctx first, honce, run_unprotect_cons aes once first, htwice,
    run_unprotect_cons aes twice second, Transducer.run_nil] at hreplies
  have hrefused : (srtpUnprotect aes once first).status ∈ refusals := by
    rw [hreplay]
    decide
  have htrace := refused_leave_no_trace hctx hfits
  rw [hreplies, kept_cons_of_refused (by decide), kept_cons_of_ok hok,
    kept_cons_of_refused hrefused, kept_cons_of_ok hok', kept_nil] at htrace
  rw [List.map_cons, List.map_cons, List.map_nil, List.map_cons, List.map_cons, List.map_nil]
    at htrace
  dsimp only at htrace ⊢
  rw [hreplies, htrace]
  refine ⟨?_, rfl⟩
  rw [List.map_cons, List.map_cons, List.map_cons, List.map_cons, List.map_nil, hok, hreplay, hok']

end MediaGateway.Libsrtp
