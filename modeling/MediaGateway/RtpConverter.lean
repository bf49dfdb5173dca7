import MediaGateway.Base64
import MediaGateway.CommonType

/-!
# The SRTP converter

`rtpconverter.cpp`.  Here libsrtp may do anything: `srtp_create`,
`srtp_protect`, `srtp_unprotect` and `srtp_protect_rtcp` may return any status,
and the last three may leave any bytes and any length behind (`SrtpResult`).
What they do is in `Libsrtp.Srtp`.

`init` decodes both keys and copies them with `memcpy` into two arrays of
`MASTER_KEY_LEN` bytes without comparing lengths.  The arrays and `ready` lie
behind one another in the object, so a long decryption key runs over `masen` and
then over `ready` (`isReady_init`), and one of more than `OBJECT_END` bytes
leaves the object.
-/

namespace MediaGateway

open Lib

/-- `MASTER_KEY_LEN`. -/
def MASTER_KEY_LEN : Nat := 30

/-- Where `masen` starts, counted from `masterKey`. -/
def MASEN : Nat := MASTER_KEY_LEN

/-- Where `ready` lies. -/
def READY : Nat := 2 * MASTER_KEY_LEN

/-- Where the object ends: `ready` is its last member, and three bytes of padding
bring its size to a multiple of the pointers before `masterKey`. -/
def OBJECT_END : Nat := READY + 4

/-- `memcpy(object + start, src.c_str(), src.size())`, as far as it stays inside
the object. -/
def memcpy (object : Bytes) (start : Nat) (src : Bytes) : Bytes :=
  (object.take start ++ src ++ object.drop (start + src.length)).take object.length

@[simp] theorem length_memcpy (object : Bytes) (start : Nat) (src : Bytes) :
    (memcpy object start src).length = object.length := by
  simp only [memcpy, List.length_take, List.length_append, List.length_drop]
  omega

/-- A copy changes the bytes it covers and no others. -/
theorem getElem?_memcpy {object src : Bytes} {start i : Nat} (hstart : start ≤ object.length)
    (hi : i < object.length) :
    (memcpy object start src)[i]? =
      if i < start then object[i]? else (src[i - start]?).or object[i]? := by
  have htake : (object.take start).length = start := List.length_take_of_le hstart
  rw [memcpy, List.getElem?_take_of_lt hi, List.append_assoc]
  split
  · rename_i hlt
    rw [List.getElem?_append_left (by rwa [htake]), List.getElem?_take_of_lt hlt]
  · rename_i hge
    rw [List.getElem?_append_right (by omega), htake]
    by_cases hin : i - start < src.length
    · rw [List.getElem?_append_left hin, List.getElem?_eq_getElem hin]
      rfl
    · have hpast : src.length ≤ i - start := Nat.le_of_not_lt hin
      rw [List.getElem?_append_right hpast, List.getElem?_drop,
        List.getElem?_eq_none hpast, Option.none_or]
      congr 1
      omega

/-- `RTPConverter`: the bytes of `masterKey`, `masen` and `ready`, and the
padding. -/
structure RTPConverter where
  object : Bytes
  length_eq : object.length = OBJECT_END
  deriving DecidableEq, Repr

namespace RTPConverter

/-- A new converter, which is not ready, over arrays of zeros. -/
def fresh : RTPConverter where
  object := List.replicate OBJECT_END 0
  length_eq := List.length_replicate

/-- A copy into the object. -/
def write (start : Nat) (src : Bytes) (c : RTPConverter) : RTPConverter where
  object := memcpy c.object start src
  length_eq := (length_memcpy ..).trans c.length_eq

/-- `isReady`. -/
def isReady (c : RTPConverter) : Bool := c.object[READY]?.any (· != 0)

/-- What `init` did: the statuses of the `srtp_create` calls it made are
inputs. -/
inductive InitResult
  /-- the encryption key has been copied, and no session exists -/
  | encryptFailed (status : ErrStatus) (enc : Bytes)
  /-- both keys have been copied, and one session exists -/
  | decryptFailed (status : ErrStatus) (enc dec : Bytes)
  /-- both sessions exist, and the last statement has set `ready` -/
  | setReady (enc dec : Bytes)
  deriving DecidableEq, Repr

/-- `RTPConverter::init(enkey, dekey)`, with the statuses that the two
`srtp_create` calls return. -/
def init (encryptStatus decryptStatus : ErrStatus) (enkey dekey : Bytes) (c : RTPConverter) :
    RTPConverter × InitResult :=
  let c := c.write MASEN (List.replicate MASTER_KEY_LEN 0)
  let enc := Base64.base64Decode enkey
  let c := c.write MASEN enc
  if encryptStatus ≠ .ok then
    (c, .encryptFailed encryptStatus enc)
  else
    let c := c.write 0 (List.replicate MASTER_KEY_LEN 0)
    let dec := Base64.base64Decode dekey
    let c := c.write 0 dec
    if decryptStatus ≠ .ok then
      (c, .decryptFailed decryptStatus enc dec)
    else
      (c.write READY [1], .setReady enc dec)

/-! ## What becomes of `ready` -/

namespace InitResult

/-- The encryption key that was copied. -/
def enc : InitResult → Bytes
  | .encryptFailed _ enc => enc
  | .decryptFailed _ enc _ => enc
  | .setReady enc _ => enc

/-- The decryption key that was copied, if one was. -/
def dec? : InitResult → Option Bytes
  | .encryptFailed _ _ => none
  | .decryptFailed _ _ dec => some dec
  | .setReady _ dec => some dec

/-- The byte that `init` has left in `ready`, if it wrote there: the last
statement does, and so does a key that runs over the array it is copied to. -/
def stored : InitResult → Option UInt8
  | .encryptFailed _ enc => enc[READY - MASEN]?
  | .decryptFailed _ enc dec => (dec[READY]?).or enc[READY - MASEN]?
  | .setReady _ _ => some 1

/-- Whether `init` has made the converter ready. -/
def setsReady (r : InitResult) : Bool := r.stored.any (· != 0)

/-- Whether a key was copied past the end of the object. -/
def overruns (r : InitResult) : Prop :=
  OBJECT_END < MASEN + r.enc.length ∨ ∃ dec ∈ r.dec?, OBJECT_END < dec.length

end InitResult

theorem ready_write {c : RTPConverter} {start : Nat} {src : Bytes} (h : start ≤ READY) :
    (c.write start src).object[READY]? = (src[READY - start]?).or c.object[READY]? := by
  have hlen : READY < c.object.length := by rw [c.length_eq]; decide
  exact (getElem?_memcpy (by omega) hlen).trans (if_neg (Nat.not_lt.2 h))

/-- Clearing one of the arrays leaves `ready` alone. -/
theorem ready_memset {c : RTPConverter} {start : Nat} (h : start ≤ MASEN) :
    (c.write start (List.replicate MASTER_KEY_LEN 0)).object[READY]? = c.object[READY]? := by
  have hpast : MASTER_KEY_LEN ≤ READY - start := by
    simp only [READY, MASEN] at h ⊢
    omega
  have hready : start ≤ READY := Nat.le_trans h (by decide)
  rw [ready_write hready, List.getElem?_eq_none (by rwa [List.length_replicate]), Option.none_or]

/-- After `init` the member `ready` is what was stored there, and otherwise what
it was. -/
theorem isReady_init (s₁ s₂ : ErrStatus) (enkey dekey : Bytes) (c : RTPConverter) :
    (init s₁ s₂ enkey dekey c).1.isReady =
      ((init s₁ s₂ enkey dekey c).2.stored.or c.object[READY]?).any (· != 0) := by
  have hmasen : MASEN ≤ READY := by decide
  unfold init isReady
  split_ifs with h₁ h₂
  · rw [ready_write hmasen, ready_memset (Nat.le_refl _)]
    rfl
  · rw [ready_write (Nat.zero_le _), ready_memset (Nat.zero_le _), ready_write hmasen,
      ready_memset (Nat.le_refl _), ← Option.or_assoc]
    rfl
  · rw [ready_write (Nat.le_refl _)]
    rfl

/-- What `init` returns, by the statuses. -/
theorem init_result (s₁ s₂ : ErrStatus) (enkey dekey : Bytes) (c : RTPConverter) :
    (init s₁ s₂ enkey dekey c).2 =
      if s₁ ≠ .ok then .encryptFailed s₁ (Base64.base64Decode enkey)
      else if s₂ ≠ .ok then
        .decryptFailed s₂ (Base64.base64Decode enkey) (Base64.base64Decode dekey)
      else .setReady (Base64.base64Decode enkey) (Base64.base64Decode dekey) := by
  unfold init
  split_ifs <;> rfl

end RTPConverter

/-! ## Packets -/

/-- What one call of a libsrtp packet function leaves behind: its status, the
buffer and the length it wrote through its last argument. -/
structure SrtpResult where
  status : ErrStatus
  buffer : Bytes
  len : Nat
  deriving DecidableEq, Repr

end MediaGateway
