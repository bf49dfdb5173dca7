import MediaGateway.Lib.Text

/-!
# Base64

`base64.cpp`.  Both directions work through `char_array_4` and `char_array_3`
with 8-bit arithmetic.  `decodeLoop` is the `while` loop of `base64_decode`; it
stops at the first byte that is not in the alphabet, and padding is one.
`encodeLoop` is the one of `base64_encode`.
-/

namespace MediaGateway

open Lib

namespace Base64

/-- `base64_chars`. -/
def base64Chars : Bytes :=
  bytes "ABCDEFGHIJKLMNOPQRSTUVWXYZabcdefghijklmnopqrstuvwxyz0123456789+/"

/-- `is_base64`. -/
def isBase64 (c : UInt8) : Bool :=
  (65 ≤ c && c ≤ 90) || (97 ≤ c && c ≤ 122) || Bytes.isDigit c || c == 43 || c == 47

/-- `static_cast<unsigned char>(base64_chars.find(c))`, where `npos` becomes
`255`. -/
def charIndex (c : UInt8) : UInt8 :=
  match Bytes.find base64Chars [c] 0 with
  | some i => UInt8.ofNat i
  | none => 255

/-- `char_array_3` from `char_array_4`. -/
def group3 (a : List UInt8) : List UInt8 :=
  let a0 := a.getD 0 0
  let a1 := a.getD 1 0
  let a2 := a.getD 2 0
  let a3 := a.getD 3 0
  [ (a0 <<< 2) + ((a1 &&& 0x30) >>> 4)
  , ((a1 &&& 0xf) <<< 4) + ((a2 &&& 0x3c) >>> 2)
  , ((a2 &&& 0x3) <<< 6) + a3 ]

/-- The `while` loop: the input left, `i`, `char_array_4` and `ret`. -/
def decodeLoop : Bytes → Nat → List UInt8 → Bytes → Nat × List UInt8 × Bytes
  | [], i, arr, ret => (i, arr, ret)
  | c :: rest, i, arr, ret =>
    if c != 61 && isBase64 c then
      let arr := arr.set i c
      if i + 1 = 4 then
        let arr := arr.map charIndex
        decodeLoop rest 0 arr (ret ++ group3 arr)
      else
        decodeLoop rest (i + 1) arr ret
    else
      (i, arr, ret)

/-- `base64_decode`.  After the loop an incomplete group is filled with zeros,
and every entry, the zeros included, is looked up. -/
def base64Decode (encoded : Bytes) : Bytes :=
  match decodeLoop encoded 0 [0, 0, 0, 0] [] with
  | (i, arr, ret) =>
    if i = 0 then
      ret
    else
      let arr := (arr.take i ++ List.replicate (4 - i) 0).map charIndex
      ret ++ (group3 arr).take (i - 1)

example : base64Decode (bytes "TWFu") = bytes "Man" := by decide

/-- `char_array_4` from `char_array_3`. -/
def group4 (a : List UInt8) : List UInt8 :=
  let a0 := a.getD 0 0
  let a1 := a.getD 1 0
  let a2 := a.getD 2 0
  [ (a0 &&& 0xfc) >>> 2
  , ((a0 &&& 0x03) <<< 4) + ((a1 &&& 0xf0) >>> 4)
  , ((a1 &&& 0x0f) <<< 2) + ((a2 &&& 0xc0) >>> 6)
  , a2 &&& 0x3f ]

/-- `base64_chars[v]`. -/
def charAt (v : UInt8) : UInt8 := base64Chars.getD v.toNat 0

/-- The `while` loop: the bytes left, `i`, `char_array_3` and `ret`. -/
def encodeLoop : Bytes → Nat → List UInt8 → Bytes → Nat × List UInt8 × Bytes
  | [], i, arr, ret => (i, arr, ret)
  | b :: rest, i, arr, ret =>
    let arr := arr.set i b
    if i + 1 = 3 then
      encodeLoop rest 0 arr (ret ++ (group4 arr).map charAt)
    else
      encodeLoop rest (i + 1) arr ret

/-- `base64_encode`, which reads `inLen` bytes from the pointer on.  After the loop an
incomplete group is filled with zeros, and one character for each byte and one more are
written, then padding. -/
def base64Encode (bytesToEncode : Bytes) (inLen : UInt32) : Bytes :=
  match encodeLoop (bytesToEncode.take inLen.toNat) 0 [0, 0, 0] [] with
  | (i, arr, ret) =>
    if i = 0 then
      ret
    else
      let arr := arr.take i ++ List.replicate (3 - i) 0
      ret ++ ((group4 arr).take (i + 1)).map charAt ++ List.replicate (3 - i) 61

example : base64Encode (bytes "Ma") 2 = bytes "TWE=" := by decide

/-- The loop stops at the first byte that is padding or not in the alphabet. -/
theorem decodeLoop_stop {c : UInt8} (hc : (c != 61 && isBase64 c) = false) (xs ys : Bytes)
    (i : Nat) (arr : List UInt8) (ret : Bytes) :
    decodeLoop (xs ++ c :: ys) i arr ret = decodeLoop xs i arr ret := by
  induction xs generalizing i arr ret with
  | nil => simp only [List.nil_append, decodeLoop, hc, Bool.false_eq_true, if_false]
  | cons x xs ih => simp only [List.cons_append, decodeLoop, ih]

/-- What stands behind such a byte is not decoded. -/
theorem base64Decode_stop {c : UInt8} (hc : (c != 61 && isBase64 c) = false) (xs ys : Bytes) :
    base64Decode (xs ++ c :: ys) = base64Decode xs := by
  rw [base64Decode, base64Decode, decodeLoop_stop hc]

end Base64

end MediaGateway
