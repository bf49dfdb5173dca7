import MediaGateway.Lib.Text

/-!
# Frames with a length in front

A frame is a payload behind its length, which is four bytes with the most
significant one first.  `ofHeader_header` reads the length back, and a stream is
one frame after the other.
-/

namespace MediaGateway.Lib.Framing

/-- Four bytes, the most significant one first. -/
def header (n : Nat) : Bytes :=
  [ UInt8.ofNat (n / 2 ^ 24)
  , UInt8.ofNat (n / 2 ^ 16)
  , UInt8.ofNat (n / 2 ^ 8)
  , UInt8.ofNat n ]

/-- The number that bytes stand for, the most significant one first. -/
def ofHeader (bs : Bytes) : Nat := bs.foldl (fun n b => 2 ^ 8 * n + b.toNat) 0

/-- A payload behind its length. -/
def frame (payload : Bytes) : Bytes := header payload.length ++ payload

/-- One frame after the other. -/
def stream (payloads : List Bytes) : Bytes := payloads.flatMap frame

@[simp] theorem length_header (n : Nat) : (header n).length = 4 := rfl

@[simp] theorem length_frame (payload : Bytes) : (frame payload).length = payload.length + 4 := by
  rw [frame, List.length_append, length_header, Nat.add_comm]

@[simp] theorem stream_nil : stream [] = [] := rfl

@[simp] theorem stream_cons (payload : Bytes) (rest : List Bytes) :
    stream (payload :: rest) = frame payload ++ stream rest :=
  List.flatMap_cons

/-- A length that fits into four bytes is read back. -/
theorem ofHeader_header {n : Nat} (h : n < 2 ^ 32) : ofHeader (header n) = n := by
  simp only [ofHeader, header, List.foldl_cons, List.foldl_nil, UInt8.toNat_ofNat']
  omega

end MediaGateway.Lib.Framing
