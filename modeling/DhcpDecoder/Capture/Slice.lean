import DhcpDecoder.Capture.ByteOrder

/-!
Slices of a captured frame.
-/

namespace DhcpDecoder

/-- A slice of a frame: the bytes from its start to the end of the frame, and how many of them
belong to the slice. -/
structure Slice where
  bytes : List UInt8
  size : Nat
  deriving DecidableEq, Repr, Inhabited

namespace Slice

def ofList (bs : List UInt8) : Slice := ⟨bs, bs.length⟩

def toList (s : Slice) : List UInt8 := s.bytes.take s.size

def byte? (s : Slice) (i : Nat) : Option Nat :=
  if i < s.size then (s.bytes[i]?).map (·.toNat) else none

def cut? (s : Slice) (lo hi : Nat) : Option Slice :=
  if lo ≤ hi ∧ hi ≤ s.bytes.length then some ⟨s.bytes.drop lo, hi - lo⟩ else none

def from? (s : Slice) (lo : Nat) : Option Slice :=
  if lo ≤ s.size then some ⟨s.bytes.drop lo, s.size - lo⟩ else none

def word? (s : Slice) (lo width : Nat) : Option Nat := do
  let w ← s.cut? lo (lo + width)
  pure (ByteOrder.big.read width w.bytes)

def upTo (s : Slice) (n : Nat) : Slice := if n < s.size then { s with size := n } else s

end Slice

end DhcpDecoder
