/-!
Byte orders for fixed-width numbers in files and on the wire.
-/

namespace DhcpDecoder

inductive ByteOrder where
  | little
  | big
  deriving DecidableEq, Repr, Inhabited

namespace ByteOrder

def bigValue (bs : List UInt8) : Nat :=
  bs.foldl (fun acc b => acc * 256 + b.toNat) 0

def read (o : ByteOrder) (width : Nat) (bs : List UInt8) : Nat :=
  match o with
  | .big => bigValue (bs.take width)
  | .little => bigValue (bs.take width).reverse

def littleBytes (width value : Nat) : List UInt8 :=
  (List.range width).map fun i => (value / Nat.pow 256 i % 256).toUInt8

def write (o : ByteOrder) (width value : Nat) : List UInt8 :=
  match o with
  | .little => littleBytes width value
  | .big => (littleBytes width value).reverse

theorem littleBytes_length (width value : Nat) : (littleBytes width value).length = width := by
  simp [littleBytes]

theorem write_length (o : ByteOrder) (width value : Nat) : (o.write width value).length = width := by
  cases o <;> simp [write, littleBytes_length]

end ByteOrder

end DhcpDecoder
