import DhcpDecoder.Net.Address
import DhcpDecoder.Option.Value

/-!
The fixed BOOTP header: the 236 bytes in front of a datagram's options.
-/

namespace DhcpDecoder

structure FixedBytes (n : Nat) where
  bytes : List UInt8
  length_eq : bytes.length = n
  deriving DecidableEq

namespace FixedBytes

def zeros (n : Nat) : FixedBytes n := ⟨List.replicate n 0, List.length_replicate⟩

def ofPrefix (n : Nat) (bytes : List UInt8) : FixedBytes n :=
  ⟨bytes.take n ++ List.replicate (n - bytes.length) 0, by
    simp only [List.length_append, List.length_take, List.length_replicate]
    omega⟩

instance (n : Nat) : Inhabited (FixedBytes n) := ⟨zeros n⟩

def cString {n : Nat} (f : FixedBytes n) : List UInt8 :=
  f.bytes.takeWhile (· != 0)

theorem ofPrefix_bytes {n : Nat} (f : FixedBytes n) : ofPrefix n f.bytes = f := by
  obtain ⟨bytes, h⟩ := f
  subst h
  simp [ofPrefix]

end FixedBytes

def magicCookie : List UInt8 := [99, 130, 83, 99]

structure Header where
  op : UInt8 := 0
  htype : UInt8 := 0
  hlen : UInt8 := 0
  hops : UInt8 := 0
  xid : UInt32 := 0
  secs : UInt16 := 0
  flags : UInt16 := 0
  ciaddr : HostAddr := .none
  yiaddr : HostAddr := .none
  siaddr : HostAddr := .none
  giaddr : HostAddr := .none
  chaddr : FixedBytes 16 := FixedBytes.zeros 16
  sname : FixedBytes 64 := FixedBytes.zeros 64
  file : FixedBytes 128 := FixedBytes.zeros 128
  deriving DecidableEq

instance : Inhabited Header := ⟨{}⟩

namespace Header

def size : Nat := 236

def optionsOffset : Nat := 240

def broadcast (h : Header) : Bool := h.flags.toNat ≥ 0x8000

def hardwareAddr (h : Header) : List UInt8 := h.chaddr.bytes.take h.hlen.toNat

def hardwareText (h : Header) : String :=
  ":".intercalate (h.hardwareAddr.map fun b => Hex.encode [b])

/-- The four bytes an address field is written as: the address, or zeros when the field holds no
IPv4 address. -/
def addrBytes (a : HostAddr) : List UInt8 :=
  match a.ipv4? with
  | some ip => ip.toBytes
  | none => [0, 0, 0, 0]

def encode (h : Header) : List UInt8 :=
  [h.op, h.htype, h.hlen, h.hops] ++ u32Bytes h.xid ++ u16Bytes h.secs ++ u16Bytes h.flags
    ++ addrBytes h.ciaddr ++ addrBytes h.yiaddr ++ addrBytes h.siaddr ++ addrBytes h.giaddr
    ++ h.chaddr.bytes ++ h.sname.bytes ++ h.file.bytes ++ magicCookie

def slice (bytes : List UInt8) (start n : Nat) : FixedBytes n :=
  FixedBytes.ofPrefix n (bytes.drop start)

def decode (bytes : List UInt8) : Header :=
  let at_ := fun i => bytes.getD i 0
  let addr := fun i => HostAddr.v4 ⟨at_ i, at_ (i + 1), at_ (i + 2), at_ (i + 3)⟩
  { op := at_ 0, htype := at_ 1, hlen := at_ 2, hops := at_ 3,
    xid := beU32 (at_ 4) (at_ 5) (at_ 6) (at_ 7),
    secs := beU16 (at_ 8) (at_ 9), flags := beU16 (at_ 10) (at_ 11),
    ciaddr := addr 12, yiaddr := addr 16, siaddr := addr 20, giaddr := addr 24,
    chaddr := slice bytes 28 16, sname := slice bytes 44 64, file := slice bytes 108 128 }

theorem encode_length (h : Header) : h.encode.length = 240 := by
  have hc := h.chaddr.length_eq
  have hs := h.sname.length_eq
  have hf := h.file.length_eq
  have addr : ∀ a : HostAddr, (addrBytes a).length = 4 := by
    intro a
    unfold addrBytes
    split <;> rfl
  simp [encode, u32Bytes, u16Bytes, magicCookie, hc, hs, hf, addr]

end Header

end DhcpDecoder
