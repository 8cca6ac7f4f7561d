import DhcpDecoder.Capture.ByteOrder
import DhcpDecoder.Capture.Slice

/-!
802.11 frames and the radio headers captured in front of them.
-/

namespace DhcpDecoder

namespace Wireless

/-! ### 802.11 -/

/-- The frame type of an 802.11 frame control byte: its subtype times four plus its main type,
without the protocol version. -/
def frameType (control : Nat) : Nat := control / 4

def isQos (t : Nat) : Bool := t &&& 0x23 = 0x22

def carriesLlc (t : Nat) : Bool := t % 4 = 2 && t ≠ 0x36

/-- The length of a data frame's header from its type and flags: the fourth address, QoS control and
HT control each when present. -/
def headerLength (t flags : Nat) : Nat :=
  24 + (if flags % 4 = 3 then 6 else 0) + (if isQos t then 2 else 0)
    + (if isQos t && flags &&& 0x80 ≠ 0 then 4 else 0)

/-- Reads an 802.11 frame: the payload it carries to LLC, between its header and its checksum; none
for a frame that is too short, protected, or not data. -/
def dot11 (s : Slice) : Option Slice := do
  let t := frameType (← s.byte? 0)
  let flags ← s.byte? 1
  if !carriesLlc t || flags &&& 0x40 ≠ 0 then none
  let header := headerLength t flags
  if s.size < header + 4 then none
  pure ⟨s.bytes.drop header, s.size - 4 - header⟩

/-! ### Radiotap -/

/-- A radiotap field known here: its bit in the presence bitmap, its alignment and its width in
bytes. -/
structure RadioField where
  bit : Nat
  align : Nat
  width : Nat
  deriving DecidableEq, Repr, Inhabited

/-- The radiotap fields read, in bitmap order: TSFT, flags, rate, channel, FHSS, antenna signal and
noise, lock quality, the two TX attenuations, TX power, antenna, antenna signal and noise in dB, RX
and TX flags, RTS and data retries, MCS, A-MPDU status and VHT. -/
def radioFields : List RadioField :=
  [⟨0, 8, 8⟩, ⟨1, 1, 1⟩, ⟨2, 1, 1⟩, ⟨3, 2, 4⟩, ⟨4, 1, 2⟩, ⟨5, 1, 1⟩, ⟨6, 1, 1⟩, ⟨7, 2, 2⟩,
    ⟨8, 2, 2⟩, ⟨9, 2, 2⟩, ⟨10, 1, 1⟩, ⟨11, 1, 1⟩, ⟨12, 1, 1⟩, ⟨13, 1, 1⟩, ⟨14, 2, 2⟩,
    ⟨15, 2, 2⟩, ⟨16, 1, 1⟩, ⟨17, 1, 1⟩, ⟨19, 1, 3⟩, ⟨20, 4, 8⟩, ⟨21, 2, 12⟩]

/-- The offset just past a radiotap header's presence words, the first at `offset`: a word with bit
31 set is followed by another. -/
def presenceEnd (s : Slice) (offset : Nat) : Nat → Option Nat
  | 0 => none
  | fuel + 1 => do
    let w ← s.cut? offset (offset + 4)
    if (ByteOrder.little.read 4 w.bytes).testBit 31 then presenceEnd s (offset + 4) fuel
    else pure (offset + 4)

/-- The flags of a radiotap header (zero when absent), reading the fields `present` names from
`offset` on; none when a field leaves the frame. -/
def radioFlags (s : Slice) (present : Nat) : List RadioField → Nat → Nat → Option Nat
  | [], _, flags => some flags
  | f :: rest, offset, flags =>
    if !present.testBit f.bit then radioFlags s present rest offset flags
    else do
      let start := (offset + f.align - 1) / f.align * f.align
      let field ← s.cut? start (start + f.width)
      let flags := if f.bit = 1 then ByteOrder.big.read 1 field.bytes else flags
      radioFlags s present rest (start + f.width) flags

def unpad (p : Slice) : Option Slice := do
  let b0 ← p.byte? 0
  if b0 &&& 0x0C ≠ 0x08 then pure p
  else
    let b1 ← p.byte? 1
    let header := 24 + (if b0 &&& 0x8C = 0x88 then 2 else 0) + (if b1 % 4 = 3 then 2 else 0)
    if header % 4 ≠ 2 then pure p
    else if p.size < header + 2 then none
    else
      let l := p.toList
      pure ⟨l.take header ++ l.drop (header + 2) ++ p.bytes.drop (p.size - 2), p.size - 2⟩

def blockSizes : List Nat :=
  [8, 16, 24, 32, 48, 64, 80, 96, 112, 128, 144, 160, 176, 192, 208, 224, 240, 256, 288, 320,
    352, 384, 416, 448, 480, 512, 576, 640, 704, 768, 896, 1024, 1152, 1280, 1408, 1536, 1792,
    2048, 2304, 2688, 3072, 3200, 3456, 4096, 4864, 5376, 6144, 6528, 6784, 6912, 8192, 9472,
    9728, 10240, 10880, 12288, 13568, 14336, 16384, 18432, 19072, 20480, 21760, 24576, 27264,
    28672, 32768]

/-- The capacity of the buffer that four bytes appended to a full buffer of `n` bytes land in: twice
`n` below 256 bytes (but at least the new length), then a quarter more plus 192, rounded up to a
block size, or to whole 8192-byte pages past 32760 bytes. -/
def grownCapacity (n : Nat) : Nat :=
  let want := if n + 4 > 2 * n then n + 4 else if n < 256 then 2 * n else n + (n + 768) / 4
  if want ≤ 32760 then (blockSizes.find? (want ≤ ·)).getD want
  else (want + 8191) / 8192 * 8192

/-- A frame with four zero bytes standing in for its checksum, in a fresh buffer whose room past
them is zero. -/
def withChecksum (p : Slice) : Slice :=
  ⟨p.toList ++ List.replicate (grownCapacity p.size - p.size) 0, p.size + 4⟩

/-- Reads a radiotap header: the 802.11 frame after it, with its padding taken out and four zero
bytes standing in for its checksum as its flags say; none when a field leaves the frame or the frame
is too short for what the flags ask. -/
def radiotap (s : Slice) : Option Slice := do
  if s.size < 8 then none
  let data := s.toList
  let length := ByteOrder.little.read 2 (data.drop 2)
  let present := ByteOrder.little.read 4 (data.drop 4)
  let offset ← presenceEnd s 4 (s.bytes.length + 1)
  let flags ← radioFlags s present radioFields offset 0
  let frame ← s.from? length
  let frame ← if flags &&& 0x20 ≠ 0 then unpad frame else pure frame
  pure (if flags &&& 0x10 ≠ 0 then frame else withChecksum frame)

/-! ### Prism -/

/-- Reads a prism header: the 802.11 frame from its length on; none for another type or when its
values leave the frame. -/
def prism (s : Slice) : Option Slice := do
  let _ ← s.cut? 0 144
  let data := s.toList
  let frame ← s.from? (ByteOrder.little.read 2 (data.drop 4))
  let kind := ByteOrder.little.read 2 data
  if kind ≠ 0x41 && kind ≠ 0x44 then none
  pure frame

end Wireless

end DhcpDecoder
