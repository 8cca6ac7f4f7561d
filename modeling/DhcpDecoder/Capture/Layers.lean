import DhcpDecoder.Capture.ByteOrder
import DhcpDecoder.Capture.Slice
import DhcpDecoder.Capture.Wireless
import DhcpDecoder.Net.Address

/-!
Finding the UDP datagram inside a captured frame.
-/

namespace DhcpDecoder

/-- A UDP datagram found in a frame: the addresses of the first IPv4 layer above it, if any, its
ports and its payload. -/
structure UdpDatagram where
  ipv4 : Option (Ipv4 × Ipv4)
  srcPort : UInt16
  dstPort : UInt16
  payload : List UInt8
  deriving DecidableEq, Repr, Inhabited

namespace Layers

inductive Layer where
  | ethernet
  | llc
  | snap
  | dot1q
  | ppp
  | pppoe
  | mpls
  | labelled
  | gre
  | etherIp
  | erspan
  | fddi
  | loopback
  | cooked
  | pflog
  | rawIp
  | dot11
  | radiotap
  | prism
  | ipv4
  | ipv6
  | hopByHop
  | destination
  | routing
  | auth
  | udp
  deriving DecidableEq, Repr, Inhabited

def etherLayer (t : Nat) : Option Layer :=
  if t = 0 then some .llc
  else if t = 0x0800 then some .ipv4
  else if t = 0x86DD then some .ipv6
  else if t = 0x8100 || t = 0x88A8 then some .dot1q
  else if t = 0x880B then some .ppp
  else if t = 0x8863 || t = 0x8864 then some .pppoe
  else if t = 0x8847 || t = 0x8848 then some .mpls
  else if t = 0x6558 then some .ethernet
  else if t = 0x88BE then some .erspan
  else none

def ipLayer (p : Nat) : Option Layer :=
  if p = 0 then some .hopByHop
  else if p = 4 || p = 94 then some .ipv4
  else if p = 17 then some .udp
  else if p = 41 then some .ipv6
  else if p = 43 then some .routing
  else if p = 47 then some .gre
  else if p = 51 then some .auth
  else if p = 60 then some .destination
  else if p = 97 then some .etherIp
  else if p = 137 then some .mpls
  else none

def pppLayer (t : Nat) : Option Layer :=
  if t = 0x21 then some .ipv4
  else if t = 0x57 then some .ipv6
  else if t = 0x281 || t = 0x283 then some .mpls
  else none

def familyLayer (f : Nat) : Option Layer :=
  if f = 2 then some .ipv4
  else if f = 10 || f = 24 || f = 28 || f = 30 then some .ipv6
  else none

/-- The layer that starts a frame of a link type (its low byte counts): 0 and 108 loopback, 1
Ethernet, 9 PPP, 10 FDDI, 12 and 101 raw IP, 113 Linux cooked capture, 117 PFLog. -/
def linkLayer (linkType : Nat) : Option Layer :=
  match linkType % 256 with
  | 0 | 108 => some .loopback
  | 1 => some .ethernet
  | 9 => some .ppp
  | 10 => some .fddi
  | 12 | 101 => some .rawIp
  | 113 => some .cooked
  | 105 => some .dot11
  | 117 => some .pflog
  | 119 => some .prism
  | 127 => some .radiotap
  | _ => none

def addressAt (bs : List UInt8) (at_ : Nat) : Ipv4 :=
  match bs.drop at_ with
  | a :: b :: c :: d :: _ => ⟨a, b, c, d⟩
  | _ => Ipv4.zero

def udp (outer : Option (Ipv4 × Ipv4)) (s : Slice) : Option UdpDatagram :=
  if s.size < 8 then none
  else
    let data := s.toList
    let src := (ByteOrder.big.read 2 data).toUInt16
    let dst := (ByteOrder.big.read 2 (data.drop 2)).toUInt16
    let len := ByteOrder.big.read 2 (data.drop 4)
    let payload :=
      if len ≥ 8 then (data.take len).drop 8
      else if len = 0 then data.drop 8
      else []
    some ⟨outer, src, dst, payload⟩

/-- Whether the options of an IPv4 header are well formed: end, no-operation, or a type, a length
above two and within the header, and data. -/
def optionsOk : List UInt8 → Bool
  | [] => true
  | 0 :: _ => true
  | 1 :: rest => optionsOk rest
  | [_] => false
  | _ :: len :: rest =>
    if len.toNat ≤ 2 || rest.length + 2 < len.toNat then false
    else optionsOk (rest.drop (len.toNat - 2))
termination_by bs => bs.length
decreasing_by all_goals simp_wf; all_goals omega

def ipv4 (s : Slice) : Option (Layer × Slice) := do
  if s.size < 20 then none
  let data := s.toList
  let ihl := (data.headD 0).toNat % 16
  let total := ByteOrder.big.read 2 (data.drop 2)
  let total := if total = 0 then s.size % 65536 else total
  let flagsFrag := ByteOrder.big.read 2 (data.drop 6)
  if total < 20 || ihl < 5 || ihl * 4 > total then none
  if s.size < total && ihl * 4 > s.size then none
  let s := s.upTo total
  if !optionsOk ((s.toList.take (ihl * 4)).drop 20) then none
  if flagsFrag / 8192 % 2 = 1 || flagsFrag % 8192 != 0 then none
  let next ← ipLayer (ByteOrder.big.read 1 (data.drop 9))
  let payload ← s.from? (ihl * 4)
  pure (next, payload)

def extension (s : Slice) : Option (Nat × Nat) := do
  if s.size < 2 then none
  let next ← s.byte? 0
  let len := (← s.byte? 1) * 8 + 8
  if s.size < len then none
  pure (next, len)

/-- The type-length-value options in the bytes of an IPv6 extension header after its first two: a
zero type is one byte of padding; otherwise a length byte and that much data follow. -/
def tlvOptions : List UInt8 → Option (List (Nat × List UInt8))
  | [] => some []
  | 0 :: rest => ((0, []) :: ·) <$> tlvOptions rest
  | [_] => none
  | t :: l :: rest =>
    if rest.length < l.toNat then none
    else ((t.toNat, rest.take l.toNat) :: ·) <$> tlvOptions (rest.drop l.toNat)
termination_by bs => bs.length
decreasing_by
  all_goals simp only [List.length_cons, List.length_drop]
  all_goals omega

/-- The jumbo payload length a hop-by-hop header's options give, if they have the option: its data
must be four bytes holding more than 65535. -/
def jumboLength (opts : List (Nat × List UInt8)) : Option (Option Nat) :=
  match opts.find? (·.1 == 0xC2) with
  | none => some none
  | some (_, d) =>
    if d.length ≠ 4 then none
    else
      let v := ByteOrder.big.read 4 d
      if v ≤ 65535 then none else some (some v)

def ipv6 (s : Slice) : Option (Layer × Slice) := do
  if s.size < 40 then none
  let data := s.toList
  let len := ByteOrder.big.read 2 (data.drop 4)
  let nextHeader := ByteOrder.big.read 1 (data.drop 6)
  let payload ← s.from? 40
  if nextHeader = 0 then
    let (hbhNext, hbhLen) ← extension payload
    let opts ← tlvOptions ((payload.toList.take hbhLen).drop 2)
    let jumbo ← jumboLength opts
    if jumbo.isSome && len ≠ 0 then none
    if jumbo.isNone && len = 0 then none
    pure (← ipLayer hbhNext, ← payload.from? hbhLen)
  else
    if len = 0 then none
    pure (← ipLayer nextHeader, payload.upTo len)

def optionsHeader (s : Slice) : Option (Layer × Slice) := do
  let (next, len) ← extension s
  let _ ← tlvOptions ((s.toList.take len).drop 2)
  pure (← ipLayer next, ← s.from? len)

def routing (s : Slice) : Option (Layer × Slice) := do
  let (next, len) ← extension s
  let kind ← s.byte? 2
  let _ ← s.byte? 3
  let _ ← s.cut? 4 8
  if kind ≠ 0 || (len - 8) % 16 ≠ 0 then none
  pure (← ipLayer next, ← s.from? len)

def auth (s : Slice) : Option (Layer × Slice) := do
  if s.size < 12 then none
  let next ← s.byte? 0
  let len := ((← s.byte? 1) + 2) * 4
  if s.size < len then none
  let _ ← s.cut? 12 len
  pure (← ipLayer next, ← s.from? len)

def ethernet (s : Slice) : Option (Layer × Slice) := do
  if s.size < 14 then none
  let t := ByteOrder.big.read 2 (s.toList.drop 12)
  let payload ← s.from? 14
  if t < 0x0600 then pure (.llc, payload.upTo t)
  else pure (← etherLayer t, payload)

def llc (s : Slice) : Option (Layer × Slice) := do
  if s.size < 3 then none
  let dsap := (← s.byte? 0) / 2 * 2
  let ssap := (← s.byte? 1) / 2 * 2
  let control ← s.byte? 2
  let header ← if control % 2 = 0 || control % 4 = 1 then
      if s.size < 4 then none else pure 4
    else pure 3
  if dsap = 0xAA && ssap = 0xAA then pure (.snap, ← s.from? header) else none

def snap (s : Slice) : Option (Layer × Slice) := do
  if s.size < 5 then none
  pure (← etherLayer (ByteOrder.big.read 2 (s.toList.drop 3)), ← s.from? 5)

def dot1q (s : Slice) : Option (Layer × Slice) := do
  if s.size < 4 then none
  pure (← etherLayer (ByteOrder.big.read 2 (s.toList.drop 2)), ← s.from? 4)

/-- Reads a PPP header: an optional `ff 03`, then a protocol of one byte when it is odd and of two
bytes (the second odd) otherwise. -/
def ppp (s : Slice) : Option (Layer × Slice) := do
  let b0 ← s.byte? 0
  let offset ← if b0 = 0xFF then do
      let b1 ← s.byte? 1
      pure (if b1 = 3 then 2 else 0)
    else pure 0
  let t0 ← s.byte? offset
  if t0 % 2 = 0 then
    let t1 ← s.byte? (offset + 1)
    if t1 % 2 = 0 then none
    pure (← pppLayer (t0 * 256 + t1), ← s.from? (offset + 2))
  else pure (← pppLayer t0, ← s.from? (offset + 1))

/-- Reads a PPPoE header: a session (code 0) carries PPP in the length it gives, counted in 16 bits.
-/
def pppoe (s : Slice) : Option (Layer × Slice) := do
  let _ ← s.byte? 0
  let code ← s.byte? 1
  let _ ← s.word? 2 2
  let len ← s.word? 4 2
  let _ ← s.cut? 0 6
  let payload ← s.cut? 6 ((6 + len) % 65536)
  if code = 0 then pure (.ppp, payload) else none

def mpls (s : Slice) : Option (Layer × Slice) := do
  let label ← s.word? 0 4
  let payload ← s.from? 4
  pure (if label / 256 % 2 = 1 then .labelled else .mpls, payload)

/-- Guesses the payload under the bottom MPLS label from its first byte: `45`–`4f` is IPv4,
`60`–`6f` is IPv6. -/
def labelled (s : Slice) : Option (Layer × Slice) := do
  let b ← s.byte? 0
  if 0x45 ≤ b && b ≤ 0x4F then pure (.ipv4, s)
  else if 0x60 ≤ b && b ≤ 0x6F then pure (.ipv6, s)
  else none

/-- The end of the source route entries of a GRE header from `offset`, up to the entry with family
and length zero; at most `fuel` entries. -/
def greRoutes (s : Slice) (offset : Nat) : Nat → Option Nat
  | 0 => none
  | fuel + 1 => do
    let family ← s.word? offset 2
    let _ ← s.byte? (offset + 2)
    let len ← s.byte? (offset + 3)
    let _ ← s.cut? (offset + 4) (offset + 4 + len)
    if family = 0 && len = 0 then pure (offset + 4 + len)
    else greRoutes s (offset + 4 + len) fuel

/-- Reads a GRE header: flags for a checksum (or routing), key, sequence number, source routes and
acknowledgment say which optional fields follow. -/
def gre (s : Slice) : Option (Layer × Slice) := do
  let b0 ← s.byte? 0
  let b1 ← s.byte? 1
  let proto ← s.word? 2 2
  let checksum := b0 / 128 % 2 = 1
  let routed := b0 / 64 % 2 = 1
  let mut offset := 4
  if checksum || routed then
    let _ ← s.word? offset 4
    offset := offset + 4
  if b0 / 32 % 2 = 1 then
    let _ ← s.word? offset 4
    offset := offset + 4
  if b0 / 16 % 2 = 1 then
    let _ ← s.word? offset 4
    offset := offset + 4
  if routed then offset ← greRoutes s offset (s.bytes.length + 1)
  if b1 / 128 % 2 = 1 then
    let _ ← s.word? offset 4
    offset := offset + 4
  let _ ← s.cut? 0 offset
  pure (← etherLayer proto, ← s.from? offset)

def etherIp (s : Slice) : Option (Layer × Slice) := do
  let _ ← s.byte? 0
  let _ ← s.cut? 0 2
  pure (.ethernet, ← s.from? 2)

def erspan (s : Slice) : Option (Layer × Slice) := do
  let _ ← s.byte? 0
  let _ ← s.byte? 2
  let _ ← s.cut? 0 8
  pure (.ethernet, ← s.from? 8)

def fddi (s : Slice) : Option (Layer × Slice) := do
  let fc ← s.byte? 0
  let _ ← s.cut? 0 13
  let payload ← s.from? 13
  if fc / 8 * 8 = 0x50 then pure (.llc, payload) else none

/-- Reads a loopback header: a protocol family of four bytes, big-endian when the first two are zero
and little-endian otherwise, below 256. -/
def loopback (s : Slice) : Option (Layer × Slice) := do
  if s.size < 4 then none
  let data := s.toList
  let fam := if data.take 2 = [0, 0] then ByteOrder.big.read 4 data
    else ByteOrder.little.read 4 data
  if fam > 255 then none
  pure (← familyLayer fam, ← s.from? 4)

/-- Reads a Linux cooked-capture header, whose address (its length counted in 16 bits) must lie
within the frame. -/
def cooked (s : Slice) : Option (Layer × Slice) := do
  if s.size < 16 then none
  let data := s.toList
  let _ ← s.cut? 6 ((ByteOrder.big.read 2 (data.drop 4) + 6) % 65536)
  pure (← etherLayer (ByteOrder.big.read 2 (data.drop 14)), ← s.from? 16)

/-- Reads a PFLog header: at least 61 bytes, a length three short of a multiple of four, and the
protocol family of the packet. -/
def pflog (s : Slice) : Option (Layer × Slice) := do
  if s.size < 61 then none
  let len ← s.byte? 0
  let fam ← s.byte? 1
  if len % 4 ≠ 1 || s.size < len + 3 then none
  pure (← familyLayer fam, ← s.from? (len + 3))

def rawIp (s : Slice) : Option (Layer × Slice) := do
  let b ← s.byte? 0
  if b / 16 = 4 then pure (.ipv4, s)
  else if b / 16 = 6 then pure (.ipv6, s)
  else none

def step : Layer → Slice → Option (Layer × Slice)
  | .ethernet, s => ethernet s
  | .llc, s => llc s
  | .snap, s => snap s
  | .dot1q, s => dot1q s
  | .ppp, s => ppp s
  | .pppoe, s => pppoe s
  | .mpls, s => mpls s
  | .labelled, s => labelled s
  | .gre, s => gre s
  | .etherIp, s => etherIp s
  | .erspan, s => erspan s
  | .fddi, s => fddi s
  | .loopback, s => loopback s
  | .cooked, s => cooked s
  | .pflog, s => pflog s
  | .rawIp, s => rawIp s
  | .dot11, s => (.llc, ·) <$> Wireless.dot11 s
  | .radiotap, s => (.dot11, ·) <$> Wireless.radiotap s
  | .prism, s => (.dot11, ·) <$> Wireless.prism s
  | .ipv4, s => ipv4 s
  | .ipv6, s => ipv6 s
  | .hopByHop, s => optionsHeader s
  | .destination, s => optionsHeader s
  | .routing, s => routing s
  | .auth, s => auth s
  | .udp, _ => none

/-- Reads layers from `layer` on down to a UDP datagram, keeping the addresses of the first IPv4
layer; at most `fuel` layers. -/
def walk (outer : Option (Ipv4 × Ipv4)) (layer : Layer) (s : Slice) : Nat → Option UdpDatagram
  | 0 => none
  | fuel + 1 =>
    if s.size = 0 then none
    else if layer = .udp then udp outer s
    else
      let outer := if layer = .ipv4 && outer.isNone && s.size ≥ 20 then
          some (addressAt s.toList 12, addressAt s.toList 16)
        else outer
      match step layer s with
      | some (next, inner) => walk outer next inner fuel
      | none => none

end Layers

def udpDatagram? (linkType : Nat) (frame : List UInt8) : Option UdpDatagram := do
  let layer ← Layers.linkLayer linkType
  Layers.walk none layer (Slice.ofList frame) (frame.length + 2)

end DhcpDecoder
