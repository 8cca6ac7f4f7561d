import DhcpDecoder.Capture.ByteOrder
import DhcpDecoder.Capture.Savefile
import DhcpDecoder.Net.Address

/-!
Writing captures: DHCP payloads as Ethernet/IPv4/UDP frames in a classic pcap file.
-/
namespace DhcpDecoder

/-- A packet to write: its time in nanoseconds since the epoch, its endpoints when given, and its
payload. -/
structure OutgoingPacket where
  timeNanos : Int
  src : Option Endpoint := none
  dst : Option Endpoint := none
  payload : List UInt8
  deriving DecidableEq, Repr, Inhabited

inductive EndpointRole where
  | source
  | destination
  deriving DecidableEq, Repr, Inhabited

/-- Why a packet cannot be written: an endpoint that is not IPv4, with the index of the packet. -/
structure WriteError where
  index : Nat
  role : EndpointRole
  deriving DecidableEq, Repr, Inhabited

def WriteError.message (e : WriteError) : String :=
  let role := match e.role with
    | .source => "source"
    | .destination => "destination"
  "capture: encode packet " ++ toString e.index ++ ": Invalid " ++ role
    ++ " IPv4 address (address is IPv6)"

namespace Frame

def wordSum : List UInt8 → Nat
  | [] => 0
  | [b] => b.toNat * 256
  | a :: b :: rest => a.toNat * 256 + b.toNat + wordSum rest

def fold (n : Nat) : Nat → Nat
  | 0 => n
  | fuel + 1 => if n > 0xFFFF then fold (n / 65536 + n % 65536) fuel else n

def checksum (sum : Nat) : Nat :=
  0xFFFF - fold sum 8

def be16 (n : Nat) : List UInt8 := ByteOrder.big.write 2 n

def udpFrame (src dst : Ipv4 × UInt16) (payload : List UInt8) : List UInt8 :=
  let (srcIp, srcPort) := src
  let (dstIp, dstPort) := dst
  let udpLength := payload.length + 8
  let pseudo := wordSum srcIp.toBytes + wordSum dstIp.toBytes + 17 + udpLength % 65536
    + udpLength / 65536
  let udpHeader0 := be16 srcPort.toNat ++ be16 dstPort.toNat ++ be16 (udpLength % 65536) ++ [0, 0]
  let udpSum := checksum (pseudo + wordSum (udpHeader0 ++ payload))
  let udp := be16 srcPort.toNat ++ be16 dstPort.toNat ++ be16 (udpLength % 65536) ++ be16 udpSum
    ++ payload
  let ipLength := (udp.length + 20) % 65536
  let ipHeader0 := [0x45, 0] ++ be16 ipLength ++ [0, 0, 0, 0, 64, 17, 0, 0] ++ srcIp.toBytes
    ++ dstIp.toBytes
  let ipHeader := [0x45, 0] ++ be16 ipLength ++ [0, 0, 0, 0, 64, 17] ++ be16 (checksum (wordSum ipHeader0))
    ++ srcIp.toBytes ++ dstIp.toBytes
  let frame := [0xFF, 0xFF, 0xFF, 0xFF, 0xFF, 0xFF, 0x02, 0, 0, 0, 0, 1, 0x08, 0x00] ++ ipHeader ++ udp
  frame ++ List.replicate (60 - frame.length) 0

end Frame

def Endpoint.wire? (e : Endpoint) : Option (Ipv4 × UInt16) :=
  e.addr.wireIpv4?.map (·, e.port)

/-- The Ethernet/IPv4/UDP frame of a payload between two endpoints, or the role of the endpoint that
is not IPv4; the source is checked first. -/
def Frame.serialize (src dst : Endpoint) (payload : List UInt8) :
    Except EndpointRole (List UInt8) :=
  match src.wire?, dst.wire? with
  | none, _ => .error .source
  | _, none => .error .destination
  | some s, some d => .ok (Frame.udpFrame s d payload)

/-- The header of a written capture file: little-endian, microseconds, version 2.4, snapshot length
65535, link type Ethernet. -/
def captureHeader : List UInt8 :=
  ByteOrder.little.write 4 0xA1B2C3D4 ++ ByteOrder.little.write 2 2 ++ ByteOrder.little.write 2 4
    ++ List.replicate 8 0 ++ ByteOrder.little.write 4 65535 ++ ByteOrder.little.write 4 1

/-- The record of a frame captured at `nanos` nanoseconds since the epoch: seconds kept to 32 bits,
microseconds, and the frame's length twice. -/
def captureRecord (nanos : Int) (frame : List UInt8) : List UInt8 :=
  let secs := Int.fdiv nanos 1000000000
  let micros := (Int.fmod nanos 1000000000).toNat / 1000
  ByteOrder.little.write 4 (secs % 4294967296).toNat ++ ByteOrder.little.write 4 micros
    ++ ByteOrder.little.write 4 frame.length ++ ByteOrder.little.write 4 frame.length ++ frame

namespace OutgoingPacket

def source (p : OutgoingPacket) : Endpoint := p.src.getD ⟨.v4 Ipv4.zero, 68⟩

/-- The endpoint a packet is written to: its destination, `255.255.255.255:67` when it has none. -/
def destination (p : OutgoingPacket) : Endpoint := p.dst.getD ⟨.v4 Ipv4.broadcast, 67⟩

end OutgoingPacket

/-- What writing a capture relies on: the pcap writer's file header and its record of a frame
captured at a time in nanoseconds, and the serializer of a datagram's frame. -/
structure CaptureWriter where
  header : List UInt8
  record : Int → List UInt8 → List UInt8
  serialize : Endpoint → Endpoint → List UInt8 → Except EndpointRole (List UInt8)

namespace CaptureWriter

def write (w : CaptureWriter) (packets : List OutgoingPacket) : Except WriteError (List UInt8) :=
  go 0 packets w.header
where
  go (i : Nat) : List OutgoingPacket → List UInt8 → Except WriteError (List UInt8)
    | [], acc => .ok acc
    | p :: rest, acc =>
      match w.serialize p.source p.destination p.payload with
      | .error role => .error ⟨i, role⟩
      | .ok frame => go (i + 1) rest (acc ++ w.record p.timeNanos frame)

def standard : CaptureWriter := ⟨captureHeader, captureRecord, Frame.serialize⟩

end CaptureWriter

def writeCapture (packets : List OutgoingPacket) : Except WriteError (List UInt8) :=
  CaptureWriter.standard.write packets

end DhcpDecoder
