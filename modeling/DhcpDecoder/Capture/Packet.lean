import DhcpDecoder.Capture.Layers
import DhcpDecoder.Capture.Savefile
import DhcpDecoder.Log.Event

/-!
DHCP packets from a capture: the UDP datagrams from or to port 67 or 68, in capture order, with
their time and, under IPv4, their endpoints.
-/

namespace DhcpDecoder

/-- A DHCP datagram from a capture: when it was captured, its endpoints when IPv4 carried it, and
its payload. -/
structure CapturedPacket where
  time : Timestamp
  endpoints : Option (Endpoint × Endpoint)
  payload : List UInt8
  deriving DecidableEq, Repr, Inhabited

def CapturedPacket.source (p : CapturedPacket) : String :=
  match p.endpoints with
  | some (src, dst) => src.text ++ "->" ++ dst.text
  | none => "unknown"

def isDhcpPort (port : UInt16) : Bool := port = 67 || port = 68

/-- What reading a capture relies on: the classic pcap reader and the pcapng reader, each giving a
file's link type and records, and the decoder of a frame of a link type down to its UDP datagram. -/
structure CaptureReader where
  classic : List UInt8 → Except OpenFault Savefile
  pcapng : List UInt8 → Except OpenFault Savefile
  udpDatagram : Nat → List UInt8 → Option UdpDatagram

/-- What reading a capture gives: the DHCP packets, the number of records read, and the error that
stopped reading, if any. -/
structure CaptureRead where
  packets : List CapturedPacket
  seen : Nat
  error : Option CaptureError
  deriving Inhabited

namespace CaptureReader

/-- Opens a capture file: pcapng when it starts with the section header type, classic otherwise. -/
def open? (r : CaptureReader) (bytes : List UInt8) : Except CaptureError Savefile :=
  if bytes.length < 4 then .error .noMagic
  else
    let opened := if bytes.take 4 = [0x0A, 0x0D, 0x0D, 0x0A] then r.pcapng bytes else r.classic bytes
    opened.mapError CaptureError.unopenable

def dhcpPacket? (r : CaptureReader) (linkType : Nat) (rec : CaptureRecord) :
    Option CapturedPacket := do
  let d ← r.udpDatagram linkType rec.data
  if !(isDhcpPort d.srcPort || isDhcpPort d.dstPort) then none
  else
    let endpoints := d.ipv4.map fun (src, dst) => (⟨.v4 src, d.srcPort⟩, ⟨.v4 dst, d.dstPort⟩)
    some ⟨rec.time, endpoints, d.payload⟩

def read (r : CaptureReader) (bytes : List UInt8) : CaptureRead :=
  match r.open? bytes with
  | .error e => ⟨[], 0, some e⟩
  | .ok f =>
    let packets := f.records.filterMap (r.dhcpPacket? f.linkType)
    ⟨packets, f.records.length, f.fault.map (.badRecord f.records.length)⟩

def standard : CaptureReader := ⟨Savefile.classicFile, Savefile.pcapng, udpDatagram?⟩

end CaptureReader

def CaptureRead.ofBytes (bytes : List UInt8) : CaptureRead :=
  CaptureReader.standard.read bytes

/-- The events of reading a capture: a debug event with the records read and the packets kept, when
reading went to the end. -/
def CaptureRead.events (r : CaptureRead) : List Log.Event :=
  if r.error.isSome then []
  else [⟨.debug, "capture.FromPCAP done",
    [Log.natField "packets" r.seen, Log.natField "dhcp" r.packets.length]⟩]

end DhcpDecoder
