import Mathlib
import DhcpDecoder.Capture.Writer
import DhcpDecoder.Capture.Packet

/-!
Captures written and read back, for any pcap writer and reader and any frame serializer and
decoder that keep to the classic microsecond format and the standard Ethernet/IPv4/UDP headers
(`CaptureReader.read_write`); the standard ones do.
-/

namespace DhcpDecoder

namespace ByteOrder

theorem foldl_value (init : Nat) (l : List UInt8) :
    l.foldl (fun acc b => acc * 256 + b.toNat) init = init * 256 ^ l.length + bigValue l := by
  induction l generalizing init with
  | nil => simp [bigValue]
  | cons x l ih =>
    simp only [List.foldl_cons, bigValue] at ih ⊢
    rw [ih, ih (0 * 256 + x.toNat), List.length_cons, pow_succ]
    ring

theorem bigValue_cons (x : UInt8) (l : List UInt8) :
    bigValue (x :: l) = x.toNat * 256 ^ l.length + bigValue l := by
  rw [bigValue, List.foldl_cons, foldl_value]
  simp

theorem littleBytes_succ (w v : Nat) :
    littleBytes (w + 1) v = littleBytes w v ++ [(v / 256 ^ w % 256).toUInt8] := by
  simp [littleBytes, List.range_succ, Nat.pow_eq]

theorem bigValue_reverse_littleBytes (w v : Nat) :
    bigValue (littleBytes w v).reverse = v % 256 ^ w := by
  induction w with
  | zero => simp [littleBytes, bigValue, Nat.mod_one]
  | succ w ih =>
    -- the byte of weight `256 ^ w` comes first once the bytes are reversed
    rw [littleBytes_succ, List.reverse_append, List.reverse_singleton, List.singleton_append,
      bigValue_cons, ih, List.length_reverse, littleBytes_length, Nat.mod_pow_succ]
    have hbyte : (v / 256 ^ w % 256).toUInt8.toNat = v / 256 ^ w % 256 := by simp
    rw [hbyte]
    ring

theorem read_write_append (o : ByteOrder) (w v : Nat) (rest : List UInt8) :
    o.read w (o.write w v ++ rest) = v % 256 ^ w := by
  cases o with
  | little =>
    simp only [read, write, List.take_left' (littleBytes_length w v)]
    exact bigValue_reverse_littleBytes w v
  | big =>
    simp only [read, write]
    rw [List.take_left' (by rw [List.length_reverse, littleBytes_length])]
    exact bigValue_reverse_littleBytes w v

end ByteOrder

/-! ### Standard headers -/

namespace Frame

/-- The Ethernet header of a written frame: broadcast destination, source `02:00:00:00:00:01`, type
IPv4. -/
def ethHeader : List UInt8 :=
  [0xFF, 0xFF, 0xFF, 0xFF, 0xFF, 0xFF, 0x02, 0, 0, 0, 0, 1, 0x08, 0x00]

/-- The IPv4 header around a UDP datagram of `m` bytes: no options, identification 0, no
fragmentation, time to live 64, protocol UDP. -/
def ipv4Header (m check : Nat) (src dst : Ipv4) : List UInt8 :=
  [0x45, 0] ++ be16 (20 + m) ++ [0, 0, 0, 0, 64, 17] ++ be16 check ++ src.toBytes ++ dst.toBytes

def udpHeader (src dst : UInt16) (len check : Nat) : List UInt8 :=
  be16 src.toNat ++ be16 dst.toNat ++ be16 len ++ be16 check

/-- A frame with the standard headers between two IPv4 endpoints, any checksums, and any bytes after
the datagram. -/
def layout (src dst : Ipv4 × UInt16) (ipCheck udpCheck : Nat) (payload trailer : List UInt8) :
    List UInt8 :=
  ethHeader ++ (ipv4Header (payload.length + 8) ipCheck src.1 dst.1 ++
    (udpHeader src.2 dst.2 (payload.length + 8) udpCheck ++ payload ++ trailer))

theorem be16_eq (n : Nat) : be16 n = [(n / 256 % 256).toUInt8, (n % 256).toUInt8] := by
  simp [be16, ByteOrder.write, ByteOrder.littleBytes, List.range_succ]

theorem read_pair {n : Nat} (h : n < 65536) (rest : List UInt8) :
    ByteOrder.big.read 2 ((n / 256 % 256).toUInt8 :: (n % 256).toUInt8 :: rest) = n := by
  simp [ByteOrder.read, ByteOrder.bigValue]
  omega

theorem read_be16 {n : Nat} (h : n < 65536) (rest : List UInt8) :
    ByteOrder.big.read 2 (be16 n ++ rest) = n := by
  rw [be16_eq]
  exact read_pair h rest

theorem length_ipv4Header (m check : Nat) (src dst : Ipv4) :
    (ipv4Header m check src dst).length = 20 := by
  simp [ipv4Header, be16_eq, Ipv4.toBytes]

theorem length_udpHeader (src dst : UInt16) (len check : Nat) :
    (udpHeader src dst len check).length = 8 := by
  simp [udpHeader, be16_eq]

theorem length_layout_padded (src dst : Ipv4 × UInt16) (ipCheck udpCheck : Nat)
    (payload : List UInt8) :
    (layout src dst ipCheck udpCheck payload (List.replicate (18 - payload.length) 0)).length =
      max 60 (payload.length + 42) := by
  simp [layout, ethHeader, length_ipv4Header, length_udpHeader]
  omega

end Frame

/-! ### What the libraries are taken to do -/

/-- The serializer lays out the standard headers between IPv4 endpoints, lengths filled in and
checksums of its own, and pads frames shorter than 60 bytes with zeros. -/
def CaptureWriter.SerializesStandard (w : CaptureWriter) : Prop :=
  ∀ (src dst : Endpoint) (s d : Ipv4) (payload : List UInt8), src.addr = .v4 s →
    dst.addr = .v4 d → payload.length + 28 ≤ 65535 → ∃ ipCheck udpCheck,
      w.serialize src dst payload = .ok (Frame.layout (s, src.port) (d, dst.port) ipCheck udpCheck
        payload (List.replicate (18 - payload.length) 0))

namespace CaptureReader

/-- The decoder reads an Ethernet frame with the standard headers as the datagram between the IPv4
addresses, cut at the IPv4 total length whatever follows it. -/
def DecodesStandard (r : CaptureReader) : Prop :=
  ∀ (src dst : Ipv4 × UInt16) (ipCheck udpCheck : Nat) (payload trailer : List UInt8),
    payload.length + 28 ≤ 65535 →
      r.udpDatagram 1 (Frame.layout src dst ipCheck udpCheck payload trailer) =
        some ⟨some (src.1, dst.1), src.2, dst.2, payload⟩

/-- The classic reader reads back, as Ethernet frames, the records the writer writes after its
header, for frames within the snapshot length 65535 and times whose seconds fit in 32 bits, each
time cut to whole microseconds. -/
def ReadsRecordsOf (r : CaptureReader) (w : CaptureWriter) : Prop :=
  ∀ xs : List (Int × List UInt8),
    (∀ x ∈ xs, 0 ≤ x.1 ∧ x.1 < 4294967296000000000 ∧ x.2.length ≤ 65535) →
      r.classic (w.header ++ xs.flatMap fun x => w.record x.1 x.2) =
        .ok ⟨1, xs.map fun x => ⟨Timestamp.ofNanos (x.1 / 1000 * 1000), x.2⟩, none⟩

end CaptureReader

/-! ### The standard libraries -/

@[simp] theorem Slice.toList_ofList (l : List UInt8) : (Slice.ofList l).toList = l := by
  simp [Slice.ofList, Slice.toList]

namespace Layers

theorem ethernet_written (rest : List UInt8) :
    ethernet (Slice.ofList (Frame.ethHeader ++ rest)) = some (.ipv4, Slice.ofList rest) := by
  have ht : ByteOrder.big.read 2 ((Frame.ethHeader ++ rest).drop 12) = 0x0800 := by
    simp [Frame.ethHeader, ByteOrder.read, ByteOrder.bigValue]
  simp only [ethernet, Slice.toList_ofList, ht]
  simp [Slice.ofList, Slice.from?, etherLayer, Frame.ethHeader]

theorem ipv4_written (m check : Nat) (src dst : Ipv4) {rest : List UInt8} (hm : 20 + m < 65536)
    (hrest : m ≤ rest.length) :
    ipv4 (Slice.ofList (Frame.ipv4Header m check src dst ++ rest)) = some (.udp, ⟨rest, m⟩) := by
  have hhead : (Frame.ipv4Header m check src dst ++ rest).headD 0 = 0x45 := rfl
  have htotal : ByteOrder.big.read 2 ((Frame.ipv4Header m check src dst ++ rest).drop 2) = 20 + m := by
    simp only [Frame.ipv4Header, List.append_assoc, List.cons_append, List.nil_append,
      List.drop_succ_cons, List.drop_zero]
    exact Frame.read_be16 hm _
  have hflags : ByteOrder.big.read 2 ((Frame.ipv4Header m check src dst ++ rest).drop 6) = 0 := by
    simp [Frame.ipv4Header, Frame.be16_eq, ByteOrder.read, ByteOrder.bigValue]
  have hproto : ByteOrder.big.read 1 ((Frame.ipv4Header m check src dst ++ rest).drop 9) = 17 := by
    simp [Frame.ipv4Header, Frame.be16_eq, ByteOrder.read, ByteOrder.bigValue]
  have hlen := Frame.length_ipv4Header m check src dst
  have hsize : (Slice.ofList (Frame.ipv4Header m check src dst ++ rest)).size = 20 + rest.length := by
    simp [Slice.ofList, hlen]
  -- cut at the total length or not, the slice ends where the datagram does
  have hup : (Slice.ofList (Frame.ipv4Header m check src dst ++ rest)).upTo (20 + m) =
      ⟨Frame.ipv4Header m check src dst ++ rest, 20 + m⟩ := by
    unfold Slice.upTo
    split
    · rfl
    · rename_i hge
      simp only [Slice.ofList, Slice.mk.injEq, true_and, List.length_append, hlen]
      simp only [Slice.ofList, List.length_append, hlen] at hge
      omega
  have hopts : ((Slice.toList ⟨Frame.ipv4Header m check src dst ++ rest, 20 + m⟩).take 20).drop 20 =
      [] := by
    simp [Slice.toList, List.take_take, hlen]
  simp only [ipv4, Slice.toList_ofList, hhead, htotal, hflags, hproto, hsize]
  simp [hup, hopts, optionsOk, ipLayer, Slice.from?, List.drop_left' hlen]

theorem udp_written (outer : Option (Ipv4 × Ipv4)) (src dst : UInt16) (check : Nat)
    {payload : List UInt8} (pad : List UInt8) (hp : payload.length + 8 < 65536) :
    udp outer ⟨Frame.udpHeader src dst (payload.length + 8) check ++ payload ++ pad,
      payload.length + 8⟩ = some ⟨outer, src, dst, payload⟩ := by
  have hlen := Frame.length_udpHeader src dst (payload.length + 8) check
  have hdata : Slice.toList ⟨Frame.udpHeader src dst (payload.length + 8) check ++ payload ++ pad,
      payload.length + 8⟩ = Frame.udpHeader src dst (payload.length + 8) check ++ payload := by
    simp [Slice.toList, List.take_append, hlen]
  have hsrc : ByteOrder.big.read 2 (Frame.udpHeader src dst (payload.length + 8) check ++ payload) =
      src.toNat := by
    rw [Frame.udpHeader, List.append_assoc, List.append_assoc, List.append_assoc]
    exact Frame.read_be16 src.toNat_lt _
  have hdst : ByteOrder.big.read 2
      ((Frame.udpHeader src dst (payload.length + 8) check ++ payload).drop 2) = dst.toNat := by
    simp only [Frame.udpHeader, Frame.be16_eq, List.cons_append, List.nil_append, List.drop_succ_cons,
      List.drop_zero]
    exact Frame.read_pair dst.toNat_lt _
  have hlength : ByteOrder.big.read 2
      ((Frame.udpHeader src dst (payload.length + 8) check ++ payload).drop 4) = payload.length + 8 := by
    simp only [Frame.udpHeader, Frame.be16_eq, List.cons_append, List.nil_append, List.drop_succ_cons,
      List.drop_zero]
    exact Frame.read_pair hp _
  simp only [udp, hdata, hsrc, hdst, hlength]
  simp [List.take_append, hlen]

theorem addressAt_written (m check : Nat) (src dst : Ipv4) (rest : List UInt8) :
    addressAt (Frame.ipv4Header m check src dst ++ rest) 12 = src ∧
      addressAt (Frame.ipv4Header m check src dst ++ rest) 16 = dst := by
  cases src
  cases dst
  simp [addressAt, Frame.ipv4Header, Frame.be16_eq, Ipv4.toBytes]

end Layers


theorem udpDatagram?_layout : CaptureReader.standard.DecodesStandard := by
  rintro ⟨src, srcPort⟩ ⟨dst, dstPort⟩ c1 c2 payload pad hp
  change udpDatagram? 1 (Frame.ethHeader ++ (Frame.ipv4Header (payload.length + 8) c1 src dst ++
      (Frame.udpHeader srcPort dstPort (payload.length + 8) c2 ++ payload ++ pad))) = _
  -- the UDP datagram with what trails it, and the IPv4 packet around them
  set udp := Frame.udpHeader srcPort dstPort (payload.length + 8) c2 ++ payload ++ pad
  set ip := Frame.ipv4Header (payload.length + 8) c1 src dst ++ udp with hip
  have hlen : udp.length = payload.length + 8 + pad.length := by
    simp [udp, Frame.length_udpHeader]
    omega
  have hsize : (Slice.ofList ip).size = 20 + udp.length := by
    simp [ip, Slice.ofList, Frame.length_ipv4Header]
  have hipv4 : Layers.ipv4 (Slice.ofList ip) = some (.udp, ⟨udp, payload.length + 8⟩) := by
    rw [hip]
    exact Layers.ipv4_written _ c1 src dst (by omega) (by omega)
  have hudpRead := Layers.udp_written (some (src, dst)) srcPort dstPort c2 pad
    (by omega : payload.length + 8 < 65536)
  have haddr : Layers.addressAt ip 12 = src ∧ Layers.addressAt ip 16 = dst :=
    Layers.addressAt_written (payload.length + 8) c1 src dst udp
  -- three layers are read, and the frame is long enough to give the fuel for them
  obtain ⟨k, hk⟩ : ∃ k, (Frame.ethHeader ++ ip).length + 2 = k + 3 :=
    ⟨ip.length + 13, by simp [Frame.ethHeader]⟩
  have hl1 : Layers.linkLayer 1 = some .ethernet := rfl
  have hs0 : (Slice.ofList (Frame.ethHeader ++ ip)).size ≠ 0 := by
    simp [Slice.ofList, Frame.ethHeader]
  simp only [udpDatagram?, hl1, Option.bind_eq_bind, Option.bind_some, hk]
  rw [Layers.walk]
  simp only [hs0, reduceCtorEq, if_false, decide_false, Bool.false_and, Layers.step,
    Layers.ethernet_written]
  rw [Layers.walk]
  -- the IPv4 layer is the first one, so its addresses are the datagram's
  simp only [show (Slice.ofList ip).size ≠ 0 by omega, show (Slice.ofList ip).size ≥ 20 by omega,
    reduceCtorEq, if_false, decide_true, Option.isNone_none, Bool.true_and, if_true, Layers.step,
    Slice.toList_ofList, haddr.1, haddr.2, hipv4]
  rw [Layers.walk, if_neg (by simp), if_pos rfl, hudpRead]

theorem udpFrame_layout (src dst : Ipv4) (srcPort dstPort : UInt16) {payload : List UInt8}
    (hp : payload.length + 28 ≤ 65535) :
    ∃ c1 c2, Frame.udpFrame (src, srcPort) (dst, dstPort) payload =
      Frame.layout (src, srcPort) (dst, dstPort) c1 c2 payload
        (List.replicate (18 - payload.length) 0) := by
  have h1 : (payload.length + 8) % 65536 = payload.length + 8 := Nat.mod_eq_of_lt (by omega)
  have h2 : ∀ c : Nat, ((Frame.be16 srcPort.toNat ++ Frame.be16 dstPort.toNat ++
      Frame.be16 (payload.length + 8) ++ Frame.be16 c ++ payload).length + 20) % 65536 =
      20 + (payload.length + 8) := by
    intro c
    simp only [List.length_append, Frame.be16_eq, List.length_cons, List.length_nil]
    omega
  have hpad : ∀ c1 c2 : Nat, 60 - (Frame.ethHeader ++ Frame.ipv4Header (payload.length + 8) c1 src dst ++
      (Frame.udpHeader srcPort dstPort (payload.length + 8) c2 ++ payload)).length =
      18 - payload.length := by
    intro c1 c2
    simp [Frame.ethHeader, Frame.length_ipv4Header, Frame.length_udpHeader]
    omega
  -- the checksums are whatever the writer computed; nothing reads them back
  obtain ⟨c1, c2, h⟩ : ∃ c1 c2, Frame.udpFrame (src, srcPort) (dst, dstPort) payload =
      Frame.ethHeader ++ Frame.ipv4Header (payload.length + 8) c1 src dst ++
          (Frame.udpHeader srcPort dstPort (payload.length + 8) c2 ++ payload) ++
        List.replicate (60 - (Frame.ethHeader ++ Frame.ipv4Header (payload.length + 8) c1 src dst ++
          (Frame.udpHeader srcPort dstPort (payload.length + 8) c2 ++ payload)).length) 0 := by
    unfold Frame.udpFrame
    simp only [h1, h2]
    exact ⟨_, _, rfl⟩
  refine ⟨c1, c2, ?_⟩
  rw [h, Frame.layout, hpad c1 c2]
  simp only [List.append_assoc]

theorem serialize_layout : CaptureWriter.standard.SerializesStandard := by
  intro src dst s d payload hs hd hp
  have hws : src.wire? = some (s, src.port) := by
    simp [Endpoint.wire?, hs, HostAddr.wireIpv4?]
  have hwd : dst.wire? = some (d, dst.port) := by
    simp [Endpoint.wire?, hd, HostAddr.wireIpv4?]
  obtain ⟨c1, c2, hframe⟩ := udpFrame_layout s d src.port dst.port hp
  refine ⟨c1, c2, ?_⟩
  change Frame.serialize src dst payload = _
  simp only [Frame.serialize, hws, hwd, hframe]

section Records

theorem ofParts_captureTime {n : Int} (h0 : 0 ≤ n) (h1 : n < 4294967296000000000) :
    Timestamp.ofParts (((Int.fdiv n 1000000000 % 4294967296).toNat % 4294967296 : Nat))
        ((Int.fmod n 1000000000).toNat / 1000 % 4294967296 * 1000 % 4294967296) =
      Timestamp.ofNanos (n / 1000 * 1000) := by
  rw [Int.fdiv_eq_ediv_of_nonneg n (by decide), Int.fmod_eq_emod_of_nonneg n (by decide)]
  obtain ⟨m, rfl⟩ := Int.eq_ofNat_of_zero_le h0
  have hsec : ((m : Int) / 1000000000 % 4294967296).toNat % 4294967296 = m / 1000000000 := by
    omega
  have hmicro : ((m : Int) % 1000000000).toNat / 1000 % 4294967296 * 1000 % 4294967296 =
      m % 1000000000 / 1000 * 1000 := by
    omega
  rw [hsec, hmicro]
  simp only [Timestamp.ofParts, Timestamp.ofNanos, Timestamp.mk.injEq]
  -- the bound on `m` only served the wrap-arounds; without it omega stays small
  clear hsec hmicro h0 h1
  constructor <;> omega

theorem classicRecords_nil :
    Savefile.classicRecords .little 1000 65535 none [] = ([], none) := by
  rw [Savefile.classicRecords]
  rfl

theorem classicRecords_captureRecord (n : Int) {f : List UInt8} (hf : f.length ≤ 65535)
    (rest : List UInt8) :
    Savefile.classicRecords .little 1000 65535 none (captureRecord n f ++ rest) =
      (⟨Timestamp.ofParts (((Int.fdiv n 1000000000 % 4294967296).toNat % 4294967296 : Nat))
          ((Int.fmod n 1000000000).toNat / 1000 % 4294967296 * 1000 % 4294967296), f⟩ ::
        (Savefile.classicRecords .little 1000 65535 none rest).1,
        (Savefile.classicRecords .little 1000 65535 none rest).2) := by
  have hlen : (captureRecord n f ++ rest).length = 16 + f.length + rest.length := by
    simp [captureRecord, ByteOrder.write_length]
    omega
  have h16 : atLeast 16 (captureRecord n f ++ rest) = true := by
    rw [atLeast_iff]
    omega
  -- the four fields of the record header, then the frame
  have hsec : ByteOrder.little.read 4 (captureRecord n f ++ rest) =
      (Int.fdiv n 1000000000 % 4294967296).toNat % 4294967296 := by
    simp [captureRecord, ByteOrder.read_write_append]
  have hfrac : ByteOrder.little.read 4 ((captureRecord n f ++ rest).drop 4) =
      (Int.fmod n 1000000000).toNat / 1000 % 4294967296 := by
    simp [captureRecord, ByteOrder.write_length, ByteOrder.read_write_append]
  have hcap : ByteOrder.little.read 4 ((captureRecord n f ++ rest).drop 8) = f.length := by
    simp [captureRecord, List.drop_append, ByteOrder.write_length, List.drop_eq_nil_of_le,
      ByteOrder.read_write_append]
    omega
  have horig : ByteOrder.little.read 4 ((captureRecord n f ++ rest).drop 12) = f.length := by
    simp [captureRecord, List.drop_append, ByteOrder.write_length, List.drop_eq_nil_of_le,
      ByteOrder.read_write_append]
    omega
  have hdata : (captureRecord n f ++ rest).drop 16 = f ++ rest := by
    simp [captureRecord, List.drop_append, ByteOrder.write_length, List.drop_eq_nil_of_le]
  have hat : atLeast f.length (f ++ rest) = true := by
    rw [atLeast_iff, List.length_append]
    omega
  rw [Savefile.classicRecords, dif_neg (by simp [h16])]
  simp only [hcap, horig, hfrac, hsec, hdata]
  simp [hat, show ¬ f.length > 65535 by omega]

theorem classicRecords_records (xs : List (Int × List UInt8))
    (h : ∀ x ∈ xs, 0 ≤ x.1 ∧ x.1 < 4294967296000000000 ∧ x.2.length ≤ 65535) :
    Savefile.classicRecords .little 1000 65535 none (xs.flatMap fun x => captureRecord x.1 x.2) =
      (xs.map fun x => ⟨Timestamp.ofNanos (x.1 / 1000 * 1000), x.2⟩, none) := by
  induction xs with
  | nil => exact classicRecords_nil
  | cons x xs ih =>
    obtain ⟨h0, h1, hf⟩ := h x List.mem_cons_self
    rw [List.flatMap_cons, classicRecords_captureRecord x.1 hf, ofParts_captureTime h0 h1,
      ih fun y hy => h y (List.mem_cons_of_mem x hy)]
    rfl

theorem classicFile_captureHeader (body : List UInt8) :
    Savefile.classicFile (captureHeader ++ body) =
      .ok ⟨1, (Savefile.classicRecords .little 1000 65535 none body).1,
        (Savefile.classicRecords .little 1000 65535 none body).2⟩ := by
  have hhead : captureHeader = [0xD4, 0xC3, 0xB2, 0xA1, 2, 0, 4, 0, 0, 0, 0, 0, 0, 0, 0, 0,
      0xFF, 0xFF, 0, 0, 1, 0, 0, 0] := by decide
  rw [hhead]
  simp [Savefile.classicFile, Savefile.classic, ByteOrder.read, ByteOrder.bigValue]

theorem classicFile_records : CaptureReader.standard.ReadsRecordsOf CaptureWriter.standard := by
  intro xs hxs
  simp only [CaptureReader.standard, CaptureWriter.standard]
  rw [classicFile_captureHeader, classicRecords_records xs hxs]

end Records

/-! ### The round trip -/

namespace OutgoingPacket

def isDhcp (p : OutgoingPacket) : Bool :=
  isDhcpPort p.source.port || isDhcpPort p.destination.port

/-- What a reader should give back for a packet: its time cut to whole microseconds, its endpoints,
and its payload. -/
def captured (p : OutgoingPacket) : CapturedPacket :=
  ⟨Timestamp.ofNanos (p.timeNanos / 1000 * 1000), some (p.source, p.destination), p.payload⟩

/-- The packets a capture holds unchanged: IPv4 endpoints (a missing one is), a payload that leaves
the frame within 65535 bytes, and a time whose seconds since the epoch fit in 32 bits. -/
structure Fits (p : OutgoingPacket) : Prop where
  source_v4 : ∃ ip, p.source.addr = .v4 ip
  destination_v4 : ∃ ip, p.destination.addr = .v4 ip
  payload_le : p.payload.length ≤ 65493
  time_nonneg : 0 ≤ p.timeNanos
  time_lt : p.timeNanos < 4294967296000000000

theorem Fits.frame {w : CaptureWriter} {r : CaptureReader} (serializes : w.SerializesStandard)
    (decodes : r.DecodesStandard) {p : OutgoingPacket} (hp : p.Fits) :
    ∃ f, w.serialize p.source p.destination p.payload = .ok f ∧ f.length ≤ 65535 ∧
      ∀ t : Timestamp, r.dhcpPacket? 1 ⟨t, f⟩ =
        if p.isDhcp then some ⟨t, some (p.source, p.destination), p.payload⟩ else none := by
  obtain ⟨s, hs⟩ := hp.source_v4
  obtain ⟨d, hd⟩ := hp.destination_v4
  have hlen : p.payload.length + 28 ≤ 65535 := by
    have := hp.payload_le
    omega
  obtain ⟨c1, c2, hser⟩ := serializes _ _ s d p.payload hs hd hlen
  refine ⟨_, hser, ?_, fun t => ?_⟩
  · rw [Frame.length_layout_padded]
    have := hp.payload_le
    omega
  · have hsrc : (⟨.v4 s, p.source.port⟩ : Endpoint) = p.source := by
      rw [← hs]
    have hdst : (⟨.v4 d, p.destination.port⟩ : Endpoint) = p.destination := by
      rw [← hd]
    simp only [CaptureReader.dhcpPacket?, decodes _ _ c1 c2 _ _ hlen, Option.bind_eq_bind,
      Option.bind_some]
    by_cases hk : p.isDhcp = true
    · have hport : (isDhcpPort p.source.port || isDhcpPort p.destination.port) = true := hk
      rw [if_pos hk, if_neg (by simp [hport])]
      simp [hsrc, hdst]
    · have hport : (isDhcpPort p.source.port || isDhcpPort p.destination.port) = false := by
        simpa [isDhcp] using hk
      rw [if_neg hk, if_pos (by simp [hport])]

end OutgoingPacket

theorem CaptureWriter.write_go (w : CaptureWriter) (frameOf : OutgoingPacket → List UInt8)
    (i : Nat) (ps : List OutgoingPacket) (acc : List UInt8)
    (h : ∀ p ∈ ps, w.serialize p.source p.destination p.payload = .ok (frameOf p)) :
    write.go w i ps acc =
      .ok (acc ++ ps.flatMap fun p => w.record p.timeNanos (frameOf p)) := by
  induction ps generalizing i acc with
  | nil => simp [write.go]
  | cons p ps ih =>
    rw [write.go, h p List.mem_cons_self]
    simp only
    rw [ih (i + 1) _ fun q hq => h q (List.mem_cons_of_mem p hq), List.flatMap_cons,
      List.append_assoc]

namespace CaptureReader

theorem open?_classic (r : CaptureReader) {header : List UInt8}
    (h : header.take 4 = [0xD4, 0xC3, 0xB2, 0xA1]) (body : List UInt8) :
    r.open? (header ++ body) = (r.classic (header ++ body)).mapError CaptureError.unopenable := by
  have hlen : 4 ≤ header.length := by
    have := congrArg List.length h
    simp only [List.length_take, List.length_cons, List.length_nil] at this
    omega
  have htake : (header ++ body).take 4 = [0xD4, 0xC3, 0xB2, 0xA1] := by
    rw [List.take_append_of_le_length hlen, h]
  have hshort : ¬ (header ++ body).length < 4 := by
    simp only [List.length_append]
    omega
  simp only [open?, hshort, if_false, htake]
  rfl

/-- A written capture reads back as its packets with a DHCP port on either side, in order, each
time cut to whole microseconds, when the libraries keep to the pcap format and the standard headers. -/
theorem read_write (w : CaptureWriter) (r : CaptureReader)
    (classic_magic : w.header.take 4 = [0xD4, 0xC3, 0xB2, 0xA1])
    (reads_records : r.ReadsRecordsOf w) (serializes : w.SerializesStandard)
    (decodes : r.DecodesStandard) (ps : List OutgoingPacket) (hps : ∀ p ∈ ps, p.Fits) :
    ∃ bytes, w.write ps = .ok bytes ∧
      (r.read bytes).packets = (ps.filter OutgoingPacket.isDhcp).map OutgoingPacket.captured ∧
      (r.read bytes).seen = ps.length ∧ (r.read bytes).error = none := by
  -- the frame the writer builds for each packet
  let frameOf : OutgoingPacket → List UInt8 := fun p =>
    (w.serialize p.source p.destination p.payload).toOption.getD []
  have hwritten : ∀ p ∈ ps, w.serialize p.source p.destination p.payload = .ok (frameOf p) ∧
      (frameOf p).length ≤ 65535 ∧ ∀ t : Timestamp, r.dhcpPacket? 1 ⟨t, frameOf p⟩ =
        if p.isDhcp then some ⟨t, some (p.source, p.destination), p.payload⟩ else none := by
    intro p hp
    obtain ⟨f, hf, hspec⟩ := (hps p hp).frame serializes decodes
    have hfo : frameOf p = f := by simp [frameOf, hf, Except.toOption]
    exact hfo ▸ ⟨hf, hspec⟩
  have hopen : r.open? (w.header ++ ps.flatMap fun p => w.record p.timeNanos (frameOf p)) =
      .ok ⟨1, ps.map fun p => ⟨Timestamp.ofNanos (p.timeNanos / 1000 * 1000), frameOf p⟩, none⟩ := by
    have h := reads_records (ps.map fun p => (p.timeNanos, frameOf p)) (by
      simp only [List.mem_map]
      rintro _ ⟨p, hp, rfl⟩
      exact ⟨(hps p hp).time_nonneg, (hps p hp).time_lt, (hwritten p hp).2.1⟩)
    rw [open?_classic r classic_magic]
    simp only [List.flatMap_map, List.map_map, Function.comp_def] at h
    rw [h]
    rfl
  -- each record gives back its packet exactly when the packet has a DHCP port
  have hkept : (ps.map fun p => (⟨Timestamp.ofNanos (p.timeNanos / 1000 * 1000), frameOf p⟩ :
      CaptureRecord)).filterMap (r.dhcpPacket? 1) =
      (ps.filter OutgoingPacket.isDhcp).map OutgoingPacket.captured := by
    calc (ps.map fun p => (⟨Timestamp.ofNanos (p.timeNanos / 1000 * 1000), frameOf p⟩ :
            CaptureRecord)).filterMap (r.dhcpPacket? 1)
        = ps.filterMap (fun p => if p.isDhcp then some p.captured else none) := by
          rw [List.filterMap_map]
          exact List.filterMap_congr fun p hp => (hwritten p hp).2.2 _
      _ = (ps.filter OutgoingPacket.isDhcp).filterMap (fun p => some p.captured) :=
          List.filterMap_filter.symm
      _ = (ps.filter OutgoingPacket.isDhcp).map OutgoingPacket.captured :=
          congrFun List.filterMap_eq_map' _
  refine ⟨_, CaptureWriter.write_go w frameOf 0 ps w.header (fun p hp => (hwritten p hp).1), ?_⟩
  simp only [read, hopen, hkept]
  simp

theorem read_write_keeps_dhcp :
    ∃ bytes, writeCapture [{ timeNanos := 1700000000123456789, payload := [1, 2, 3] },
        { timeNanos := 5, src := some ⟨.v4 ⟨10, 0, 0, 1⟩, 5353⟩,
          dst := some ⟨.v4 ⟨224, 0, 0, 251⟩, 5353⟩, payload := [] }] = .ok bytes ∧
      (CaptureRead.ofBytes bytes).packets =
        ([{ timeNanos := 1700000000123456789, payload := [1, 2, 3] },
          { timeNanos := 5, src := some ⟨.v4 ⟨10, 0, 0, 1⟩, 5353⟩,
            dst := some ⟨.v4 ⟨224, 0, 0, 251⟩, 5353⟩, payload := [] }].filter
          OutgoingPacket.isDhcp).map OutgoingPacket.captured ∧
      (CaptureRead.ofBytes bytes).seen = 2 ∧ (CaptureRead.ofBytes bytes).error = none := by
  have hfits : ∀ p ∈ [({ timeNanos := 1700000000123456789, payload := [1, 2, 3] } : OutgoingPacket),
      { timeNanos := 5, src := some ⟨.v4 ⟨10, 0, 0, 1⟩, 5353⟩,
        dst := some ⟨.v4 ⟨224, 0, 0, 251⟩, 5353⟩, payload := [] }], OutgoingPacket.Fits p := by
    intro p hp
    simp only [List.mem_cons, List.not_mem_nil, or_false] at hp
    rcases hp with rfl | rfl
    · exact ⟨⟨_, rfl⟩, ⟨_, rfl⟩, by decide, by decide, by decide⟩
    · exact ⟨⟨_, rfl⟩, ⟨_, rfl⟩, by decide, by decide, by decide⟩
  exact read_write CaptureWriter.standard CaptureReader.standard (by decide) classicFile_records
    serialize_layout udpDatagram?_layout _ hfits

end CaptureReader

end DhcpDecoder
