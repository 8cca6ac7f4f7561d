import Mathlib
import DhcpDecoder.Frame.Header

/-!
The BOOTP header read back from its own encoding, and written back from what was read.
-/

namespace DhcpDecoder

/-- The address an address field holds after a trip over the wire: an IPv4 address stays, and
anything else becomes 0.0.0.0. -/
def HostAddr.onWire (a : HostAddr) : HostAddr := .v4 (a.ipv4?.getD Ipv4.zero)

theorem FixedBytes.ofPrefix_append {n : Nat} (f : FixedBytes n) (rest : List UInt8) :
    FixedBytes.ofPrefix n (f.bytes ++ rest) = f := by
  obtain ⟨bytes, h⟩ := f
  subst h
  simp [FixedBytes.ofPrefix]

namespace Header

theorem addrBytes_eq (a : HostAddr) : addrBytes a = (a.ipv4?.getD Ipv4.zero).toBytes := by
  cases a <;> rfl

theorem encode_drop_fields (h : Header) : h.encode.drop 236 = magicCookie := by
  have hc := h.chaddr.length_eq
  have hs := h.sname.length_eq
  have hf := h.file.length_eq
  unfold encode
  apply List.drop_left'
  simp [addrBytes_eq, u32Bytes, u16Bytes, Ipv4.toBytes, hc, hs, hf]

theorem decode_encode (h : Header) :
    decode h.encode =
      { h with
        ciaddr := h.ciaddr.onWire
        yiaddr := h.yiaddr.onWire
        siaddr := h.siaddr.onWire
        giaddr := h.giaddr.onWire } := by
  -- the numbers come back through the byte-order round trips of the value codec
  have hxid : beU32 (h.xid.toNat / 16777216).toUInt8 (h.xid.toNat / 65536 % 256).toUInt8
      (h.xid.toNat / 256 % 256).toUInt8 (h.xid.toNat % 256).toUInt8 = h.xid := by
    simpa [u32Bytes, Wire.u32] using u32_encode h.xid
  have hsecs : beU16 (h.secs.toNat / 256).toUInt8 (h.secs.toNat % 256).toUInt8 = h.secs := by
    simpa [u16Bytes, Wire.u16] using u16_encode h.secs
  have hflags : beU16 (h.flags.toNat / 256).toUInt8 (h.flags.toNat % 256).toUInt8 = h.flags := by
    simpa [u16Bytes, Wire.u16] using u16_encode h.flags
  have hc := h.chaddr.length_eq
  have hs := h.sname.length_eq
  have hd : h.chaddr.bytes.drop 80 = [] := List.drop_eq_nil_of_le (by omega)
  simp only [encode, addrBytes_eq, u32Bytes, u16Bytes, Ipv4.toBytes, decode, slice]
  simp [hxid, hsecs, hflags, HostAddr.onWire, List.drop_append, hc, hs, hd,
    FixedBytes.ofPrefix_append]

def window (b : List UInt8) (i n : Nat) : List UInt8 := (b.drop i).take n

theorem window_append_window (b : List UInt8) {i m j : Nat} (n : Nat) (rest : List UInt8)
    (hj : i + m = j) :
    window b i m ++ (window b j n ++ rest) = window b i (m + n) ++ rest := by
  subst hj
  simp [window, List.take_add, List.drop_drop]

theorem window_four {b : List UInt8} {i : Nat} (h : i + 4 ≤ b.length) :
    window b i 4 = [b.getD i 0, b.getD (i + 1) 0, b.getD (i + 2) 0, b.getD (i + 3) 0] := by
  apply List.ext_getElem
  · simp [window]
    omega
  · intro k hk _
    have hk4 : k < 4 := by
      simp [window] at hk
      omega
    interval_cases k <;> simp (disch := omega) [window]

theorem window_two {b : List UInt8} {i : Nat} (h : i + 2 ≤ b.length) :
    window b i 2 = [b.getD i 0, b.getD (i + 1) 0] := by
  apply List.ext_getElem
  · simp [window]
    omega
  · intro k hk _
    have hk2 : k < 2 := by
      simp [window] at hk
      omega
    interval_cases k <;> simp (disch := omega) [window]

theorem slice_bytes {b : List UInt8} {i n : Nat} (h : i + n ≤ b.length) :
    (slice b i n).bytes = window b i n := by
  simp [slice, FixedBytes.ofPrefix, window]
  omega

theorem slice_append {b : List UInt8} {i n : Nat} (h : i + n ≤ b.length) (r : List UInt8) :
    slice (b ++ r) i n = slice b i n := by
  simp only [slice, FixedBytes.ofPrefix, FixedBytes.mk.injEq]
  rw [List.drop_append_of_le_length (by omega), List.take_append_of_le_length (by simp; omega)]
  simp only [List.length_append, List.length_drop, List.append_cancel_left_eq]
  congr 1
  omega

theorem decode_append {b : List UInt8} (hb : 236 ≤ b.length) (r : List UInt8) :
    decode (b ++ r) = decode b := by
  have hget : ∀ i, i < b.length → (b ++ r).getD i 0 = b.getD i 0 :=
    fun i hi => List.getD_append _ _ _ _ hi
  simp (disch := omega) only [decode, hget, slice_append]

theorem decode_sname_bytes {b : List UInt8} (hb : 236 ≤ b.length) :
    (decode b).sname.bytes = b.extract 44 108 := by
  rw [decode, slice_bytes (by omega), window, List.extract_eq_take_drop]

theorem decode_file_bytes {b : List UInt8} (hb : 236 ≤ b.length) :
    (decode b).file.bytes = b.extract 108 236 := by
  rw [decode, slice_bytes (by omega), window, List.extract_eq_take_drop]

theorem take_eq_windows (b rest : List UInt8) :
    b.take 236 ++ rest = window b 0 4 ++ (window b 4 4 ++ (window b 8 2 ++ (window b 10 2 ++
      (window b 12 4 ++ (window b 16 4 ++ (window b 20 4 ++ (window b 24 4 ++
        (window b 28 16 ++ (window b 44 64 ++ (window b 108 128 ++ rest)))))))))) := by
  simp [window_append_window]
  simp [window]

theorem encode_decode {b : List UInt8} (hb : 236 ≤ b.length) :
    (decode b).encode = b.take 236 ++ magicCookie := by
  rw [take_eq_windows, window_four (by omega : 0 + 4 ≤ b.length),
    window_four (by omega : 4 + 4 ≤ b.length), window_two (by omega : 8 + 2 ≤ b.length),
    window_two (by omega : 10 + 2 ≤ b.length), window_four (by omega : 12 + 4 ≤ b.length),
    window_four (by omega : 16 + 4 ≤ b.length), window_four (by omega : 20 + 4 ≤ b.length),
    window_four (by omega : 24 + 4 ≤ b.length), ← slice_bytes (by omega : 28 + 16 ≤ b.length),
    ← slice_bytes (by omega : 44 + 64 ≤ b.length), ← slice_bytes (by omega : 108 + 128 ≤ b.length)]
  simp [decode, encode, addrBytes, HostAddr.ipv4?, Ipv4.toBytes, u32Bytes_beU32, u16Bytes_beU16]

theorem wire_roundTrip :
    (∀ h : Header,
      decode h.encode =
        { h with
          ciaddr := h.ciaddr.onWire
          yiaddr := h.yiaddr.onWire
          siaddr := h.siaddr.onWire
          giaddr := h.giaddr.onWire } ∧
      h.encode.length = 240 ∧ h.encode.drop 236 = magicCookie) ∧
    ∀ b : List UInt8, 236 ≤ b.length → (decode b).encode = b.take 236 ++ magicCookie :=
  ⟨fun h => ⟨decode_encode h, encode_length h, encode_drop_fields h⟩, fun _ hb => encode_decode hb⟩

theorem wire_roundTrip_counting_bytes :
    236 ≤ ((List.range 240).map Nat.toUInt8).length ∧
      (decode ((List.range 240).map Nat.toUInt8)).encode =
        ((List.range 240).map Nat.toUInt8).take 236 ++ magicCookie :=
  ⟨by simp, wire_roundTrip.2 _ (by simp)⟩

end Header

end DhcpDecoder
