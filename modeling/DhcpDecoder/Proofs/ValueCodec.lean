import Mathlib
import DhcpDecoder.Option.Value
import DhcpDecoder.Proofs.Utf8Codec

/-!
Option values read back what their wire form writes.
-/

namespace DhcpDecoder

def Value.encode : Value → List UInt8
  | .u8 v => [v]
  | .u16 v => u16Bytes v
  | .u32 v => u32Bytes v
  | .i32 v => u32Bytes v.toUInt32
  | .flag v => [if v then 1 else 0]
  | .ipv4 v => v.toBytes
  | .text v => Utf8.encode v
  | .blob v => v
  | .ipv4List v => v.flatMap Ipv4.toBytes
  | .ipv4Pairs v => v.flatMap fun p => p.1.toBytes ++ p.2.toBytes
  | .u16List v => v.flatMap u16Bytes
  | .codeList v => v
  | .messageType v => [v.byte]
  | .nodeType v => [v.byte]
  | .overload v => [v.byte]

/-- Whether a layout's decoder can give the value: it has the layout's shape, a flag is set, a list
is not empty and an enumeration byte has a name. -/
def Layout.admits : Layout → Value → Bool
  | .u8, .u8 _ | .u16, .u16 _ | .u32, .u32 _ | .i32, .i32 _ | .ipv4, .ipv4 _
  | .text, .text _ | .blob, .blob _ | .codeList, .codeList _ => true
  | .flag, .flag v => v
  | .ipv4List, .ipv4List v => !v.isEmpty
  | .ipv4Pairs, .ipv4Pairs v => !v.isEmpty
  | .u16List, .u16List v => !v.isEmpty
  | .messageType, .messageType m => m.known
  | .nodeType, .nodeType n => n.known
  | .overload, .overload o => o.known
  | _, _ => false

theorem Ipv4.toBytes_ofPrefix {bytes : List UInt8} (h : bytes.length = 4) :
    (Ipv4.ofPrefix bytes).toBytes = bytes := by
  match bytes, h with
  | [_, _, _, _], _ => rfl

theorem Ipv4.toBytes_ofPrefix_take {bytes : List UInt8} (h : 4 ≤ bytes.length) :
    (Ipv4.ofPrefix bytes).toBytes = bytes.take 4 := by
  match bytes, h with
  | _ :: _ :: _ :: _ :: _, _ => rfl

namespace Wire

section Single

variable {bytes : List UInt8}

theorem u8_eq_ok_iff {x : UInt8} : u8 bytes = .ok x ↔ bytes = [x] := by
  constructor
  · intro h
    match bytes, h with
    | [b], h => simpa [u8] using h
  · rintro rfl
    rfl

theorem u16_eq_ok_iff {x : UInt16} : u16 bytes = .ok x ↔ bytes = u16Bytes x := by
  constructor
  · intro h
    match bytes, h with
    | [hi, lo], h =>
      simp only [u16, Except.ok.injEq] at h
      rw [← h, u16Bytes_beU16]
  · rintro rfl
    exact u16_encode x

theorem u32_eq_ok_iff {x : UInt32} : u32 bytes = .ok x ↔ bytes = u32Bytes x := by
  constructor
  · intro h
    match bytes, h with
    | [b0, b1, b2, b3], h =>
      simp only [u32, Except.ok.injEq] at h
      rw [← h, u32Bytes_beU32]
  · rintro rfl
    exact u32_encode x

theorem i32_eq_ok_iff {x : Int32} : i32 bytes = .ok x ↔ bytes = u32Bytes x.toUInt32 := by
  rw [← u32_eq_ok_iff]
  cases h : u32 bytes with
  | error e => simp [i32, h, Except.map]
  | ok y =>
    simp only [i32, h, Except.map, Except.ok.injEq]
    constructor
    · rintro rfl
      simp
    · rintro rfl
      simp

theorem flag_eq_ok_iff {x : Bool} : flag bytes = .ok x ↔ x = true ∧ bytes = [1] := by
  constructor
  · intro h
    match bytes, h with
    | [b], h =>
      simp only [flag] at h
      split at h
      · simp_all
      · cases h
  · rintro ⟨rfl, rfl⟩
    rfl

theorem ipv4_eq_ok_iff {x : Ipv4} : ipv4 bytes = .ok x ↔ bytes = x.toBytes := by
  constructor
  · intro h
    match bytes, h with
    | [b0, b1, b2, b3], h =>
      simp only [ipv4, Except.ok.injEq] at h
      rw [← h]
      rfl
  · rintro rfl
    rfl

theorem text_eq_ok_iff {x : String} : text bytes = .ok x ↔ bytes = Utf8.encode x := by
  constructor
  · intro h
    simp only [text] at h
    split at h
    · rename_i hv
      cases h
      exact (Utf8.encode_lossy hv).symm
    · cases h
  · rintro rfl
    simp [text, Utf8.valid_encode, Utf8.lossy_encode]

theorem enum_eq_ok_iff {known : UInt8 → Bool} {x : UInt8} :
    enum known bytes = .ok x ↔ known x = true ∧ bytes = [x] := by
  cases h : u8 bytes with
  | error e =>
    -- no single byte: neither side holds
    simp only [enum, h, bind, Except.bind, reduceCtorEq, false_iff, not_and]
    rintro - rfl
    simp [u8] at h
  | ok b =>
    rw [u8_eq_ok_iff] at h
    subst h
    by_cases hk : known b = true
    · simp only [enum, u8, hk, bind, Except.bind, pure, Except.pure, if_true, Except.ok.injEq,
        List.cons.injEq, and_true]
      constructor
      · rintro rfl
        exact ⟨hk, rfl⟩
      · rintro ⟨-, rfl⟩
        rfl
    · simp [enum, u8, hk, bind, Except.bind, throw, throwThe, MonadExceptOf.throw]
      rintro hx rfl
      exact hk hx

end Single

section Groups

theorem multiple_eq_ok_iff {bytes : List UInt8} {n : Nat} :
    multiple bytes n = .ok () ↔ bytes.length ≠ 0 ∧ bytes.length % n = 0 := by
  unfold multiple
  split <;> simp_all

theorem chunks_append {n : Nat} (hn : 0 < n) {c : List UInt8} (hc : c.length = n)
    (rest : List UInt8) : chunks n (c ++ rest) = c :: chunks n rest := by
  rw [chunks, if_neg (by simp; omega)]
  simp [hc, List.take_left', List.drop_left']

theorem chunks_flatMap {α : Type} {n : Nat} (hn : 0 < n) {enc : α → List UInt8}
    (hlen : ∀ a, (enc a).length = n) (xs : List α) :
    chunks n (xs.flatMap enc) = xs.map enc := by
  induction xs with
  | nil => rw [List.flatMap_nil, chunks, if_pos (by simp; omega), List.map_nil]
  | cons a xs ih => rw [List.flatMap_cons, chunks_append hn (hlen a), ih, List.map_cons]

theorem length_flatMap_const {α : Type} {n : Nat} {enc : α → List UInt8}
    (hlen : ∀ a, (enc a).length = n) (xs : List α) :
    (xs.flatMap enc).length = xs.length * n := by
  induction xs with
  | nil => simp
  | cons a xs ih =>
    rw [List.flatMap_cons, List.length_append, ih, hlen, List.length_cons]
    ring

theorem length_of_mem_chunks {n : Nat} {bytes c : List UInt8} (h : c ∈ chunks n bytes) :
    c.length = n := by
  induction bytes using chunks.induct n with
  | case1 bytes hstop =>
    rw [chunks, if_pos hstop] at h
    simp at h
  | case2 bytes hstop ih =>
    rw [chunks, if_neg hstop] at h
    rcases List.mem_cons.mp h with rfl | h
    · simp
      omega
    · exact ih h

theorem flatten_chunks {n : Nat} {bytes : List UInt8} (h : n ∣ bytes.length) :
    (chunks n bytes).flatten = bytes := by
  induction bytes using chunks.induct n with
  | case1 bytes hstop =>
    -- a multiple of `n` shorter than `n`, or a multiple of zero, is empty
    have hnil : bytes.length = 0 := by
      rcases hstop with hz | hlt
      · subst hz
        exact Nat.eq_zero_of_zero_dvd h
      · exact Nat.eq_zero_of_dvd_of_lt h hlt
    rw [chunks, if_pos hstop, List.flatten_nil, List.length_eq_zero_iff.mp hnil]
  | case2 bytes hstop ih =>
    have hrest : n ∣ (bytes.drop n).length := by
      rw [List.length_drop]
      exact Nat.dvd_sub h (Nat.dvd_refl n)
    rw [chunks, if_neg hstop, List.flatten_cons, ih hrest, List.take_append_drop]

theorem chunks_ne_nil {n : Nat} (hn : 0 < n) {bytes : List UInt8} (h : n ≤ bytes.length) :
    chunks n bytes ≠ [] := by
  rw [chunks, if_neg (by omega)]
  exact List.cons_ne_nil _ _

theorem groups_eq_ok_iff {α : Type} (n : Nat) (enc : α → List UInt8) (dec : List UInt8 → α)
    (hn : 0 < n) (hlen : ∀ a, (enc a).length = n) (hdec : ∀ a, dec (enc a) = a)
    (henc : ∀ c, c.length = n → enc (dec c) = c) (bytes : List UInt8) (xs : List α) :
    (do multiple bytes n; pure ((chunks n bytes).map dec) : Except ValueError (List α)) = .ok xs ↔
      xs ≠ [] ∧ bytes = xs.flatMap enc := by
  constructor
  · intro h
    cases hm : multiple bytes n with
    | error e => simp [hm, bind, Except.bind] at h
    | ok u =>
      obtain ⟨hne, hmod⟩ := multiple_eq_ok_iff.mp hm
      simp only [hm, bind, Except.bind, pure, Except.pure, Except.ok.injEq] at h
      subst h
      have hdvd : n ∣ bytes.length := Nat.dvd_of_mod_eq_zero hmod
      refine ⟨by simpa using chunks_ne_nil hn (Nat.le_of_dvd (by omega) hdvd), ?_⟩
      -- each group is written back as it was read, so the groups put together are the bytes
      have hgroups : ((chunks n bytes).map dec).flatMap enc = (chunks n bytes).flatten := by
        rw [List.flatMap_map, List.flatten_eq_flatMap]
        exact List.flatMap_congr fun c hc => henc c (length_of_mem_chunks hc)
      rw [hgroups, flatten_chunks hdvd]
  · rintro ⟨hne, rfl⟩
    have hlength := length_flatMap_const hlen xs
    have hm : multiple (xs.flatMap enc) n = .ok () := by
      rw [multiple_eq_ok_iff, hlength]
      refine ⟨Nat.mul_ne_zero (by simpa using hne) (by omega), Nat.mul_mod_left _ _⟩
    simp only [hm, bind, Except.bind, pure, Except.pure, chunks_flatMap hn hlen, List.map_map]
    congr 1
    exact List.map_congr_left (fun a _ => hdec a) |>.trans (List.map_id xs)

theorem ipv4List_eq_ok_iff {bytes : List UInt8} {xs : List Ipv4} :
    ipv4List bytes = .ok xs ↔ xs ≠ [] ∧ bytes = xs.flatMap Ipv4.toBytes :=
  groups_eq_ok_iff 4 Ipv4.toBytes Ipv4.ofPrefix (by decide) (fun _ => rfl) (fun _ => rfl)
    (fun _ => Ipv4.toBytes_ofPrefix) bytes xs

theorem ipv4Pairs_eq_ok_iff {bytes : List UInt8} {xs : List (Ipv4 × Ipv4)} :
    ipv4Pairs bytes = .ok xs ↔ xs ≠ [] ∧ bytes = xs.flatMap fun p => p.1.toBytes ++ p.2.toBytes := by
  refine groups_eq_ok_iff 8 (fun p => p.1.toBytes ++ p.2.toBytes)
    (fun c => (Ipv4.ofPrefix c, Ipv4.ofPrefix (c.drop 4))) (by decide) (fun _ => rfl)
    (fun _ => rfl) (fun c hc => ?_) bytes xs
  -- an address and its mask are the two halves of the group
  rw [Ipv4.toBytes_ofPrefix_take (by omega), Ipv4.toBytes_ofPrefix (by simp; omega)]
  exact List.take_append_drop 4 c

theorem u16List_eq_ok_iff {bytes : List UInt8} {xs : List UInt16} :
    u16List bytes = .ok xs ↔ xs ≠ [] ∧ bytes = xs.flatMap u16Bytes := by
  refine groups_eq_ok_iff 2 u16Bytes (fun c => beU16 (c.getD 0 0) (c.getD 1 0)) (by decide)
    (fun _ => rfl) (fun x => ?_) (fun c hc => ?_) bytes xs
  · simpa [u16Bytes, u16] using u16_encode x
  · obtain ⟨hi, lo, rfl⟩ := List.length_eq_two.mp hc
    exact u16Bytes_beU16 hi lo

end Groups

end Wire

theorem map_eq_ok_iff {α : Type} {f : α → Value} {x : Except ValueError α} {v : Value} :
    f <$> x = .ok v ↔ ∃ a, x = .ok a ∧ f a = v := by
  cases x <;> simp [Functor.map, Except.map]

theorem Layout.decodeFlat_eq_ok_iff {layout : Layout} (hflat : layout ≠ .relay)
    (bytes : List UInt8) (v : Value) :
    layout.decodeFlat bytes = .ok v ↔ layout.admits v = true ∧ bytes = v.encode := by
  cases layout
  case relay => exact absurd rfl hflat
  all_goals simp only [decodeFlat, map_eq_ok_iff]
  case u8 => cases v <;> simp [admits, Value.encode, Wire.u8_eq_ok_iff]
  case u16 => cases v <;> simp [admits, Value.encode, Wire.u16_eq_ok_iff]
  case u32 => cases v <;> simp [admits, Value.encode, Wire.u32_eq_ok_iff]
  case i32 => cases v <;> simp [admits, Value.encode, Wire.i32_eq_ok_iff]
  case flag =>
    cases v <;> simp [admits, Value.encode, Wire.flag_eq_ok_iff]
    rintro rfl
    rfl
  case ipv4 => cases v <;> simp [admits, Value.encode, Wire.ipv4_eq_ok_iff]
  case text => cases v <;> simp [admits, Value.encode, Wire.text_eq_ok_iff]
  case blob => cases v <;> simp [admits, Value.encode]
  case ipv4List => cases v <;> simp [admits, Value.encode, Wire.ipv4List_eq_ok_iff]
  case ipv4Pairs => cases v <;> simp [admits, Value.encode, Wire.ipv4Pairs_eq_ok_iff]
  case u16List => cases v <;> simp [admits, Value.encode, Wire.u16List_eq_ok_iff]
  case codeList => cases v <;> simp [admits, Value.encode]
  -- an enumeration value is its byte: take it apart to compare the bytes
  case messageType =>
    cases v
    case messageType m =>
      cases m
      simp [admits, Value.encode, Wire.enum_eq_ok_iff]
    all_goals simp [admits, Value.encode]
  case nodeType =>
    cases v
    case nodeType n =>
      cases n
      simp [admits, Value.encode, Wire.enum_eq_ok_iff]
    all_goals simp [admits, Value.encode]
  case overload =>
    cases v
    case overload o =>
      cases o
      simp [admits, Value.encode, Wire.enum_eq_ok_iff]
    all_goals simp [admits, Value.encode]

theorem decodeFlat_policy_filter_pair :
    Layout.ipv4Pairs ≠ .relay ∧
      (Layout.ipv4Pairs.decodeFlat [10, 0, 0, 0, 255, 0, 0, 0] =
          .ok (.ipv4Pairs [(⟨10, 0, 0, 0⟩, ⟨255, 0, 0, 0⟩)]) ↔
        Layout.ipv4Pairs.admits (.ipv4Pairs [(⟨10, 0, 0, 0⟩, ⟨255, 0, 0, 0⟩)]) = true ∧
          [10, 0, 0, 0, 255, 0, 0, 0] = (Value.ipv4Pairs [(⟨10, 0, 0, 0⟩, ⟨255, 0, 0, 0⟩)]).encode) :=
  ⟨by decide, Layout.decodeFlat_eq_ok_iff (by decide) _ _⟩

end DhcpDecoder
