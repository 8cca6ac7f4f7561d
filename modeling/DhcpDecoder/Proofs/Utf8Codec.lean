import Mathlib
import DhcpDecoder.Text.Utf8

/-!
Reading UTF-8 inverts writing it.
-/

namespace DhcpDecoder.Utf8

section Leads

theorem toNat_charOfNat {n : Nat} (h : n < 0xD800 ∨ 0xDFFF < n ∧ n < 0x110000) :
    (Char.ofNat n).toNat = n := by
  have hv : n.isValidChar := h
  simp [Char.ofNat, hv, Char.ofNatAux, Char.toNat]

theorem uint8_ofNat_eq_iff {x : Nat} {b : UInt8} : UInt8.ofNat x = b ↔ x % 256 = b.toNat := by
  constructor
  · rintro rfl
    simp
  · intro h
    apply UInt8.toNat.inj
    simpa using h

variable {b0 b1 b2 b3 : UInt8}

theorem decodeLead_one (h0 : b0.toNat < 0x80) (rest : List UInt8) :
    decodeLead b0 rest = some (Char.ofNat b0.toNat, 0) := by
  simp [decodeLead, h0]

theorem encodeChar_one (h0 : b0.toNat < 0x80) :
    String.utf8EncodeChar (Char.ofNat b0.toNat) = [b0] := by
  have hv := toNat_charOfNat (n := b0.toNat) (by omega)
  simp [String.utf8EncodeChar, hv, show b0.toNat ≤ 127 by omega]

theorem decodeLead_two (h0 : 0xC2 ≤ b0.toNat ∧ b0.toNat < 0xE0)
    (h1 : 0x80 ≤ b1.toNat ∧ b1.toNat ≤ 0xBF) (rest : List UInt8) :
    decodeLead b0 (b1 :: rest) =
      some (Char.ofNat ((b0.toNat % 32) * 64 + b1.toNat % 64), 1) := by
  have n1 : ¬ b0.toNat < 0x80 := by omega
  have n2 : ¬ b0.toNat < 0xC2 := by omega
  simp [decodeLead, within, n1, n2, h0.2, h1]

theorem encodeChar_two (h0 : 0xC2 ≤ b0.toNat ∧ b0.toNat < 0xE0)
    (h1 : 0x80 ≤ b1.toNat ∧ b1.toNat ≤ 0xBF) :
    String.utf8EncodeChar (Char.ofNat ((b0.toNat % 32) * 64 + b1.toNat % 64)) = [b0, b1] := by
  have hn : (b0.toNat % 32) * 64 + b1.toNat % 64 = (b0.toNat - 0xC0) * 64 + (b1.toNat - 0x80) := by
    omega
  have hv := toNat_charOfNat (n := (b0.toNat - 0xC0) * 64 + (b1.toNat - 0x80)) (by omega)
  simp only [hn, String.utf8EncodeChar, Char.toNat_val, hv]
  rw [if_neg (by omega), if_pos (by omega)]
  simp only [List.cons.injEq, and_true, uint8_ofNat_eq_iff]
  omega

theorem decodeLead_three (h0 : 0xE0 ≤ b0.toNat ∧ b0.toNat < 0xF0)
    (h1 : (b0.toNat = 0xE0 → 0xA0 ≤ b1.toNat) ∧ 0x80 ≤ b1.toNat ∧
      (b0.toNat = 0xED → b1.toNat ≤ 0x9F) ∧ b1.toNat ≤ 0xBF)
    (h2 : 0x80 ≤ b2.toNat ∧ b2.toNat ≤ 0xBF) (rest : List UInt8) :
    decodeLead b0 (b1 :: b2 :: rest) =
      some (Char.ofNat ((b0.toNat % 16) * 4096 + (b1.toNat % 64) * 64 + b2.toNat % 64), 2) := by
  have n1 : ¬ b0.toNat < 0x80 := by omega
  have n2 : ¬ b0.toNat < 0xC2 := by omega
  have n3 : ¬ b0.toNat < 0xE0 := by omega
  simp only [decodeLead, within, n1, n2, n3, h0.2, if_false, if_true, h2, Bool.and_eq_true,
    decide_eq_true_eq, and_true]
  rw [if_pos]
  split_ifs <;> omega

theorem encodeChar_three (h0 : 0xE0 ≤ b0.toNat ∧ b0.toNat < 0xF0)
    (h1 : (b0.toNat = 0xE0 → 0xA0 ≤ b1.toNat) ∧ 0x80 ≤ b1.toNat ∧
      (b0.toNat = 0xED → b1.toNat ≤ 0x9F) ∧ b1.toNat ≤ 0xBF)
    (h2 : 0x80 ≤ b2.toNat ∧ b2.toNat ≤ 0xBF) :
    String.utf8EncodeChar (Char.ofNat ((b0.toNat % 16) * 4096 + (b1.toNat % 64) * 64
      + b2.toNat % 64)) = [b0, b1, b2] := by
  -- the code point is no surrogate and no overlong form; past that only the continuation bounds matter
  have hv := toNat_charOfNat
    (n := (b0.toNat - 0xE0) * 4096 + (b1.toNat - 0x80) * 64 + (b2.toNat - 0x80)) (by omega)
  have hlo : 0x800 ≤ (b0.toNat - 0xE0) * 4096 + (b1.toNat - 0x80) * 64 + (b2.toNat - 0x80) := by
    omega
  obtain ⟨-, h1lo, -, h1hi⟩ := h1
  have hn : (b0.toNat % 16) * 4096 + (b1.toNat % 64) * 64 + b2.toNat % 64
      = (b0.toNat - 0xE0) * 4096 + (b1.toNat - 0x80) * 64 + (b2.toNat - 0x80) := by
    omega
  simp only [hn, String.utf8EncodeChar, Char.toNat_val, hv]
  rw [if_neg (by omega), if_neg (by omega), if_pos (by omega)]
  simp only [List.cons.injEq, and_true, uint8_ofNat_eq_iff]
  omega

theorem decodeLead_four (h0 : 0xF0 ≤ b0.toNat ∧ b0.toNat < 0xF5)
    (h1 : (b0.toNat = 0xF0 → 0x90 ≤ b1.toNat) ∧ 0x80 ≤ b1.toNat ∧
      (b0.toNat = 0xF4 → b1.toNat ≤ 0x8F) ∧ b1.toNat ≤ 0xBF)
    (h2 : 0x80 ≤ b2.toNat ∧ b2.toNat ≤ 0xBF) (h3 : 0x80 ≤ b3.toNat ∧ b3.toNat ≤ 0xBF)
    (rest : List UInt8) :
    decodeLead b0 (b1 :: b2 :: b3 :: rest) =
      some (Char.ofNat ((b0.toNat % 8) * 262144 + (b1.toNat % 64) * 4096
        + (b2.toNat % 64) * 64 + b3.toNat % 64), 3) := by
  have n1 : ¬ b0.toNat < 0x80 := by omega
  have n2 : ¬ b0.toNat < 0xC2 := by omega
  have n3 : ¬ b0.toNat < 0xE0 := by omega
  have n4 : ¬ b0.toNat < 0xF0 := by omega
  simp only [decodeLead, within, n1, n2, n3, n4, h0.2, if_false, if_true, h2, h3,
    Bool.and_eq_true, decide_eq_true_eq, and_true]
  rw [if_pos]
  split_ifs <;> omega

theorem encodeChar_four (h0 : 0xF0 ≤ b0.toNat ∧ b0.toNat < 0xF5)
    (h1 : (b0.toNat = 0xF0 → 0x90 ≤ b1.toNat) ∧ 0x80 ≤ b1.toNat ∧
      (b0.toNat = 0xF4 → b1.toNat ≤ 0x8F) ∧ b1.toNat ≤ 0xBF)
    (h2 : 0x80 ≤ b2.toNat ∧ b2.toNat ≤ 0xBF) (h3 : 0x80 ≤ b3.toNat ∧ b3.toNat ≤ 0xBF) :
    String.utf8EncodeChar (Char.ofNat ((b0.toNat % 8) * 262144 + (b1.toNat % 64) * 4096
        + (b2.toNat % 64) * 64 + b3.toNat % 64)) = [b0, b1, b2, b3] := by
  -- the code point is past U+FFFF and at most U+10FFFF; past that only the continuation bounds matter
  have hv := toNat_charOfNat (n := (b0.toNat - 0xF0) * 262144 + (b1.toNat - 0x80) * 4096
      + (b2.toNat - 0x80) * 64 + (b3.toNat - 0x80)) (by omega)
  have hlo : 0x10000 ≤ (b0.toNat - 0xF0) * 262144 + (b1.toNat - 0x80) * 4096
      + (b2.toNat - 0x80) * 64 + (b3.toNat - 0x80) := by
    omega
  obtain ⟨-, h1lo, -, h1hi⟩ := h1
  have hn : (b0.toNat % 8) * 262144 + (b1.toNat % 64) * 4096 + (b2.toNat % 64) * 64
        + b3.toNat % 64
      = (b0.toNat - 0xF0) * 262144 + (b1.toNat - 0x80) * 4096 + (b2.toNat - 0x80) * 64
        + (b3.toNat - 0x80) := by
    omega
  simp only [hn, String.utf8EncodeChar, Char.toNat_val, hv]
  rw [if_neg (by omega), if_neg (by omega), if_neg (by omega)]
  simp only [List.cons.injEq, and_true, uint8_ofNat_eq_iff]
  omega

end Leads

theorem pieces_cons_of_decodeLead {b : UInt8} {rest : List UInt8} {c : Char} {w : Nat}
    (h : decodeLead b rest = some (c, w)) : pieces (b :: rest) = .char c :: pieces (rest.drop w) := by
  rw [pieces, h]

theorem pieces_encodeChar_append (c : Char) (rest : List UInt8) :
    pieces (String.utf8EncodeChar c ++ rest) = .char c :: pieces rest := by
  have hc : c.toNat < 0xD800 ∨ 0xDFFF < c.toNat ∧ c.toNat < 0x110000 := c.valid
  simp only [String.utf8EncodeChar, Char.toNat_val]
  split_ifs with h1 h2 h3
  · rw [List.singleton_append, pieces_cons_of_decodeLead (decodeLead_one (by simp; omega) rest)]
    have hv : (UInt8.ofNat c.toNat).toNat = c.toNat := by
      simp
      omega
    simp [hv]
  · rw [List.cons_append, List.singleton_append,
      pieces_cons_of_decodeLead (decodeLead_two (by simp; omega) (by simp; omega) rest)]
    have hv : (UInt8.ofNat (c.toNat / 64 % 32 + 192)).toNat % 32 * 64
        + (UInt8.ofNat (c.toNat % 64 + 128)).toNat % 64 = c.toNat := by
      simp
      omega
    simp only [hv, Char.ofNat_toNat, List.drop_succ_cons, List.drop_zero]
  · rw [List.cons_append, List.cons_append, List.singleton_append,
      pieces_cons_of_decodeLead (decodeLead_three (by simp; omega) (by simp; omega)
        (by simp; omega) rest)]
    have hv : (UInt8.ofNat (c.toNat / 4096 % 16 + 224)).toNat % 16 * 4096
        + (UInt8.ofNat (c.toNat / 64 % 64 + 128)).toNat % 64 * 64
        + (UInt8.ofNat (c.toNat % 64 + 128)).toNat % 64 = c.toNat := by
      simp
      omega
    simp only [hv, Char.ofNat_toNat, List.drop_succ_cons, List.drop_zero]
  · rw [List.cons_append, List.cons_append, List.cons_append, List.singleton_append,
      pieces_cons_of_decodeLead (decodeLead_four (by simp; omega) (by simp; omega)
        (by simp; omega) (by simp; omega) rest)]
    have hv : (UInt8.ofNat (c.toNat / 262144 % 8 + 240)).toNat % 8 * 262144
        + (UInt8.ofNat (c.toNat / 4096 % 64 + 128)).toNat % 64 * 4096
        + (UInt8.ofNat (c.toNat / 64 % 64 + 128)).toNat % 64 * 64
        + (UInt8.ofNat (c.toNat % 64 + 128)).toNat % 64 = c.toNat := by
      simp
      omega
    simp only [hv, Char.ofNat_toNat, List.drop_succ_cons, List.drop_zero]

theorem encodeChar_of_decodeLead {b : UInt8} {rest : List UInt8} {c : Char} {w : Nat}
    (h : decodeLead b rest = some (c, w)) : String.utf8EncodeChar c ++ rest.drop w = b :: rest := by
  -- each way the lead decoder succeeds is one width; that width's lemma writes the bytes back
  revert h
  fun_cases decodeLead b rest with
  | case1 _ b0 h0 =>
    rintro ⟨⟩
    rw [encodeChar_one h0]
    rfl
  | case3 b0 h0 h1 h2 b1 tail hw =>
    rintro ⟨⟩
    have hb1 : 0x80 ≤ b1.toNat ∧ b1.toNat ≤ 0xBF := by simpa [within] using hw
    rw [encodeChar_two ⟨by omega, h2⟩ hb1]
    rfl
  | case6 b0 h0 h1 h2 h3 lo hi b1 b2 tail hw =>
    rintro ⟨⟩
    have hb : ((b.toNat = 0xE0 → 0xA0 ≤ b1.toNat) ∧ 0x80 ≤ b1.toNat ∧
        (b.toNat = 0xED → b1.toNat ≤ 0x9F) ∧ b1.toNat ≤ 0xBF) ∧
        0x80 ≤ b2.toNat ∧ b2.toNat ≤ 0xBF := by
      simp only [within, lo, hi, Bool.and_eq_true, decide_eq_true_eq] at hw
      split_ifs at hw <;> omega
    rw [encodeChar_three ⟨by omega, h3⟩ hb.1 hb.2]
    rfl
  | case9 b0 h0 h1 h2 h3 h4 lo hi b1 b2 b3 tail hw =>
    rintro ⟨⟩
    have hb : ((b.toNat = 0xF0 → 0x90 ≤ b1.toNat) ∧ 0x80 ≤ b1.toNat ∧
        (b.toNat = 0xF4 → b1.toNat ≤ 0x8F) ∧ b1.toNat ≤ 0xBF) ∧
        (0x80 ≤ b2.toNat ∧ b2.toNat ≤ 0xBF) ∧ 0x80 ≤ b3.toNat ∧ b3.toNat ≤ 0xBF := by
      simp only [within, lo, hi, Bool.and_eq_true, decide_eq_true_eq] at hw
      split_ifs at hw <;> omega
    rw [encodeChar_four ⟨by omega, h4⟩ hb.1 hb.2.1 hb.2.2]
    rfl
  | _ => simp

theorem flatMap_encodeChar_of_valid {bytes : List UInt8} (h : valid bytes = true) :
    ((pieces bytes).map Piece.lossy).flatMap String.utf8EncodeChar = bytes := by
  fun_induction pieces bytes with
  | case1 => simp
  | case2 b rest c width hd ih =>
    have hrest : valid (rest.drop width) = true := by
      simpa [valid, pieces_cons_of_decodeLead hd, Piece.isChar] using h
    rw [List.map_cons, List.flatMap_cons, ih hrest]
    exact encodeChar_of_decodeLead hd
  | case3 b rest hd ih =>
    have hstray : pieces (b :: rest) = .stray b :: pieces rest := by
      rw [pieces, hd]
    simp [valid, hstray, Piece.isChar] at h

theorem toList_loop_eq_drop (bs : ByteArray) (i : Nat) (r : List UInt8) :
    ByteArray.toList.loop bs i r = r.reverse ++ bs.data.toList.drop i := by
  fun_induction ByteArray.toList.loop bs i r with
  | case1 i r hi ih =>
    have hsize : i < bs.data.size := hi
    have hlen : i < bs.data.toList.length := by
      rw [Array.length_toList]
      exact hsize
    rw [ih, List.reverse_cons, List.append_assoc, List.singleton_append,
      List.drop_eq_getElem_cons hlen]
    simp [ByteArray.get!, getElem!_pos bs.data i hsize]
  | case2 i r hi =>
    rw [List.drop_eq_nil_of_le (by simp; omega), List.append_nil]

theorem encode_eq_flatMap (s : String) : encode s = s.toList.flatMap String.utf8EncodeChar := by
  rw [encode, ByteArray.toList, toList_loop_eq_drop, String.toUTF8_eq_toByteArray,
    ← String.utf8Encode_toList, List.utf8Encode]
  simp

theorem pieces_flatMap_encodeChar (cs : List Char) :
    pieces (cs.flatMap String.utf8EncodeChar) = cs.map .char := by
  induction cs with
  | nil => simp [pieces_nil]
  | cons c cs ih => rw [List.flatMap_cons, pieces_encodeChar_append, ih, List.map_cons]

theorem pieces_encode (s : String) : pieces (encode s) = ofString s := by
  rw [encode_eq_flatMap, pieces_flatMap_encodeChar, ofString]

theorem valid_encode (s : String) : valid (encode s) = true := by
  simp [valid, pieces_encode, ofString, Piece.isChar]

theorem lossy_encode (s : String) : lossy (encode s) = s := by
  have hid : Piece.lossy ∘ Piece.char = id := funext fun _ => rfl
  simp [lossy, pieces_encode, ofString, hid]

theorem encode_lossy {bytes : List UInt8} (h : valid bytes = true) : encode (lossy bytes) = bytes := by
  rw [encode_eq_flatMap, lossy, String.toList_ofList, flatMap_encodeChar_of_valid h]

end DhcpDecoder.Utf8
