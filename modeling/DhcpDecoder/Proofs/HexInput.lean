import Mathlib
import DhcpDecoder.Input.Format
import DhcpDecoder.Proofs.Utf8Codec
import DhcpDecoder.Proofs.Trimming

/-!
Hex text as input.
-/

namespace DhcpDecoder

open Utf8 Text

/-- `HexDigits x ds`: `ds` are the hex digits of the bytes `x`, two a byte with the high half first,
each digit in either case. -/
inductive HexDigits : List UInt8 → List Char → Prop
  | nil : HexDigits [] []
  | cons {b : UInt8} {hi lo : Char} {bs : List UInt8} {ds : List Char} :
      (hi = Hex.digit (b.toNat / 16) ∨ hi = Hex.upperDigit (b.toNat / 16)) →
      (lo = Hex.digit (b.toNat % 16) ∨ lo = Hex.upperDigit (b.toNat % 16)) →
      HexDigits bs ds → HexDigits (b :: bs) (hi :: lo :: ds)

/-- A text that writes the bytes `x` as hex: white space, an optional `0x` or `0X` mark, a body
whose characters other than separators are the hex digits of `x`, and white space. -/
structure HexLayout (x : List UInt8) where
  lead : List Char
  mark : List Char
  body : List Char
  trail : List Char
  lead_space : ∀ c ∈ lead, isSpace c = true
  mark_cases : mark = [] ∨ mark = ['0', 'x'] ∨ mark = ['0', 'X']
  body_digits : HexDigits x (body.filter fun c => !HexText.isSeparator c)
  trail_space : ∀ c ∈ trail, isSpace c = true

def HexLayout.text {x : List UInt8} (l : HexLayout x) : String :=
  String.ofList (l.lead ++ l.mark ++ l.body ++ l.trail)

section Digits

theorem hexDigit_facts {n : Nat} (hn : n < 16) {c : Char}
    (hc : c = Hex.digit n ∨ c = Hex.upperDigit n) :
    c.toNat < 0x80 ∧ isSpace c = false ∧ HexText.isSeparator c = false ∧ c ≠ 'x' ∧ c ≠ 'X' ∧
      c ≠ 'M' ∧ HexText.digitValue? (UInt8.ofNat c.toNat) = some n := by
  rcases hc with rfl | rfl <;> interval_cases n <;> decide

variable {x : List UInt8} {ds : List Char}

theorem HexDigits.mem (h : HexDigits x ds) :
    ∀ c ∈ ds, ∃ n < 16, c = Hex.digit n ∨ c = Hex.upperDigit n := by
  induction h with
  | nil => simp
  | @cons b hi lo bs ds hhi hlo _ ih =>
    intro c hc
    have hb := b.toNat_lt
    rcases List.mem_cons.mp hc with rfl | hc
    · exact ⟨b.toNat / 16, by omega, hhi⟩
    rcases List.mem_cons.mp hc with rfl | hc
    · exact ⟨b.toNat % 16, by omega, hlo⟩
    exact ih c hc

theorem HexDigits.pairs (h : HexDigits x ds) :
    HexText.pairs (ds.map fun c => UInt8.ofNat c.toNat) = .ok x := by
  induction h with
  | nil => rfl
  | @cons b hi lo bs ds hhi hlo _ ih =>
    have hb := b.toNat_lt
    have vhi := (hexDigit_facts (by omega) hhi).2.2.2.2.2.2
    have vlo := (hexDigit_facts (by omega) hlo).2.2.2.2.2.2
    have whole : (b.toNat / 16 * 16 + b.toNat % 16).toUInt8 = b := by
      rw [Nat.div_add_mod']
      exact UInt8.ofNat_toNat
    simp only [List.map_cons, HexText.pairs, vhi, vlo, ih, whole]
    rfl

end Digits

section Trim

variable {ps A B M w : List Piece} {q : Piece}

theorem dropWhile_reverse_cons (hq : pieceIsSpace q = false) (ps : List Piece) :
    ((q :: ps).reverse.dropWhile pieceIsSpace).reverse =
      q :: (ps.reverse.dropWhile pieceIsSpace).reverse := by
  rw [List.reverse_cons, List.dropWhile_append]
  split
  · rename_i h
    simp only [List.isEmpty_iff] at h
    simp [h, hq]
  · simp

theorem trimPieces_cons (hq : pieceIsSpace q = false) (ps : List Piece) :
    trimPieces (q :: ps) = q :: (ps.reverse.dropWhile pieceIsSpace).reverse := by
  rw [trimPieces, List.dropWhile_cons_of_neg (by simp [hq]), dropWhile_reverse_cons hq]

theorem trimPieces_spaces_append (hA : ∀ p ∈ A, pieceIsSpace p) (hB : ∀ p ∈ B, pieceIsSpace p)
    (ps : List Piece) : trimPieces (A ++ ps ++ B) = trimPieces ps :=
  trimWith_append_of_all hA hB ps

theorem rtrim_infix (ps : List Piece) :
    ∃ B, ps = (ps.reverse.dropWhile pieceIsSpace).reverse ++ B ∧ ∀ p ∈ B, pieceIsSpace p := by
  refine ⟨(ps.reverse.takeWhile pieceIsSpace).reverse, ?_, fun p hp => ?_⟩
  · rw [← List.reverse_append, List.takeWhile_append_dropWhile, List.reverse_reverse]
  · exact List.mem_takeWhile_imp (List.mem_reverse.mp hp)

theorem trimPieces_infix (ps : List Piece) :
    ∃ A B, ps = A ++ trimPieces ps ++ B ∧ (∀ p ∈ A, pieceIsSpace p) ∧ ∀ p ∈ B, pieceIsSpace p := by
  obtain ⟨B, hB, hsp⟩ := rtrim_infix (ps.dropWhile pieceIsSpace)
  refine ⟨ps.takeWhile pieceIsSpace, B, ?_, fun p hp => List.mem_takeWhile_imp hp, hsp⟩
  conv_lhs => rw [← List.takeWhile_append_dropWhile (p := pieceIsSpace) (l := ps), hB]
  rw [trimPieces, List.append_assoc]

theorem trimPieces_eq_nil (h : trimPieces ps = []) : ∀ p ∈ ps, pieceIsSpace p := by
  obtain ⟨A, B, hps, hA, hB⟩ := trimPieces_infix ps
  rw [h, List.append_nil] at hps
  intro p hp
  rw [hps] at hp
  rcases List.mem_append.mp hp with hp | hp
  · exact hA p hp
  · exact hB p hp

theorem dropPrefix_pair (a b : Piece) (ps : List Piece) :
    HexText.dropPrefix [a, b] (a :: b :: ps) = ps := by
  simp [HexText.dropPrefix]

theorem dropPrefix_of_not_mem (hq : q ∈ w) (hps : q ∉ ps) : HexText.dropPrefix w ps = ps := by
  unfold HexText.dropPrefix
  rw [if_neg]
  intro h
  exact hps (List.take_subset _ _ (h ▸ hq))

end Trim

theorem flatMap_encode_ascii {cs : List Char} (h : ∀ c ∈ cs, c.toNat < 0x80) :
    (cs.map Piece.char).flatMap (fun p => encode (String.singleton p.lossy)) =
      cs.map fun c => UInt8.ofNat c.toNat := by
  induction cs with
  | nil => rfl
  | cons c cs ih =>
    have hc := h c List.mem_cons_self
    rw [List.map_cons, List.flatMap_cons, ih fun d hd => h d (List.mem_cons_of_mem _ hd),
      List.map_cons, encode_eq_flatMap, String.toList_singleton, List.flatMap_singleton]
    simp [Piece.lossy, String.utf8EncodeChar, show c.toNat ≤ 127 by omega]

section Magic

theorem pieces_ascii {b : UInt8} (hb : b.toNat < 0x80) (rest : List UInt8) :
    pieces (b :: rest) = .char (Char.ofNat b.toNat) :: pieces rest := by
  rw [pieces_cons_of_decodeLead (decodeLead_one hb rest), List.drop_zero]

theorem pieces_stray {b : UInt8} {rest : List UInt8} (h : decodeLead b rest = none) :
    pieces (b :: rest) = .stray b :: pieces rest := by
  rw [pieces, h]

theorem map_char_ne_stray (cs : List Char) (b : UInt8) (ps : List Piece) :
    cs.map Piece.char ≠ .stray b :: ps := by
  cases cs <;> simp

theorem text_of_magic {t : String} (h : captureMagics.contains ((encode t).take 4) = true) :
    'M' ∈ t.toList ∨ t.toList.take 4 = ['\n', '\r', '\r', '\n'] := by
  have hp : t.toList.map Piece.char = pieces ((encode t).take 4 ++ (encode t).drop 4) := by
    rw [List.take_append_drop, pieces_encode, ofString]
  rw [List.contains_iff_mem] at h
  simp only [captureMagics, List.mem_cons, List.not_mem_nil, or_false] at h
  rcases h with h | h | h | h | h <;> rw [h] at hp <;>
    simp only [List.cons_append, List.nil_append] at hp
  -- the first three magics open with a byte that starts no UTF-8 character
  iterate 3 exact absurd (hp.trans (pieces_stray rfl)) (map_char_ne_stray _ _ _)
  · -- the fourth opens with M
    rw [pieces_ascii (b := 0x4d) (by decide)] at hp
    obtain ⟨c, cs, ht, hc, -⟩ := List.map_eq_cons_iff.mp hp
    left
    rw [ht, Piece.char.inj hc]
    exact List.mem_cons_self
  · -- the fifth, the pcapng magic, is four ASCII characters
    right
    rw [pieces_ascii (b := 0x0a) (by decide), pieces_ascii (b := 0x0d) (by decide),
      pieces_ascii (b := 0x0d) (by decide), pieces_ascii (b := 0x0a) (by decide)] at hp
    have h4 := congrArg (List.take 4) hp
    rw [← List.map_take] at h4
    exact (List.map_injective_iff.mpr fun _ _ h => Piece.char.inj h) h4

theorem sniff_pcapng_start {t : String} (h : t.toList.take 4 = ['\n', '\r', '\r', '\n']) :
    sniff (encode t) = .pcap := by
  obtain ⟨rest, ht⟩ : ∃ rest, t.toList = ['\n', '\r', '\r', '\n'] ++ rest :=
    ⟨_, by rw [← h, List.take_append_drop]⟩
  have hmagic : ['\n', '\r', '\r', '\n'].flatMap String.utf8EncodeChar = [0x0a, 0x0d, 0x0d, 0x0a] :=
    by decide
  rw [encode_eq_flatMap, ht, List.flatMap_append, hmagic, sniff, if_pos]
  simp [captureMagics]

end Magic

namespace HexLayout

variable {x : List UInt8} (l : HexLayout x)

theorem mem_body {c : Char} (hc : c ∈ l.body) :
    HexText.isSeparator c = true ∨ ∃ n < 16, c = Hex.digit n ∨ c = Hex.upperDigit n := by
  cases hs : HexText.isSeparator c with
  | true => exact .inl rfl
  | false => exact .inr (l.body_digits.mem c (List.mem_filter.mpr ⟨hc, by simp [hs]⟩))

theorem body_char {c : Char} (hc : c ∈ l.body) :
    c ≠ 'x' ∧ c ≠ 'X' ∧ c ≠ 'M' ∧ (isSpace c = true → HexText.isSeparator c = true) := by
  rcases l.mem_body hc with hs | ⟨n, hn, hd⟩
  · simp only [HexText.isSeparator, Bool.or_eq_true, decide_eq_true_eq] at hs
    refine ⟨?_, ?_, ?_, fun _ => by simp [HexText.isSeparator, hs]⟩ <;>
      rcases hs with ((((rfl | rfl) | rfl) | rfl) | rfl) | rfl <;> decide
  · obtain ⟨-, hsp, -, hx, hX, hM, -⟩ := hexDigit_facts hn hd
    exact ⟨hx, hX, hM, fun h => by simp [hsp] at h⟩

theorem text_toList : l.text.toList = l.lead ++ l.mark ++ l.body ++ l.trail := by
  simp [text]

theorem ne_M {c : Char} (hc : c ∈ l.text.toList) : c ≠ 'M' := by
  rw [text_toList] at hc
  simp only [List.mem_append] at hc
  rcases hc with ((hc | hc) | hc) | hc
  · rintro rfl
    exact absurd (l.lead_space _ hc) (by decide)
  · rcases l.mark_cases with h | h | h <;> rw [h] at hc <;> simp at hc <;>
      rcases hc with rfl | rfl <;> decide
  · exact (l.body_char hc).2.2.1
  · rintro rfl
    exact absurd (l.trail_space _ hc) (by decide)

theorem marks_trimmed :
    ∃ A M B, l.body.map Piece.char = A ++ M ++ B ∧ (∀ p ∈ A, pieceIsSpace p) ∧
      (∀ p ∈ B, pieceIsSpace p) ∧
      HexText.dropPrefix [.char '0', .char 'X'] (HexText.dropPrefix [.char '0', .char 'x']
        (trimPieces ((l.mark ++ l.body).map Piece.char))) = M := by
  have hnx : Piece.char 'x' ∉ l.body.map Piece.char := by
    simpa using (fun h => (l.body_char h).1 rfl : 'x' ∉ l.body)
  have hnX : Piece.char 'X' ∉ l.body.map Piece.char := by
    simpa using (fun h => (l.body_char h).2.1 rfl : 'X' ∉ l.body)
  rcases l.mark_cases with h | h | h <;> rw [h]
  · -- without a mark the body is trimmed at both ends, and no mark is found in it
    obtain ⟨A, B, hAB, hA, hB⟩ := trimPieces_infix (l.body.map Piece.char)
    have hsub : ∀ p ∈ trimPieces (l.body.map Piece.char), p ∈ l.body.map Piece.char :=
      fun p hp => by rw [hAB]; simp [hp]
    refine ⟨A, _, B, hAB, hA, hB, ?_⟩
    rw [List.nil_append, dropPrefix_of_not_mem (q := .char 'x') (by simp) (fun h => hnx (hsub _ h)),
      dropPrefix_of_not_mem (q := .char 'X') (by simp) (fun h => hnX (hsub _ h))]
  all_goals
    -- after a mark the body is trimmed at its end only, and the mark is removed
    obtain ⟨B, hB, hsp⟩ := rtrim_infix (l.body.map Piece.char)
    refine ⟨[], _, B, by simpa using hB, by simp, hsp, ?_⟩
    have hsub : ∀ p ∈ ((l.body.map Piece.char).reverse.dropWhile pieceIsSpace).reverse,
        p ∈ l.body.map Piece.char := fun p hp => by rw [hB]; simp [hp]
    rw [List.cons_append, List.cons_append, List.nil_append, List.map_cons, List.map_cons,
      trimPieces_cons (by decide), dropWhile_reverse_cons (by decide)]
  · rw [dropPrefix_pair, dropPrefix_of_not_mem (q := .char 'X') (by simp) (fun h => hnX (hsub _ h))]
  · rw [dropPrefix_of_not_mem (w := [.char '0', .char 'x']) (q := .char 'x') (by simp)
      (by simpa using fun h => hnx (hsub _ h)), dropPrefix_pair]

theorem digitsOf_text :
    HexText.digitsOf (encode l.text) =
      (l.body.filter fun c => !HexText.isSeparator c).map fun c => UInt8.ofNat c.toNat := by
  obtain ⟨A, M, B, hbody, hA, hB, hM⟩ := l.marks_trimmed
  have hsplit : ofString l.text = l.lead.map Piece.char ++ (l.mark ++ l.body).map Piece.char ++
      l.trail.map Piece.char := by
    simp [ofString, text_toList]
  have htrim : trimPieces (ofString l.text) = trimPieces ((l.mark ++ l.body).map Piece.char) := by
    rw [hsplit]
    exact trimPieces_spaces_append (by simpa [pieceIsSpace] using l.lead_space)
      (by simpa [pieceIsSpace] using l.trail_space) _
  -- the white space trimmed off the body is made of separators, which are removed anyway
  have hdrop : ∀ p ∈ A ++ B, ∃ c, p = Piece.char c ∧ HexText.isSeparator c = true := by
    intro p hp
    have hp' : p ∈ l.body.map Piece.char := by
      rw [hbody]
      rcases List.mem_append.mp hp with h | h <;> simp [h]
    obtain ⟨c, hc, rfl⟩ := List.mem_map.mp hp'
    have hsp : isSpace c = true := by
      rcases List.mem_append.mp hp with h | h
      · simpa [pieceIsSpace] using hA _ h
      · simpa [pieceIsSpace] using hB _ h
    exact ⟨c, rfl, (l.body_char hc).2.2.2 hsp⟩
  have hkept : ∀ f : Piece → Bool, (∀ p ∈ A ++ B, f p = false) →
      M.filter f = (l.body.map Piece.char).filter f := by
    intro f hf
    have hA' : A.filter f = [] :=
      List.filter_eq_nil_iff.mpr fun p hp => by simp [hf p (List.mem_append_left _ hp)]
    have hB' : B.filter f = [] :=
      List.filter_eq_nil_iff.mpr fun p hp => by simp [hf p (List.mem_append_right _ hp)]
    rw [hbody, List.filter_append, List.filter_append, hA', hB', List.nil_append,
      List.append_nil]
  have hascii : ∀ c ∈ l.body.filter (fun c => !HexText.isSeparator c), c.toNat < 0x80 := by
    intro c hc
    obtain ⟨n, hn, hd⟩ := l.body_digits.mem c hc
    exact (hexDigit_facts hn hd).1
  simp only [HexText.digitsOf, pieces_encode, htrim, hM]
  rw [hkept _ fun p hp => by
    obtain ⟨c, rfl, hc⟩ := hdrop p hp
    simp [hc], List.filter_map]
  exact flatMap_encode_ascii hascii

theorem decode_text : HexText.decode l.text = .ok x := by
  rw [HexText.decode, HexText.decodeBytes, digitsOf_text]
  exact l.body_digits.pairs

theorem sniff_text (hs : ∃ c ∈ l.text.toList, isSpace c = false)
    (hm : l.text.toList.take 4 ≠ ['\n', '\r', '\r', '\n']) : sniff (encode l.text) = .hex := by
  have hmagic : captureMagics.contains ((encode l.text).take 4) = false := by
    cases h : captureMagics.contains ((encode l.text).take 4) with
    | false => rfl
    | true =>
      rcases text_of_magic h with hM | h4
      · exact absurd rfl (l.ne_M hM)
      · exact absurd h4 hm
  have htrim : (trimPieces (pieces (encode l.text))).isEmpty = false := by
    rw [pieces_encode, List.isEmpty_eq_false_iff]
    intro hnil
    obtain ⟨c, hc, hsp⟩ := hs
    have := trimPieces_eq_nil hnil (.char c) (List.mem_map_of_mem hc)
    simp [pieceIsSpace, hsp] at this
  have hdecode : HexText.decodeBytes (encode l.text) = .ok x := l.decode_text
  simp only [sniff, hmagic, Bool.and_false, htrim, hdecode]
  rfl

end HexLayout

/-- Reading hex text gives back the bytes it writes. -/
theorem decode_hexLayout (x : List UInt8) (l : HexLayout x) :
    HexText.decode l.text = .ok x ∧
      ((∃ c ∈ l.text.toList, isSpace c = false) →
        (sniff (encode l.text) = .hex ↔ l.text.toList.take 4 ≠ ['\n', '\r', '\r', '\n'])) := by
  refine ⟨l.decode_text, fun hs => ⟨fun hhex h4 => ?_, l.sniff_text hs⟩⟩
  rw [sniff_pcapng_start h4] at hhex
  cases hhex

theorem decode_hexLayout_marked :
    ∃ l : HexLayout [0xab, 0xcd], l.text = " 0xAB:cd\n" ∧
      HexText.decode l.text = .ok [0xab, 0xcd] ∧ sniff (encode l.text) = .hex := by
  refine ⟨⟨[' '], ['0', 'x'], ['A', 'B', ':', 'c', 'd'], ['\n'], fun c hc => ?_, .inr (.inl rfl),
    .cons (.inr (by decide)) (.inr (by decide)) (.cons (.inl (by decide)) (.inl (by decide)) .nil),
    fun c hc => ?_⟩, rfl, (decode_hexLayout _ _).1,
    ((decode_hexLayout _ _).2 ⟨'0', ?_, by decide⟩).mpr ?_⟩
  · rw [List.mem_singleton.mp hc]
    decide
  · rw [List.mem_singleton.mp hc]
    decide
  · simp [HexLayout.text]
  · rw [HexLayout.text_toList]
    decide

theorem sniff_pcapng_text :
    ∃ l : HexLayout [0xab], l.text = "\n\r\r\nab" ∧ HexText.decode l.text = .ok [0xab] ∧
      sniff (encode l.text) = .pcap := by
  refine ⟨⟨['\n', '\r', '\r', '\n'], [], ['a', 'b'], [], fun c hc => ?_, .inl rfl,
    .cons (.inl (by decide)) (.inl (by decide)) .nil, by simp⟩, rfl, HexLayout.decode_text _,
    sniff_pcapng_start ?_⟩
  · simp only [List.mem_cons, List.not_mem_nil, or_false] at hc
    rcases hc with rfl | rfl | rfl | rfl <;> decide
  · rw [HexLayout.text_toList]
    rfl

end DhcpDecoder
