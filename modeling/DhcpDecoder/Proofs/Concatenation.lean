import Mathlib
import DhcpDecoder.Option.Decode
import DhcpDecoder.Proofs.RecordChain

/-!
Walking joined buffers.
-/

namespace DhcpDecoder.Record.Walk

variable {α ε : Type}

def shift (k : Nat) (w : Walk α ε) : Walk α ε :=
  { w with
    offsets := w.offsets.map (k + ·)
    skipped := w.skipped.map (Skip.shift k)
    consumed := k + w.consumed }

/-- The walk `w` followed by the walk `v` of the bytes after those `w` read: the items, offsets and
skipped records of both in order, and where and how `v` stopped. -/
def append (w v : Walk α ε) : Walk α ε :=
  ⟨w.items ++ v.items, w.offsets ++ v.offsets, w.skipped ++ v.skipped, v.consumed, v.ended,
    v.cut⟩

section Operations

variable (k p : Nat) (ended : Bool) (cut : Option Cut) (a : α) (s : Skip ε) (w v : Walk α ε)

@[simp] theorem shift_stop : (stop p ended cut : Walk α ε).shift k = stop (k + p) ended cut := rfl

@[simp] theorem shift_withItem : (w.withItem a p).shift k = (w.shift k).withItem a (k + p) := rfl

@[simp] theorem shift_withSkip : (w.withSkip s).shift k = (w.shift k).withSkip (s.shift k) := rfl

@[simp] theorem stop_append : (stop p false none : Walk α ε).append v = v := by
  cases v
  rfl

@[simp] theorem withItem_append : (w.withItem a p).append v = (w.append v).withItem a p := rfl

@[simp] theorem withSkip_append : (w.withSkip s).append v = (w.append v).withSkip s := rfl

end Operations

section Lists

variable {a rest : List UInt8}

theorem extract_append_left {s e : Nat} (hse : s ≤ e) (he : e ≤ a.length) :
    (a ++ rest).extract s e = a.extract s e := by
  rw [List.extract_eq_take_drop, List.extract_eq_take_drop,
    List.drop_append_of_le_length (by omega), List.take_append_of_le_length (by simp; omega)]

theorem extract_append_right (s e : Nat) :
    (a ++ rest).extract (a.length + s) (a.length + e) = rest.extract s e := by
  simp [List.drop_append, List.drop_eq_nil_of_le, Nat.add_sub_add_left]

theorem getElem?_append_right_add (q : Nat) : (a ++ rest)[a.length + q]? = rest[q]? := by
  rw [List.getElem?_append_right (by omega), Nat.add_sub_cancel_left]

end Lists

section Chain

variable {r : Rules α ε} {a rest : List UInt8} {p : Nat} {w : Walk α ε}

theorem Chain.shift_append (h : Chain r rest p w) (a : List UInt8) :
    Chain r (a ++ rest) (a.length + p) (w.shift a.length) := by
  induction h with
  | finish hp => exact .finish (by simp [hp])
  | stopAtEnd ht hs he =>
    exact .stopAtEnd (by rw [getElem?_append_right_add, ht]) hs he
  | pad ht hs he _ ih =>
    rw [← Nat.add_assoc] at ih
    exact .pad (by rw [getElem?_append_right_add, ht]) hs he ih
  | shortHeader ht hs hn =>
    exact .shortHeader (by rw [getElem?_append_right_add, ht]) hs (by simp [hn]; omega)
  | @shortValue q tag len ht hs hl hv =>
    exact .shortValue (by rw [getElem?_append_right_add, ht]) hs
      (by rw [Nat.add_assoc, getElem?_append_right_add, hl]) (by simp; omega)
  | @item q tag len x w' ht hs hl hv hd _ ih =>
    rw [show a.length + (q + 2 + len.toNat) = a.length + q + 2 + len.toNat by omega] at ih
    refine .item (by rw [getElem?_append_right_add, ht]) hs
      (by rw [Nat.add_assoc, getElem?_append_right_add, hl]) (by simp; omega) ?_ ih
    simpa only [Nat.add_assoc, extract_append_right] using hd
  | @skip q tag len e w' ht hs hl hv hd _ ih =>
    rw [show a.length + (q + 2 + len.toNat) = a.length + q + 2 + len.toNat by omega] at ih
    have hskip : Skip.shift a.length ⟨q, tag, len, e⟩ = ⟨a.length + q, tag, len, e⟩ := by
      simp [Skip.shift, Nat.add_comm]
    rw [shift_withSkip, hskip]
    refine .skip (by rw [getElem?_append_right_add, ht]) hs
      (by rw [Nat.add_assoc, getElem?_append_right_add, hl]) (by simp; omega) ?_ ih
    simpa only [Nat.add_assoc, extract_append_right] using hd

theorem walkAt_append_length (r : Rules α ε) (a rest : List UInt8) :
    walkAt r (a ++ rest) a.length = (ofBytes r rest).shift a.length :=
  ((chain_walkAt r rest (Nat.zero_le _)).shift_append a).walkAt_eq

theorem Chain.walkAt_append (h : Chain r a p w) (hcut : w.cut = none) (rest : List UInt8) :
    walkAt r (a ++ rest) p = if w.ended then w else w.append (walkAt r (a ++ rest) a.length) := by
  induction h with
  | finish hp => simp [hp]
  | @stopAtEnd q tag ht hs he =>
    have hq : (a ++ rest)[q]? = some tag := by
      rw [List.getElem?_append_left (lt_length_of_getElem_eq_some ht), ht]
    simp [walkAt_end hq hs he]
  | pad ht hs he _ ih =>
    have hp := lt_length_of_getElem_eq_some ht
    rw [walkAt_pad (by rw [List.getElem?_append_left hp, ht]) hs he, ih hcut]
    split <;> simp_all
  | shortHeader | shortValue => simp at hcut
  | item ht hs hl hv hd _ ih =>
    rw [walkAt_item (by rw [List.getElem?_append_left (by omega), ht]) hs
      (by rw [List.getElem?_append_left (by omega), hl]) (by simp; omega)
      (by rw [extract_append_left (by omega) hv]; exact hd), ih hcut]
    split <;> simp_all
  | skip ht hs hl hv hd _ ih =>
    rw [walkAt_skip (by rw [List.getElem?_append_left (by omega), ht]) hs
      (by rw [List.getElem?_append_left (by omega), hl]) (by simp; omega)
      (by rw [extract_append_left (by omega) hv]; exact hd), ih hcut]
    split <;> simp_all

end Chain

theorem ofBytes_append (r : Rules α ε) (a rest : List UInt8) :
    ((ofBytes r a).consumed = a.length → (ofBytes r a).cut = none →
        (ofBytes r a).ended = false →
        ofBytes r (a ++ rest) = (ofBytes r a).append ((ofBytes r rest).shift a.length)) ∧
      ((ofBytes r a).ended = true → ofBytes r (a ++ rest) = ofBytes r a) := by
  have h := chain_walkAt r a (Nat.zero_le _)
  rw [walkAt_zero] at h
  constructor
  · intro _ hcut hend
    rw [← walkAt_zero, h.walkAt_append hcut rest, hend, walkAt_append_length]
    rfl
  · intro hend
    have hcut : (ofBytes r a).cut = none := by
      simpa [hend] using h.cut_isSome_iff
    rw [← walkAt_zero, h.walkAt_append hcut rest, if_pos hend]

theorem ofBytes_append_pad_then_end :
    ((ofBytes optionRules [0]).consumed = [0].length ∧ (ofBytes optionRules [0]).cut = none ∧
        (ofBytes optionRules [0]).ended = false ∧
        ofBytes optionRules ([0] ++ [53, 1, 1]) =
          (ofBytes optionRules [0]).append ((ofBytes optionRules [53, 1, 1]).shift [0].length)) ∧
      ((ofBytes optionRules [255]).ended = true ∧
        ofBytes optionRules ([255] ++ [53, 1, 1]) = ofBytes optionRules [255]) := by
  have hpad : (ofBytes optionRules [0]).consumed = [0].length ∧
      (ofBytes optionRules [0]).cut = none ∧ (ofBytes optionRules [0]).ended = false := by
    simp [ofBytes, scanFrom, isSentinel, optionRules]
  have hend : (ofBytes optionRules [255]).ended = true := by
    simp [ofBytes, scanFrom, isSentinel, optionRules]
  exact ⟨⟨hpad.1, hpad.2.1, hpad.2.2,
      (ofBytes_append optionRules [0] [53, 1, 1]).1 hpad.1 hpad.2.1 hpad.2.2⟩,
    hend, (ofBytes_append optionRules [255] [53, 1, 1]).2 hend⟩

end DhcpDecoder.Record.Walk

namespace DhcpDecoder

open Record Walk

theorem walkOptions_append {a : List UInt8} (hcut : (walkOptions a).cut = none)
    (hend : (walkOptions a).ended = false) (rest : List UInt8) :
    walkOptions (a ++ rest) = (walkOptions a).append ((walkOptions rest).shift a.length) := by
  have h := chain_walkAt optionRules a (Nat.zero_le _)
  rw [walkAt_zero] at h
  unfold walkOptions at hcut hend ⊢
  rw [← walkAt_zero, h.walkAt_append hcut rest, walkAt_append_length, hend]
  rfl

theorem decodeOptions_append {a : List UInt8} (hcut : (walkOptions a).cut = none)
    (hend : (walkOptions a).ended = false) (rest : List UInt8) :
    decodeOptions (a ++ rest) = decodeOptions a ++ decodeOptions rest := by
  simp [decodeOptions, walkOptions_append hcut hend, append, shift]

theorem scanFrom_pads (p n : Nat) :
    (scanFrom optionRules p (List.replicate n 0)).items = List.replicate n (.sentinel 0) ∧
      (scanFrom optionRules p (List.replicate n 0)).cut = none ∧
      (scanFrom optionRules p (List.replicate n 0)).ended = false := by
  induction n generalizing p with
  | zero => simp [scanFrom_nil]
  | succ n ih =>
    have hpad : scanFrom optionRules p (0 :: List.replicate n 0) =
        (scanFrom optionRules (p + 1) (List.replicate n 0)).withItem (.sentinel 0) p :=
      scanFrom_pad (by decide) (by decide) p _
    obtain ⟨hitems, hcut, hend⟩ := ih (p + 1)
    rw [List.replicate_succ, hpad]
    simp [hitems, hcut, hend, List.replicate_succ]

theorem decodeOptions_insert_pads {a : List UInt8} (hcut : (walkOptions a).cut = none)
    (hend : (walkOptions a).ended = false) (n : Nat) (rest : List UInt8) :
    decodeOptions (a ++ List.replicate n 0 ++ rest) =
      decodeOptions a ++ List.replicate n (.sentinel 0) ++ decodeOptions rest := by
  obtain ⟨hitems, hcut', hend'⟩ := scanFrom_pads 0 n
  have hpads : decodeOptions (List.replicate n 0) = List.replicate n (.sentinel 0) := hitems
  rw [List.append_assoc, decodeOptions_append hcut hend, decodeOptions_append hcut' hend', hpads,
    List.append_assoc]

end DhcpDecoder
