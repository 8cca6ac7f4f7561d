import Mathlib
import DhcpDecoder.Option.Decode
import DhcpDecoder.Proofs.RecordChain

/-!
Walking a cut buffer.
-/

namespace DhcpDecoder.Record.Walk

variable {α ε : Type}

/-- Where the record that starts at byte `p` of `buf` ends: one byte on for a sentinel, and past the
header and the announced value for any other record. -/
def recordEnd (r : Rules α ε) (buf : List UInt8) (p : Nat) : Nat :=
  if isSentinel r (buf.getD p 0) then p + 1 else p + 2 + (buf.getD (p + 1) 0).toNat

/-- The boundaries of the chain a walk read: where each of its records starts, and where the walk
stopped. -/
def boundaries (w : Walk α ε) : List Nat :=
  w.offsets ++ w.skipped.map (·.offset) ++ [w.consumed]

section Ends

variable {r : Rules α ε} {buf : List UInt8} {p : Nat} {tag len : UInt8}

theorem lt_recordEnd (r : Rules α ε) (buf : List UInt8) (p : Nat) : p < recordEnd r buf p := by
  unfold recordEnd
  split <;> omega

theorem recordEnd_of_sentinel (ht : buf[p]? = some tag) (hs : isSentinel r tag = true) :
    recordEnd r buf p = p + 1 := by
  simp [recordEnd, List.getD_eq_getElem?_getD, ht, hs]

theorem recordEnd_of_record (ht : buf[p]? = some tag) (hs : isSentinel r tag = false)
    (hl : buf[p + 1]? = some len) : recordEnd r buf p = p + 2 + len.toNat := by
  simp [recordEnd, List.getD_eq_getElem?_getD, ht, hs, hl]

theorem recordEnd_of_last (ht : buf[p]? = some tag) (hs : isSentinel r tag = false)
    (hn : buf.length = p + 1) : recordEnd r buf p = p + 2 := by
  have hl : buf[p + 1]? = none := List.getElem?_eq_none_iff.mpr (by omega)
  simp [recordEnd, List.getD_eq_getElem?_getD, ht, hs, hl]

end Ends

section Boundaries

variable {w : Walk α ε} {q : Nat}

@[simp] theorem boundaries_stop (p : Nat) (ended : Bool) (cut : Option Cut) :
    (stop p ended cut : Walk α ε).boundaries = [p] := rfl

@[simp] theorem mem_boundaries_withItem (a : α) (p : Nat) :
    q ∈ (w.withItem a p).boundaries ↔ q = p ∨ q ∈ w.boundaries := by
  simp [boundaries]

@[simp] theorem mem_boundaries_withSkip (s : Skip ε) :
    q ∈ (w.withSkip s).boundaries ↔ q = s.offset ∨ q ∈ w.boundaries := by
  simp [boundaries, or_left_comm]

end Boundaries

section Chain

variable {r : Rules α ε} {buf : List UInt8} {p : Nat} {w : Walk α ε}

theorem Chain.boundaries_ge (h : Chain r buf p w) : ∀ q ∈ w.boundaries, p ≤ q := by
  intro q hq
  simp only [boundaries, List.mem_append, List.mem_map, List.mem_singleton] at hq
  rcases hq with (ho | ⟨s, hs, rfl⟩) | rfl
  · exact h.offsets_ge q ho
  · exact (h.skipped_within s hs).1
  · exact h.start_le_consumed

structure Beyond (r : Rules α ε) (buf : List UInt8) (k : Nat) (w : Walk α ε) : Prop where
  boundaries : ∀ q ∈ w.boundaries, k < q
  items : ∀ o ∈ w.offsets, k < recordEnd r buf o
  skipped : ∀ s ∈ w.skipped, k < s.offset + 2 + s.length.toNat

theorem Chain.beyond (h : Chain r buf p w) {k : Nat} (hk : k < p) : Beyond r buf k w where
  boundaries q hq := Nat.lt_of_lt_of_le hk (h.boundaries_ge q hq)
  items o ho := by
    have := h.offsets_ge o ho
    have := lt_recordEnd r buf o
    omega
  skipped s hs := by
    have := (h.skipped_within s hs).1
    omega

theorem Beyond.consumed_gt {k : Nat} (hw : Beyond r buf k w) : k < w.consumed :=
  hw.boundaries w.consumed (by simp [Walk.boundaries])

theorem Beyond.stop {k q : Nat} (hk : k < q) (ended : Bool) (cut : Option Cut) :
    Beyond r buf k (stop q ended cut) where
  boundaries := by simpa using hk
  items := by simp
  skipped := by simp

theorem Beyond.filter_items {k : Nat} (hw : Beyond r buf k w) :
    (w.items.zip w.offsets).filter (fun x => recordEnd r buf x.2 ≤ k) = [] := by
  refine List.filter_eq_nil_iff.mpr fun x hx => ?_
  have := hw.items x.2 (List.of_mem_zip hx).2
  simp only [decide_eq_true_eq]
  omega

theorem Beyond.filter_skipped {k : Nat} (hw : Beyond r buf k w) :
    w.skipped.filter (fun s => s.offset + 2 + s.length.toNat ≤ k) = [] := by
  refine List.filter_eq_nil_iff.mpr fun s hs => ?_
  have := hw.skipped s hs
  simp only [decide_eq_true_eq]
  omega

end Chain

/-- The cut met by a walk whose buffer ends at byte `k`, inside the record that starts at `p`: none
when the record would start at the end, else the missing length byte or value. -/
def cutInside (p k : Nat) : Option Cut :=
  if k = p then none else if k = p + 1 then some .header else some .value

theorem cutInside_isSome {p k : Nat} (hpk : p ≤ k) : (cutInside p k).isSome = true ↔ p < k := by
  unfold cutInside
  by_cases h0 : k = p <;> by_cases h1 : k = p + 1 <;> simp [h0, h1]
  all_goals omega

section Take

variable {r : Rules α ε} {b : List UInt8} {k p : Nat}

theorem extract_take {s e : Nat} (he : e ≤ k) : (b.take k).extract s e = b.extract s e := by
  rw [List.extract_eq_take_drop, List.extract_eq_take_drop, List.drop_take, List.take_take,
    Nat.min_eq_left (by omega)]

theorem walkAt_take_short (hpk : p ≤ k) (hk : k < recordEnd r b p) (hkb : k ≤ b.length) :
    walkAt r (b.take k) p = stop p false (cutInside p k) := by
  have hlen : (b.take k).length = k := List.length_take_of_le hkb
  rcases Nat.eq_or_lt_of_le hpk with rfl | hlt
  · simp [walkAt_finish hlen, cutInside]
  obtain ⟨tag, ht⟩ : ∃ tag, b[p]? = some tag :=
    ⟨b[p], List.getElem?_eq_getElem (by omega)⟩
  have ht' : (b.take k)[p]? = some tag := by rw [List.getElem?_take_of_lt hlt, ht]
  cases hs : isSentinel r tag
  · by_cases hk1 : k = p + 1
    · rw [walkAt_short_header ht' hs (by omega)]
      simp [cutInside, hk1]
    obtain ⟨len, hl⟩ : ∃ len, b[p + 1]? = some len :=
      ⟨b[p + 1], List.getElem?_eq_getElem (by omega)⟩
    have hl' : (b.take k)[p + 1]? = some len := by
      rw [List.getElem?_take_of_lt (by omega), hl]
    rw [recordEnd_of_record ht hs hl] at hk
    rw [walkAt_short_value ht' hs hl' (by omega), cutInside, if_neg (by omega), if_neg hk1]
  · rw [recordEnd_of_sentinel ht hs] at hk
    omega

end Take

/-- What the walk `t` of a buffer cut at byte `k` keeps of the walk `w` of the whole buffer `b`: the
items and skipped records whose records end by `k`; where it stops, the last boundary of `w` at most
`k`; End only if `w` met it by `k`; and a cut exactly when it stops short of `k` other than right
after End. -/
structure CutAt (r : Rules α ε) (b : List UInt8) (k : Nat) (w t : Walk α ε) : Prop where
  items : t.items.zip t.offsets = (w.items.zip w.offsets).filter (fun x => recordEnd r b x.2 ≤ k)
  skipped : t.skipped = w.skipped.filter (fun s => s.offset + 2 + s.length.toNat ≤ k)
  front : t.items <+: w.items
  consumed_mem : t.consumed ∈ w.boundaries
  consumed_le : t.consumed ≤ k
  consumed_max : ∀ q ∈ w.boundaries, q ≤ k → q ≤ t.consumed
  ended : t.ended = true ↔ w.ended = true ∧ w.consumed ≤ k
  cut : t.cut.isSome = true ↔ t.consumed < k ∧ ¬(w.ended = true ∧ w.consumed = t.consumed)

namespace CutAt

variable {r : Rules α ε} {b : List UInt8} {k p : Nat} {w t : Walk α ε}

theorem stop_stop (hpk : p ≤ k) {c c' : Option Cut} (hc : c.isSome = true ↔ p < k) :
    CutAt r b k (stop p false c') (stop p false c) where
  items := by simp
  skipped := by simp
  front := List.nil_prefix
  consumed_mem := by simp
  consumed_le := hpk
  consumed_max := by simp
  ended := by simp
  cut := by simpa using hc

theorem stop_end (hpk : p ≤ k) : CutAt r b k (stop p true none) (stop p true none) where
  items := by simp
  skipped := by simp
  front := List.nil_prefix
  consumed_mem := by simp
  consumed_le := hpk
  consumed_max := by simp
  ended := by simpa using hpk
  cut := by simp

theorem withItem (hc : CutAt r b k w t) (a : α) (he : recordEnd r b p ≤ k)
    (hp : p ≤ t.consumed) : CutAt r b k (w.withItem a p) (t.withItem a p) where
  items := by simp [he, hc.items]
  skipped := by simpa using hc.skipped
  front := by simpa using hc.front
  consumed_mem := by simp [hc.consumed_mem]
  consumed_le := hc.consumed_le
  consumed_max q hq hqk := by
    rcases (mem_boundaries_withItem a p).mp hq with rfl | hq
    · exact hp
    · exact hc.consumed_max q hq hqk
  ended := by simpa using hc.ended
  cut := by simpa using hc.cut

theorem withSkip (hc : CutAt r b k w t) (s : Skip ε) (he : s.offset + 2 + s.length.toNat ≤ k)
    (hp : s.offset ≤ t.consumed) : CutAt r b k (w.withSkip s) (t.withSkip s) where
  items := by simpa using hc.items
  skipped := by simp [he, hc.skipped]
  front := by simpa using hc.front
  consumed_mem := by simp [hc.consumed_mem]
  consumed_le := hc.consumed_le
  consumed_max q hq hqk := by
    rcases (mem_boundaries_withSkip s).mp hq with rfl | hq
    · exact hp
    · exact hc.consumed_max q hq hqk
  ended := by simpa using hc.ended
  cut := by simpa using hc.cut

theorem stop_withItem (hw : Beyond r b k w) (a : α) (hpk : p ≤ k) (he : k < recordEnd r b p)
    {c : Option Cut} (hc : c.isSome = true ↔ p < k) :
    CutAt r b k (w.withItem a p) (stop p false c) where
  items := by simp [Nat.not_le.mpr he, hw.filter_items]
  skipped := by simp [hw.filter_skipped]
  front := List.nil_prefix
  consumed_mem := by simp
  consumed_le := hpk
  consumed_max q hq hqk := by
    rcases (mem_boundaries_withItem a p).mp hq with rfl | hq
    · exact Nat.le_refl _
    · exact absurd hqk (Nat.not_le.mpr (hw.boundaries q hq))
  ended := by
    have := hw.consumed_gt
    simp only [withItem_ended, withItem_consumed, stop_ended, Bool.false_eq_true, false_iff]
    omega
  cut := by
    have := hw.consumed_gt
    simp only [stop_cut, stop_consumed, withItem_ended, withItem_consumed, hc]
    omega

theorem stop_withSkip (hw : Beyond r b k w) (s : Skip ε) (hpk : s.offset ≤ k)
    (he : k < s.offset + 2 + s.length.toNat) {c : Option Cut}
    (hc : c.isSome = true ↔ s.offset < k) :
    CutAt r b k (w.withSkip s) (stop s.offset false c) where
  items := by simp [hw.filter_items]
  skipped := by simp [Nat.not_le.mpr he, hw.filter_skipped]
  front := List.nil_prefix
  consumed_mem := by simp
  consumed_le := hpk
  consumed_max q hq hqk := by
    rcases (mem_boundaries_withSkip s).mp hq with rfl | hq
    · exact Nat.le_refl _
    · exact absurd hqk (Nat.not_le.mpr (hw.boundaries q hq))
  ended := by
    have := hw.consumed_gt
    simp only [withSkip_ended, withSkip_consumed, stop_ended, Bool.false_eq_true, false_iff]
    omega
  cut := by
    have := hw.consumed_gt
    simp only [stop_cut, stop_consumed, withSkip_ended, withSkip_consumed, hc]
    omega

theorem start_le (hc : CutAt r b k w t) (h : Chain r b p w) : p ≤ t.consumed :=
  h.boundaries_ge _ hc.consumed_mem

end CutAt

section Take

variable {r : Rules α ε} {b : List UInt8} {k p : Nat} {w : Walk α ε}

theorem Chain.cutAt (h : Chain r b p w) (hpk : p ≤ k) (hkb : k ≤ b.length) :
    CutAt r b k w (walkAt r (b.take k) p) := by
  induction h with
  | finish hp =>
    rw [walkAt_finish (by simp; omega)]
    exact CutAt.stop_stop hpk (by simp; omega)
  | @stopAtEnd q tag ht hs he =>
    have hend := recordEnd_of_sentinel ht hs
    rcases Nat.eq_or_lt_of_le hpk with rfl | hlt
    · rw [walkAt_take_short hpk (by omega) hkb]
      exact CutAt.stop_withItem (Beyond.stop (Nat.lt_succ_self _) true none) _ hpk
        (by omega) (cutInside_isSome hpk)
    · rw [walkAt_end (by rw [List.getElem?_take_of_lt hlt, ht]) hs he]
      exact (CutAt.stop_end hlt).withItem _ (by omega) (by simp)
  | @pad q tag w' ht hs he hw ih =>
    have hend := recordEnd_of_sentinel ht hs
    rcases Nat.eq_or_lt_of_le hpk with rfl | hlt
    · rw [walkAt_take_short hpk (by omega) hkb]
      exact CutAt.stop_withItem (hw.beyond (Nat.lt_succ_self _)) _ hpk (by omega)
        (cutInside_isSome hpk)
    · have hc := ih hlt
      rw [walkAt_pad (by rw [List.getElem?_take_of_lt hlt, ht]) hs he]
      exact hc.withItem _ (by omega) (by have := hc.start_le hw; omega)
  | @shortHeader q tag ht hs hn =>
    rw [walkAt_take_short hpk (by rw [recordEnd_of_last ht hs hn]; omega) hkb]
    exact CutAt.stop_stop hpk (cutInside_isSome hpk)
  | @shortValue q tag len ht hs hl hv =>
    rw [walkAt_take_short hpk (by rw [recordEnd_of_record ht hs hl]; omega) hkb]
    exact CutAt.stop_stop hpk (cutInside_isSome hpk)
  | @item q tag len a w' ht hs hl hv hd hw ih =>
    have hend := recordEnd_of_record ht hs hl
    by_cases hk : q + 2 + len.toNat ≤ k
    · have hc := ih hk
      rw [walkAt_item (by rw [List.getElem?_take_of_lt (by omega), ht]) hs
        (by rw [List.getElem?_take_of_lt (by omega), hl]) (by simp; omega)
        (by rw [extract_take hk]; exact hd)]
      exact hc.withItem _ (by omega) (by have := hc.start_le hw; omega)
    · rw [walkAt_take_short hpk (by omega) hkb]
      exact CutAt.stop_withItem (hw.beyond (by omega)) _ hpk (by omega) (cutInside_isSome hpk)
  | @skip q tag len e w' ht hs hl hv hd hw ih =>
    have hend := recordEnd_of_record ht hs hl
    by_cases hk : q + 2 + len.toNat ≤ k
    · have hc := ih hk
      rw [walkAt_skip (by rw [List.getElem?_take_of_lt (by omega), ht]) hs
        (by rw [List.getElem?_take_of_lt (by omega), hl]) (by simp; omega)
        (by rw [extract_take hk]; exact hd)]
      exact hc.withSkip _ hk (by have := hc.start_le hw; dsimp only; omega)
    · rw [walkAt_take_short hpk (by omega) hkb]
      exact CutAt.stop_withSkip (hw.beyond (by omega)) ⟨q, tag, len, e⟩ hpk (by simp; omega)
        (cutInside_isSome hpk)

end Take

theorem ofBytes_take (r : Rules α ε) (b : List UInt8) (k : Nat) (hk : k ≤ b.length) :
    CutAt r b k (ofBytes r b) (ofBytes r (b.take k)) := by
  have hc := (chain_walkAt r b (Nat.zero_le _)).cutAt (Nat.zero_le k) hk
  rwa [walkAt_zero, walkAt_zero] at hc

theorem ofBytes_take_inside_end :
    4 ≤ [53, 1, 1, 0, 255].length ∧
      CutAt optionRules [53, 1, 1, 0, 255] 4 (ofBytes optionRules [53, 1, 1, 0, 255])
        (ofBytes optionRules ([53, 1, 1, 0, 255].take 4)) :=
  ⟨by decide, ofBytes_take optionRules [53, 1, 1, 0, 255] 4 (by decide)⟩

end DhcpDecoder.Record.Walk
