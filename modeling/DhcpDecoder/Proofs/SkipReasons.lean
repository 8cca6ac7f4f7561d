import Mathlib
import DhcpDecoder.Proofs.Inspection
import DhcpDecoder.Proofs.Truncation

/-!
The reasons a report gives for its skips.
-/

namespace DhcpDecoder

open Record Walk

namespace Record.Walk

variable {α ε : Type} {r : Rules α ε} {buf : List UInt8} {p : Nat} {w : Walk α ε}

theorem Chain.mem_skipped (h : Chain r buf p w) :
    ∀ s ∈ w.skipped, buf[s.offset]? = some s.tag ∧ isSentinel r s.tag = false ∧
      buf[s.offset + 1]? = some s.length ∧ s.offset + 2 + s.length.toNat ≤ buf.length ∧
      r.decode s.tag (buf.extract (s.offset + 2) (s.offset + 2 + s.length.toNat)) =
        .error s.error := by
  induction h with
  | finish | stopAtEnd | shortHeader | shortValue => simp
  | pad _ _ _ _ ih | item _ _ _ _ _ _ ih => simpa using ih
  | skip ht hs hl hv hd _ ih =>
    intro s hs'
    rcases List.mem_cons.mp hs' with rfl | hs'
    · exact ⟨ht, hs, hl, hv, hd⟩
    · exact ih s hs'

theorem Chain.skip_boundary (h : Chain r buf p w) {s : Skip ε} (hs : s ∈ w.skipped) :
    s.offset ∈ w.boundaries ∧ s.offset < w.consumed := by
  have := (h.skipped_within s hs).2
  exact ⟨by simp [boundaries, List.mem_map_of_mem hs], by omega⟩

theorem Chain.record_at (h : Chain r buf p w) :
    ∀ q ∈ w.boundaries, q < w.consumed → ∀ tag, buf[q]? = some tag →
      isSentinel r tag = false → ∃ len : UInt8, buf[q + 1]? = some len ∧
        q + 2 + len.toNat ≤ w.consumed ∧
        ((∃ a, r.decode tag (buf.extract (q + 2) (q + 2 + len.toNat)) = .ok a ∧
            (a, q) ∈ w.items.zip w.offsets) ∨
          ∃ e, r.decode tag (buf.extract (q + 2) (q + 2 + len.toNat)) = .error e ∧
            ⟨q, tag, len, e⟩ ∈ w.skipped) := by
  induction h with
  | finish | shortHeader | shortValue => simp
  | @stopAtEnd p' tag' ht' hs' _ =>
    intro q hq hlt tag ht hs
    simp only [mem_boundaries_withItem, boundaries_stop, List.mem_singleton, withItem_consumed,
      stop_consumed] at hq hlt
    rcases hq with rfl | rfl
    · rw [ht'] at ht
      cases ht
      simp [hs] at hs'
    · omega
  | @pad p' tag' w' ht' hs' _ _ ih =>
    intro q hq hlt tag ht hs
    rcases (mem_boundaries_withItem _ _).mp hq with rfl | hq
    · rw [ht'] at ht
      cases ht
      simp [hs] at hs'
    · obtain ⟨len, hl, hv, hrec⟩ := ih q hq hlt tag ht hs
      refine ⟨len, hl, hv, ?_⟩
      rcases hrec with ⟨a, hd, hx⟩ | ⟨e, hd, hx⟩
      · exact .inl ⟨a, hd, List.mem_cons_of_mem _ hx⟩
      · exact .inr ⟨e, hd, hx⟩
  | @item p' tag' len' a' w' ht' hs' hl' hv' hd' hw ih =>
    intro q hq hlt tag ht hs
    rcases (mem_boundaries_withItem _ _).mp hq with rfl | hq
    · rw [ht'] at ht
      cases ht
      have := hw.start_le_consumed
      exact ⟨len', hl', by simpa using this, .inl ⟨a', hd', List.mem_cons_self⟩⟩
    · obtain ⟨len, hl, hv, hrec⟩ := ih q hq hlt tag ht hs
      refine ⟨len, hl, hv, ?_⟩
      rcases hrec with ⟨a, hd, hx⟩ | ⟨e, hd, hx⟩
      · exact .inl ⟨a, hd, List.mem_cons_of_mem _ hx⟩
      · exact .inr ⟨e, hd, hx⟩
  | @skip p' tag' len' e' w' ht' hs' hl' hv' hd' hw ih =>
    intro q hq hlt tag ht hs
    rcases (mem_boundaries_withSkip _).mp hq with rfl | hq
    · rw [ht'] at ht
      cases ht
      have := hw.start_le_consumed
      exact ⟨len', hl', by simpa using this, .inr ⟨e', hd', List.mem_cons_self⟩⟩
    · obtain ⟨len, hl, hv, hrec⟩ := ih q hq hlt tag ht hs
      refine ⟨len, hl, hv, ?_⟩
      rcases hrec with ⟨a, hd, hx⟩ | ⟨e, hd, hx⟩
      · exact .inl ⟨a, hd, hx⟩
      · exact .inr ⟨e, hd, List.mem_cons_of_mem _ hx⟩

theorem Chain.item_of_decode (h : Chain r buf p w) {q : Nat} (hq : q ∈ w.boundaries)
    (hlt : q < w.consumed) {tag len : UInt8} {a : α} (ht : buf[q]? = some tag)
    (hs : isSentinel r tag = false) (hl : buf[q + 1]? = some len)
    (hd : r.decode tag (buf.extract (q + 2) (q + 2 + len.toNat)) = .ok a) :
    (a, q) ∈ w.items.zip w.offsets := by
  obtain ⟨len', hl', -, hrec⟩ := h.record_at q hq hlt tag ht hs
  rw [hl] at hl'
  cases hl'
  rcases hrec with ⟨a', hd', hx⟩ | ⟨e, hd', -⟩
  · rw [hd] at hd'
    cases hd'
    exact hx
  · rw [hd] at hd'
    cases hd'

theorem Chain.boundaries_outside (h : Chain r buf p w) :
    ∀ x ∈ w.items.zip w.offsets, ∀ q ∈ w.boundaries, q ≤ x.2 ∨ recordEnd r buf x.2 ≤ q := by
  induction h with
  | finish | shortHeader | shortValue => simp
  | @stopAtEnd p' tag' ht' hs' _ =>
    intro x hx q hq
    simp only [withItem_items, withItem_offsets, stop_items, stop_offsets, List.zip_cons_cons,
      List.zip_nil_left, List.mem_singleton] at hx
    subst hx
    simp only [mem_boundaries_withItem, boundaries_stop, List.mem_singleton] at hq
    rw [recordEnd_of_sentinel ht' hs']
    omega
  | @pad p' tag' w' ht' hs' _ hw ih =>
    intro x hx q hq
    simp only [withItem_items, withItem_offsets, List.zip_cons_cons] at hx
    rcases List.mem_cons.mp hx with rfl | hx'
    · rcases (mem_boundaries_withItem _ _).mp hq with rfl | hq
      · exact .inl (Nat.le_refl _)
      · rw [recordEnd_of_sentinel ht' hs']
        exact .inr (hw.boundaries_ge q hq)
    · have hge := hw.offsets_ge x.2 (List.of_mem_zip hx').2
      rcases (mem_boundaries_withItem _ _).mp hq with rfl | hq
      · exact .inl (by omega)
      · exact ih x hx' q hq
  | @item p' tag' len' a' w' ht' hs' hl' hv' hd' hw ih =>
    intro x hx q hq
    simp only [withItem_items, withItem_offsets, List.zip_cons_cons] at hx
    rcases List.mem_cons.mp hx with rfl | hx'
    · rcases (mem_boundaries_withItem _ _).mp hq with rfl | hq
      · exact .inl (Nat.le_refl _)
      · rw [recordEnd_of_record ht' hs' hl']
        exact .inr (hw.boundaries_ge q hq)
    · have hge := hw.offsets_ge x.2 (List.of_mem_zip hx').2
      rcases (mem_boundaries_withItem _ _).mp hq with rfl | hq
      · exact .inl (by omega)
      · exact ih x hx' q hq
  | @skip p' tag' len' e' w' ht' hs' hl' hv' hd' hw ih =>
    intro x hx q hq
    rcases (mem_boundaries_withSkip _).mp hq with hq | hq
    · have := hw.offsets_ge x.2 (List.of_mem_zip hx).2
      rw [hq]
      exact .inl (by dsimp only; omega)
    · exact ih x hx q hq

end Record.Walk

def Scope.entry? : Scope → UInt8 → Option CatalogEntry
  | .option => Catalog.option?
  | .relay => Catalog.relay?

section Decoders

variable {tag : UInt8} {bytes : List UInt8} {e : RecordError}

theorem DhcpOption.reason_of_decode_error (h : DhcpOption.decode tag bytes = .error e) :
    (e.reason = "unknown_tag" ↔ Scope.option.entry? tag = none) ∧
      (e.reason = "malformed_value" ↔ ∃ ent err, Scope.option.entry? tag = some ent ∧
        ent.layout.decodeFlat bytes = .error err) ∧ e.reason ≠ "truncated" := by
  cases hc : Catalog.option? tag with
  | none =>
    simp only [DhcpOption.decode, hc, Except.error.injEq] at h
    subst h
    simp [Scope.entry?, hc, RecordError.reason]
  | some ent =>
    -- an option 82 always decodes, so the layout is a flat one
    by_cases hr : ent.layout = .relay
    · simp [DhcpOption.decode, hc, hr] at h
    · cases hv : ent.layout.decodeFlat bytes with
      | ok v => simp [DhcpOption.decode, hc, hr, hv] at h
      | error err =>
        simp only [DhcpOption.decode, hc, hr, hv, if_false, Except.error.injEq] at h
        subst h
        simp [Scope.entry?, hc, hv, RecordError.reason]

theorem SubOption.reason_of_decode_error (h : SubOption.decode tag bytes = .error e) :
    (e.reason = "unknown_tag" ↔ Scope.relay.entry? tag = none) ∧
      (e.reason = "malformed_value" ↔ ∃ ent err, Scope.relay.entry? tag = some ent ∧
        ent.layout.decodeFlat bytes = .error err) ∧ e.reason ≠ "truncated" := by
  cases hc : Catalog.relay? tag with
  | none =>
    simp only [SubOption.decode, hc, Except.error.injEq] at h
    subst h
    simp [Scope.entry?, hc, RecordError.reason]
  | some ent =>
    cases hv : ent.layout.decodeFlat bytes with
    | ok v => simp [SubOption.decode, hc, hv] at h
    | error err =>
      simp only [SubOption.decode, hc, hv, Except.error.injEq] at h
      subst h
      simp [Scope.entry?, hc, hv, RecordError.reason]

theorem DhcpOption.decode_ok {ent : CatalogEntry} {v : Value}
    (hc : Scope.option.entry? tag = some ent) (hv : ent.layout.decodeFlat bytes = .ok v) :
    ∃ x, DhcpOption.decode tag bytes = .ok x := by
  simp only [Scope.entry?] at hc
  by_cases hr : ent.layout = .relay
  · exact ⟨.relay (walkRelay bytes).items, by simp [DhcpOption.decode, hc, hr]⟩
  · exact ⟨.plain tag v, by simp [DhcpOption.decode, hc, hr, hv]⟩

theorem SubOption.decode_ok {ent : CatalogEntry} {v : Value}
    (hc : Scope.relay.entry? tag = some ent) (hv : ent.layout.decodeFlat bytes = .ok v) :
    SubOption.decode tag bytes = .ok ⟨tag, v⟩ := by
  simp only [Scope.entry?] at hc
  simp [SubOption.decode, hc, hv]

theorem isSentinel_optionRules_of_entry {ent : CatalogEntry}
    (hc : Scope.option.entry? tag = some ent) : isSentinel optionRules tag = false := by
  simp only [Scope.entry?] at hc
  have h0 : tag ≠ 0 := by
    rintro rfl
    simp [Catalog.option?_pad] at hc
  have h255 : tag ≠ 255 := by
    rintro rfl
    simp [Catalog.option?_end] at hc
  simp [isSentinel, optionRules, h0, h255]

end Decoders

theorem DhcpOption.relay_of_decode {tag : UInt8} {bytes : List UInt8} {subs : List SubOption}
    (h : DhcpOption.decode tag bytes = .ok (.relay subs)) : subs = (walkRelay bytes).items := by
  cases hc : Catalog.option? tag with
  | none => simp [DhcpOption.decode, hc] at h
  | some ent =>
    by_cases hr : ent.layout = .relay
    · simp only [DhcpOption.decode, hc, hr, if_true, Except.ok.injEq, DhcpOption.relay.injEq] at h
      exact h.symm
    · cases hv : ent.layout.decodeFlat bytes <;> simp [DhcpOption.decode, hc, hr, hv] at h

theorem DhcpOption.decode_relayAgent (bytes : List UInt8) :
    DhcpOption.decode 82 bytes = .ok (.relay (walkRelay bytes).items) := by
  have hc : Catalog.option? 82 = some ⟨82, "RelayAgentInformation", .relay⟩ := rfl
  simp [DhcpOption.decode, hc]

section Windows

variable {b : List UInt8} {i n : Nat}

theorem length_extract_add (h : i + n ≤ b.length) : (b.extract i (i + n)).length = n := by
  simp [List.extract_eq_take_drop]
  omega

theorem getElem?_extract_add {k : Nat} (hk : k < n) : (b.extract i (i + n))[k]? = b[i + k]? := by
  simp [List.extract_eq_take_drop, hk]

theorem extract_extract_add {j m : Nat} (h : j + m ≤ n) :
    (b.extract i (i + n)).extract j (j + m) = b.extract (i + j) (i + j + m) := by
  simp only [List.extract_eq_take_drop, List.drop_take, List.take_take, List.drop_drop]
  rw [Nat.add_sub_cancel_left, Nat.add_sub_cancel_left, Nat.add_sub_cancel_left,
    Nat.min_eq_left (by omega)]

end Windows

namespace Report

/-- `ChainRecord b sc q`: a chain of scope `sc` read a record that starts at byte `q` of `b`, either
the region's own chain (`option`) or the sub-option chain in the value of a decoded option 82
(`relay`). -/
def ChainRecord (b : List UInt8) : Scope → Nat → Prop
  | .option, q => q ∈ (walkOptions b).boundaries ∧ q < (walkOptions b).consumed
  | .relay, q => ∃ subs o k,
      (DhcpOption.relay subs, o) ∈ (walkOptions b).items.zip (walkOptions b).offsets ∧
        q = o + 2 + k ∧ k ∈ (relayWalkAt b o).boundaries ∧ k < (relayWalkAt b o).consumed

/-- A skip read by a chain of scope `sc` stands for a whole record of `b` at its offset, and its
reason names what went wrong there: `unknown_tag` exactly when the scope's catalog lacks the tag,
`malformed_value` exactly when the catalog has it and the value fails the entry's layout. -/
def SkipFits (b : List UInt8) (sc : Scope) (s : Skip RecordError) : Prop :=
  ChainRecord b sc s.offset ∧ b[s.offset]? = some s.tag ∧ b[s.offset + 1]? = some s.length ∧
    s.offset + 2 + s.length.toNat ≤ b.length ∧
    (s.error.reason = "unknown_tag" ↔ sc.entry? s.tag = none) ∧
    (s.error.reason = "malformed_value" ↔ ∃ ent err, sc.entry? s.tag = some ent ∧
      ent.layout.decodeFlat (b.extract (s.offset + 2) (s.offset + 2 + s.length.toNat)) =
        .error err)

/-- `RunOut b q`: the sub-option chain in the value of a decoded option 82 stopped short of the
option's end at byte `q` of `b`. -/
def RunOut (b : List UInt8) (q : Nat) : Prop :=
  ∃ subs o, (DhcpOption.relay subs, o) ∈ (walkOptions b).items.zip (walkOptions b).offsets ∧
    (relayWalkAt b o).cut.isSome ∧ q = o + 2 + (relayWalkAt b o).consumed

section Nested

variable {b : List UInt8} {subs : List SubOption} {o : Nat}

theorem relay_item (hx : (DhcpOption.relay subs, o) ∈
      (walkOptions b).items.zip (walkOptions b).offsets) :
    ∃ tag len : UInt8, b[o]? = some tag ∧ isSentinel optionRules tag = false ∧
      b[o + 1]? = some len ∧ o + 2 + len.toNat ≤ b.length ∧
      relayWalkAt b o = walkRelay (b.extract (o + 2) (o + 2 + len.toNat)) ∧
      subs = (relayWalkAt b o).items := by
  have h : Chain optionRules b 0 (walkOptions b) := chain_walkAt optionRules b (Nat.zero_le _)
  rcases h.mem_items _ hx with ⟨tag, -, -, heq⟩ | ⟨tag, len, ht, hl, hv, hd⟩
  · simp [optionRules] at heq
  · have hs : isSentinel optionRules tag = false := by
      by_contra hs
      rw [Bool.not_eq_false] at hs
      simp only [isSentinel, optionRules, Bool.true_and, Bool.or_eq_true, beq_iff_eq] at hs
      rcases hs with rfl | rfl <;>
        simp [optionRules, DhcpOption.decode, Catalog.option?_pad, Catalog.option?_end] at hd
    have hw : relayWalkAt b o = walkRelay (b.extract (o + 2) (o + 2 + len.toNat)) := by
      simp [relayWalkAt, List.getD_eq_getElem?_getD, hl]
    exact ⟨tag, len, ht, hs, hl, hv, hw, hw ▸ DhcpOption.relay_of_decode hd⟩

theorem mem_relaySkips {w : Walk DhcpOption RecordError} {s : Skip RecordError}
    (hs : s ∈ relaySkips b w) :
    ∃ subs o, (DhcpOption.relay subs, o) ∈ w.items.zip w.offsets ∧ s ∈ relaySkipsAt b o := by
  obtain ⟨⟨x, o⟩, hx, hs⟩ := List.mem_flatMap.mp hs
  cases x with
  | relay subs => exact ⟨subs, o, hx, hs⟩
  | sentinel | plain => simp at hs

theorem relaySkipsAt_subset {w : Walk DhcpOption RecordError}
    (hx : (DhcpOption.relay subs, o) ∈ w.items.zip w.offsets) :
    relaySkipsAt b o ⊆ relaySkips b w :=
  fun _ hs => List.mem_flatMap.mpr ⟨_, hx, hs⟩

theorem relaySkipsAt_eq (b : List UInt8) (o : Nat) :
    relaySkipsAt b o =
      ((relayWalkAt b o).skipped.map (Skip.shift (o + 2))) ++
        match (relayWalkAt b o).cut with
        | none => []
        | some c =>
          [⟨o + 2 + (relayWalkAt b o).consumed, b.getD (o + 2 + (relayWalkAt b o).consumed) 0,
            if o + 2 + (relayWalkAt b o).consumed + 1 < o + 2 + (b.getD (o + 1) 0).toNat then
              b.getD (o + 2 + (relayWalkAt b o).consumed + 1) 0 else 0, .relayCut c⟩] := by
  unfold relaySkipsAt relayWalkAt
  simp only [List.extract_eq_take_drop, Nat.add_sub_cancel_left]
  split <;> simp_all

theorem mem_relaySkipsAt {s : Skip RecordError} (hs : s ∈ relaySkipsAt b o) :
    (∃ t ∈ (relayWalkAt b o).skipped, s = t.shift (o + 2)) ∨
      ∃ c, (relayWalkAt b o).cut = some c ∧ s.offset = o + 2 + (relayWalkAt b o).consumed ∧
        s.error = .relayCut c := by
  rw [relaySkipsAt_eq] at hs
  rcases List.mem_append.mp hs with hs | hs
  · obtain ⟨t, ht, rfl⟩ := List.mem_map.mp hs
    exact .inl ⟨t, ht, rfl⟩
  · cases hc : (relayWalkAt b o).cut with
    | none => simp [hc] at hs
    | some c =>
      simp only [hc, List.mem_singleton] at hs
      exact .inr ⟨c, rfl, by rw [hs], by rw [hs]⟩

theorem runOut_mem_relaySkipsAt {c : Cut} (hc : (relayWalkAt b o).cut = some c) :
    ∃ s ∈ relaySkipsAt b o, s.offset = o + 2 + (relayWalkAt b o).consumed ∧
      s.error = .relayCut c := by
  rw [relaySkipsAt_eq, hc]
  exact ⟨_, List.mem_append_right _ (List.mem_singleton_self _), rfl, rfl⟩

end Nested

section Skips

variable {b : List UInt8} {subs : List SubOption} {o : Nat}

theorem region_skip {s : Skip RecordError} (hs : s ∈ (walkOptions b).skipped) :
    SkipFits b .option s ∧ s.error.reason ≠ "truncated" := by
  have h : Chain optionRules b 0 (walkOptions b) := chain_walkAt optionRules b (Nat.zero_le _)
  obtain ⟨ht, -, hl, hv, hd⟩ := h.mem_skipped s hs
  obtain ⟨hu, hm, hn⟩ := DhcpOption.reason_of_decode_error hd
  exact ⟨⟨h.skip_boundary hs, ht, hl, hv, hu, hm⟩, hn⟩

theorem nested_skip (hx : (DhcpOption.relay subs, o) ∈
      (walkOptions b).items.zip (walkOptions b).offsets)
    {t : Skip RecordError} (ht : t ∈ (relayWalkAt b o).skipped) :
    SkipFits b .relay (t.shift (o + 2)) ∧ (t.shift (o + 2)).error.reason ≠ "truncated" ∧
      t.offset < (b.getD (o + 1) 0).toNat := by
  obtain ⟨-, len, -, -, hl, hv, hw, -⟩ := relay_item hx
  have hc : Chain relayRules (b.extract (o + 2) (o + 2 + len.toNat)) 0 (relayWalkAt b o) :=
    hw ▸ chain_walkAt relayRules _ (Nat.zero_le _)
  have hlen := length_extract_add hv
  obtain ⟨ht', -, hl', hv', hd'⟩ := hc.mem_skipped t ht
  rw [hlen] at hv'
  obtain ⟨hu, hm, hn⟩ := SubOption.reason_of_decode_error hd'
  have hgetD : b.getD (o + 1) 0 = len := by simp [List.getD_eq_getElem?_getD, hl]
  have hk0 : t.offset < len.toNat := by omega
  have hk1 : t.offset + 1 < len.toNat := by omega
  have htag : b[o + 2 + t.offset]? = some t.tag := by
    rw [← getElem?_extract_add hk0]
    exact ht'
  have hlength : b[o + 2 + t.offset + 1]? = some t.length := by
    rw [Nat.add_assoc, ← getElem?_extract_add hk1]
    exact hl'
  have hvalue : (b.extract (o + 2) (o + 2 + len.toNat)).extract (t.offset + 2)
      (t.offset + 2 + t.length.toNat) =
      b.extract (o + 2 + t.offset + 2) (o + 2 + t.offset + 2 + t.length.toNat) := by
    rw [extract_extract_add (by omega : t.offset + 2 + t.length.toNat ≤ len.toNat),
      Nat.add_assoc (o + 2) t.offset 2]
  rw [hvalue] at hm
  refine ⟨⟨⟨subs, o, t.offset, hx, by simp [Skip.shift]; omega, hc.skip_boundary ht⟩, ?_, ?_, ?_,
    ?_, ?_⟩, hn, by rw [hgetD]; exact hk0⟩
  all_goals simp only [Skip.shift, Nat.add_comm t.offset (o + 2)]
  · exact htag
  · exact hlength
  · omega
  · exact hu
  · exact hm

theorem not_region_record (hx : (DhcpOption.relay subs, o) ∈
      (walkOptions b).items.zip (walkOptions b).offsets)
    {k : Nat} (hk : k < (b.getD (o + 1) 0).toNat) : ¬ ChainRecord b .option (o + 2 + k) := by
  rintro ⟨hq, -⟩
  obtain ⟨tag, len, ht, hs, hl, -, -, -⟩ := relay_item hx
  have h : Chain optionRules b 0 (walkOptions b) := chain_walkAt optionRules b (Nat.zero_le _)
  have hgetD : b.getD (o + 1) 0 = len := by simp [List.getD_eq_getElem?_getD, hl]
  have hout := h.boundaries_outside _ hx _ hq
  rw [recordEnd_of_record ht hs hl] at hout
  rw [hgetD] at hk
  dsimp only at hout
  omega

theorem runOut_inside (hx : (DhcpOption.relay subs, o) ∈
      (walkOptions b).items.zip (walkOptions b).offsets)
    (hcut : (relayWalkAt b o).cut.isSome) :
    (relayWalkAt b o).consumed < (b.getD (o + 1) 0).toNat := by
  obtain ⟨-, len, -, -, hl, hv, hw, -⟩ := relay_item hx
  have hc : Chain relayRules (b.extract (o + 2) (o + 2 + len.toNat)) 0 (relayWalkAt b o) :=
    hw ▸ chain_walkAt relayRules _ (Nat.zero_le _)
  have hgetD : b.getD (o + 1) 0 = len := by simp [List.getD_eq_getElem?_getD, hl]
  have := (hc.cut_isSome_iff.mp hcut).1
  rw [length_extract_add hv] at this
  rw [hgetD]
  exact this

theorem nested_item (hx : (DhcpOption.relay subs, o) ∈
      (walkOptions b).items.zip (walkOptions b).offsets)
    {k : Nat} (hk : k ∈ (relayWalkAt b o).boundaries) (hklt : k < (relayWalkAt b o).consumed)
    {tag len : UInt8} {ent : CatalogEntry} {v : Value} (ht : b[o + 2 + k]? = some tag)
    (hl : b[o + 2 + k + 1]? = some len) (hent : Scope.relay.entry? tag = some ent)
    (hv : ent.layout.decodeFlat (b.extract (o + 2 + k + 2) (o + 2 + k + 2 + len.toNat)) = .ok v) :
    ((⟨tag, v⟩ : SubOption), k) ∈ subs.zip (relayWalkAt b o).offsets := by
  obtain ⟨-, len82, -, -, hl82, hv82, hw, hsubs⟩ := relay_item hx
  have hc : Chain relayRules (b.extract (o + 2) (o + 2 + len82.toNat)) 0 (relayWalkAt b o) :=
    hw ▸ chain_walkAt relayRules _ (Nat.zero_le _)
  have hcons := hc.consumed_le_length
  rw [length_extract_add hv82] at hcons
  have hk0 : k < len82.toNat := by omega
  have ht' : (b.extract (o + 2) (o + 2 + len82.toNat))[k]? = some tag := by
    rw [getElem?_extract_add hk0]
    exact ht
  have hs : isSentinel relayRules tag = false := by simp [isSentinel, relayRules]
  obtain ⟨len', hl', hend, -⟩ := hc.record_at k hk hklt tag ht' hs
  have hk1 : k + 1 < len82.toNat := by omega
  have hl'' : (b.extract (o + 2) (o + 2 + len82.toNat))[k + 1]? = some len := by
    rw [getElem?_extract_add hk1, ← Nat.add_assoc]
    exact hl
  rw [hl''] at hl'
  cases hl'
  have hd : relayRules.decode tag ((b.extract (o + 2) (o + 2 + len82.toNat)).extract (k + 2)
      (k + 2 + len.toNat)) = .ok ⟨tag, v⟩ := by
    rw [extract_extract_add (by omega : k + 2 + len.toNat ≤ len82.toNat),
      ← Nat.add_assoc (o + 2) k 2]
    exact SubOption.decode_ok hent hv
  rw [hsubs]
  exact hc.item_of_decode hk hklt ht' hs hl'' hd

theorem skip_origin {s : Skip RecordError} (hs : s ∈ (inspect b).skipped) :
    s ∈ (walkOptions b).skipped ∨ ∃ subs o,
      (DhcpOption.relay subs, o) ∈ (walkOptions b).items.zip (walkOptions b).offsets ∧
        s ∈ relaySkipsAt b o := by
  rcases List.mem_append.mp ((inspect_skipped_perm b).subset hs) with hs | hs
  · exact .inl hs
  · exact .inr (mem_relaySkips hs)

theorem reason_truncated_iff {s : Skip RecordError} (hs : s ∈ (inspect b).skipped) :
    s.error.reason = "truncated" ↔ RunOut b s.offset := by
  constructor
  · intro hr
    rcases skip_origin hs with hs' | ⟨subs, o, hx, hs'⟩
    · exact absurd hr (region_skip hs').2
    · rcases mem_relaySkipsAt hs' with ⟨t, ht, rfl⟩ | ⟨c, hc, hoff, -⟩
      · exact absurd hr (nested_skip hx ht).2.1
      · exact ⟨subs, o, hx, by simp [hc], hoff⟩
  · -- the run-out record at that offset is a skip of the report, and no two skips share one
    rintro ⟨subs, o, hx, hcut, hq⟩
    obtain ⟨c, hc⟩ := Option.isSome_iff_exists.mp hcut
    obtain ⟨u, hu, huoff, huerr⟩ := runOut_mem_relaySkipsAt hc
    have hu' : u ∈ (inspect b).skipped :=
      (inspect_skipped_perm b).symm.subset
        (List.mem_append_right _ (relaySkipsAt_subset hx hu))
    have heq : u = s := List.inj_on_of_nodup_map (inspect_offsets_nodup b) hu' hs
      (by rw [huoff, hq])
    rw [← heq, huerr]
    rfl

end Skips

/-- The reasons of a report's skips match their causes. -/
theorem inspect_skip_reasons (b : List UInt8) :
    (∀ s ∈ (inspect b).skipped, (s.error.reason = "truncated" ↔ RunOut b s.offset) ∧
      (s.error.reason ≠ "truncated" → ∃ sc, SkipFits b sc s)) ∧
    (∀ q tag len ent v, ChainRecord b .option q → b[q]? = some tag → b[q + 1]? = some len →
      Scope.option.entry? tag = some ent →
      ent.layout.decodeFlat (b.extract (q + 2) (q + 2 + len.toNat)) = .ok v →
      ∃ x, (x, q) ∈ (walkOptions b).items.zip (walkOptions b).offsets ∧
        DhcpOption.decode tag (b.extract (q + 2) (q + 2 + len.toNat)) = .ok x) ∧
    (∀ q tag len ent v, ChainRecord b .relay q → b[q]? = some tag → b[q + 1]? = some len →
      Scope.relay.entry? tag = some ent →
      ent.layout.decodeFlat (b.extract (q + 2) (q + 2 + len.toNat)) = .ok v →
      ∃ subs o, (DhcpOption.relay subs, o) ∈ (walkOptions b).items.zip (walkOptions b).offsets ∧
        o + 2 ≤ q ∧ ((⟨tag, v⟩ : SubOption), q - (o + 2)) ∈ subs.zip (relayWalkAt b o).offsets) ∧
    (∀ s ∈ (inspect b).skipped, ChainRecord b .option s.offset → s.tag ≠ 82) := by
  have h : Chain optionRules b 0 (walkOptions b) := chain_walkAt optionRules b (Nat.zero_le _)
  refine ⟨fun s hs => ⟨reason_truncated_iff hs, fun hr => ?_⟩, ?_, ?_, ?_⟩
  · rcases skip_origin hs with hs' | ⟨subs, o, hx, hs'⟩
    · exact ⟨.option, (region_skip hs').1⟩
    · rcases mem_relaySkipsAt hs' with ⟨t, ht, rfl⟩ | ⟨c, -, -, herr⟩
      · exact ⟨.relay, (nested_skip hx ht).1⟩
      · exact absurd (by rw [herr]; rfl) hr
  · rintro q tag len ent v ⟨hq, hlt⟩ ht hl hent hv
    obtain ⟨x, hd⟩ := DhcpOption.decode_ok hent hv
    exact ⟨x, h.item_of_decode hq hlt ht (isSentinel_optionRules_of_entry hent) hl hd, hd⟩
  · rintro q tag len ent v ⟨subs, o, k, hx, rfl, hk, hklt⟩ ht hl hent hv
    refine ⟨subs, o, hx, by omega, ?_⟩
    rw [Nat.add_sub_cancel_left]
    exact nested_item hx hk hklt ht hl hent hv
  · intro s hs hrec
    rcases skip_origin hs with hs' | ⟨subs, o, hx, hs'⟩
    · -- the region's chain decodes every option 82
      intro h82
      obtain ⟨-, -, -, -, hd⟩ := h.mem_skipped s hs'
      rw [h82] at hd
      change DhcpOption.decode 82 _ = _ at hd
      rw [DhcpOption.decode_relayAgent] at hd
      cases hd
    · -- a skip inside an option 82 lies strictly inside the option's record
      rcases mem_relaySkipsAt hs' with ⟨t, ht, rfl⟩ | ⟨c, hc, hoff, -⟩
      · have hoff : (t.shift (o + 2)).offset = o + 2 + t.offset := by
          simp only [Skip.shift]
          omega
        rw [hoff] at hrec
        exact absurd hrec (not_region_record hx (nested_skip hx ht).2.2)
      · rw [hoff] at hrec
        exact absurd hrec (not_region_record hx (runOut_inside hx (by simp [hc])))

theorem inspect_skip_reasons_runOut :
    (⟨9, 1, 5, .relayCut .value⟩ : Skip RecordError) ∈
        (inspect [99, 0, 19, 1, 0, 82, 5, 3, 0, 1, 5, 7]).skipped ∧
      RunOut [99, 0, 19, 1, 0, 82, 5, 3, 0, 1, 5, 7] 9 := by
  have hmem : (⟨9, 1, 5, .relayCut .value⟩ : Skip RecordError) ∈
      (inspect [99, 0, 19, 1, 0, 82, 5, 3, 0, 1, 5, 7]).skipped := by
    have h99 : Catalog.option? 99 = none := rfl
    have h19 : Catalog.option? 19 = some ⟨19, "IPForwarding", .flag⟩ := rfl
    have h82 : Catalog.option? 82 = some ⟨82, "RelayAgentInformation", .relay⟩ := rfl
    have h3 : Catalog.relay? 3 = none := rfl
    simp only [inspect, List.mem_mergeSort]
    simp [walkOptions, ofBytes, scanFrom, isSentinel, optionRules, DhcpOption.decode, h99, h19,
      h82, Layout.decodeFlat, Wire.flag, relaySkips, relaySkipsAt, walkRelay, relayRules,
      SubOption.decode, h3]
  exact ⟨hmem, ((inspect_skip_reasons _).1 _ hmem).1.mp rfl⟩

end Report

end DhcpDecoder
