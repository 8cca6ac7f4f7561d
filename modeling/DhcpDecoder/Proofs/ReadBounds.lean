import Mathlib
import DhcpDecoder.Proofs.SkipReasons

/-!
Decoding stays inside its buffer.
-/

namespace DhcpDecoder

open Record Walk

namespace Record.Walk

variable {α ε : Type}

structure InBounds (r : Rules α ε) (buf : List UInt8) (w : Walk α ε) : Prop where
  item_end : ∀ p ∈ w.offsets, recordEnd r buf p ≤ buf.length
  skip_end : ∀ s ∈ w.skipped, recordEnd r buf s.offset ≤ buf.length
  consumed_le : w.consumed ≤ buf.length
  header_cut : w.cut = some .header → w.consumed + 1 = buf.length
  value_cut : w.cut = some .value → w.consumed + 1 < buf.length ∧
    buf.length < recordEnd r buf w.consumed

variable {r : Rules α ε} {buf : List UInt8} {p : Nat} {w : Walk α ε}

theorem InBounds.withItem (hw : InBounds r buf w) (a : α) (hp : recordEnd r buf p ≤ buf.length) :
    InBounds r buf (w.withItem a p) where
  item_end q hq := by
    rcases List.mem_cons.mp hq with rfl | hq
    · exact hp
    · exact hw.item_end q hq
  skip_end := hw.skip_end
  consumed_le := hw.consumed_le
  header_cut := hw.header_cut
  value_cut := hw.value_cut

theorem InBounds.withSkip (hw : InBounds r buf w) (s : Skip ε)
    (hs : recordEnd r buf s.offset ≤ buf.length) : InBounds r buf (w.withSkip s) where
  item_end := hw.item_end
  skip_end t ht := by
    rcases List.mem_cons.mp ht with rfl | ht
    · exact hs
    · exact hw.skip_end t ht
  consumed_le := hw.consumed_le
  header_cut := hw.header_cut
  value_cut := hw.value_cut

theorem inBounds_stop (hp : p ≤ buf.length) (ended : Bool) :
    InBounds r buf (stop p ended none) where
  item_end := by simp
  skip_end := by simp
  consumed_le := hp
  header_cut := by simp
  value_cut := by simp

theorem Chain.inBounds (h : Chain r buf p w) : InBounds r buf w := by
  induction h with
  | finish hp => exact inBounds_stop hp.ge false
  | stopAtEnd ht hs _ =>
    have hp := lt_length_of_getElem_eq_some ht
    exact (inBounds_stop hp true).withItem _ (by rw [recordEnd_of_sentinel ht hs]; omega)
  | pad ht hs _ _ ih =>
    have hp := lt_length_of_getElem_eq_some ht
    exact ih.withItem _ (by rw [recordEnd_of_sentinel ht hs]; omega)
  | @shortHeader q tag ht hs hn =>
    refine ⟨by simp, by simp, by simp; omega, fun _ => by simp [hn], ?_⟩
    simp
  | @shortValue q tag len ht hs hl hv =>
    have hq := lt_length_of_getElem_eq_some hl
    refine ⟨by simp, by simp, by simp; omega, by simp, fun _ => ⟨hq, ?_⟩⟩
    rw [stop_consumed, recordEnd_of_record ht hs hl]
    exact hv
  | item ht hs hl hv _ _ ih => exact ih.withItem _ (by rw [recordEnd_of_record ht hs hl]; exact hv)
  | skip ht hs hl hv _ _ ih => exact ih.withSkip _ (by rw [recordEnd_of_record ht hs hl]; exact hv)

theorem ofBytes_inBounds (r : Rules α ε) (buf : List UInt8) : InBounds r buf (ofBytes r buf) :=
  (chain_ofBytes r buf).inBounds

end Record.Walk

namespace Report

/-- Decoding and inspecting a region never read outside it. -/
theorem inspect_reads_within (b : List UInt8) :
    InBounds optionRules b (walkOptions b) ∧
      ∀ subs o, (DhcpOption.relay subs, o) ∈ (walkOptions b).items.zip (walkOptions b).offsets →
        o + 1 < b.length ∧ o + 2 + (b.getD (o + 1) 0).toNat ≤ b.length ∧
        InBounds relayRules (b.extract (o + 2) (o + 2 + (b.getD (o + 1) 0).toNat))
          (relayWalkAt b o) ∧
        ((relayWalkAt b o).cut.isSome →
          o + 2 + (relayWalkAt b o).consumed < o + 2 + (b.getD (o + 1) 0).toNat) := by
  refine ⟨ofBytes_inBounds optionRules b, fun subs o hx => ?_⟩
  obtain ⟨-, len, -, -, hl, hv, -, -⟩ := relay_item hx
  have hlen : b.getD (o + 1) 0 = len := by simp [List.getD_eq_getElem?_getD, hl]
  refine ⟨by omega, by rw [hlen]; exact hv, ofBytes_inBounds relayRules _, fun hcut => ?_⟩
  have := runOut_inside hx hcut
  omega

theorem inspect_reads_within_runOut :
    (DhcpOption.relay [], 0) ∈
        (walkOptions [82, 3, 1, 5, 7]).items.zip (walkOptions [82, 3, 1, 5, 7]).offsets ∧
      (relayWalkAt [82, 3, 1, 5, 7] 0).cut.isSome ∧
      0 + 2 + (relayWalkAt [82, 3, 1, 5, 7] 0).consumed <
        0 + 2 + ([82, 3, 1, 5, 7].getD (0 + 1) 0 : UInt8).toNat := by
  have h82 : Catalog.option? 82 = some ⟨82, "RelayAgentInformation", .relay⟩ := rfl
  have hx : (DhcpOption.relay [], 0) ∈
      (walkOptions [82, 3, 1, 5, 7]).items.zip (walkOptions [82, 3, 1, 5, 7]).offsets := by
    simp [walkOptions, ofBytes, scanFrom, isSentinel, optionRules, DhcpOption.decode, h82,
      walkRelay, relayRules]
  have hcut : (relayWalkAt [82, 3, 1, 5, 7] 0).cut.isSome := by
    simp [relayWalkAt, walkRelay, ofBytes, scanFrom, isSentinel, relayRules]
  exact ⟨hx, hcut, ((inspect_reads_within _).2 _ _ hx).2.2.2 hcut⟩

end Report

end DhcpDecoder
