import Mathlib
import DhcpDecoder.Option.Report
import DhcpDecoder.Proofs.RecordChain

/-!
Inspection reports of option regions.
-/

namespace DhcpDecoder

open Record Walk

namespace Record.Walk

theorem Chain.shift_skipped {α ε : Type} {r : Rules α ε} {buf : List UInt8} {w : Walk α ε}
    (h : Chain r buf 0 w) (k : Nat) :
    (∀ s ∈ w.skipped.map (Skip.shift k), k ≤ s.offset ∧ s.offset + 2 ≤ k + w.consumed) ∧
      (w.skipped.map (Skip.shift k)).Pairwise (fun s t => s.offset < t.offset) := by
  refine ⟨fun s hs => ?_, List.pairwise_map.mpr (h.skipped_sorted.imp fun hst => ?_)⟩
  · obtain ⟨t, ht, rfl⟩ := List.mem_map.mp hs
    have := h.skipped_within t ht
    simp only [Skip.shift]
    omega
  · simp only [Skip.shift]
    omega

end Record.Walk

namespace Report

def relayWalkAt (b : List UInt8) (o : Nat) : Walk SubOption RecordError :=
  walkRelay (b.extract (o + 2) (o + 2 + (b.getD (o + 1) 0).toNat))

theorem length_relaySkipsAt (b : List UInt8) (o : Nat) :
    (relaySkipsAt b o).length =
      (relayWalkAt b o).skipped.length + if (relayWalkAt b o).cut.isSome then 1 else 0 := by
  unfold relaySkipsAt relayWalkAt
  simp only [List.extract_eq_take_drop, Nat.add_sub_cancel_left]
  split <;> simp_all

section Within

variable {b : List UInt8} {o : Nat} {len : UInt8}

theorem relaySkipsAt_within (hl : b[o + 1]? = some len) (hv : o + 2 + len.toNat ≤ b.length) :
    (∀ s ∈ relaySkipsAt b o, o + 2 ≤ s.offset ∧ s.offset < o + 2 + len.toNat) ∧
      (relaySkipsAt b o).Pairwise (fun s t => s.offset < t.offset) := by
  have hlen : b.getD (o + 1) 0 = len := by simp [List.getD_eq_getElem?_getD, hl]
  set value := (b.drop (o + 2)).take len.toNat with hvalue
  have hvlen : value.length = len.toNat := by
    rw [hvalue]
    simp
    omega
  have hc : Chain relayRules value 0 (walkRelay value) :=
    chain_walkAt relayRules value (Nat.zero_le _)
  have hconsumed := hc.consumed_le_length
  rw [hvlen] at hconsumed
  obtain ⟨hmoved, hsorted⟩ := hc.shift_skipped (o + 2)
  unfold relaySkipsAt
  simp only [hlen, ← hvalue]
  split
  · exact ⟨fun s hs => by have := hmoved s hs; omega, hsorted⟩
  · -- a cut sub-option chain adds its run-out record where it stopped, still inside the value
    rename_i c hcut
    have hshort := (hc.cut_isSome_iff.mp (by simp [hcut])).1
    rw [hvlen] at hshort
    refine ⟨fun s hs => ?_,
      List.pairwise_append.mpr ⟨hsorted, by simp, fun s hs t ht => ?_⟩⟩
    · rcases List.mem_append.mp hs with hs | hs
      · have := hmoved s hs
        omega
      · rw [List.mem_singleton.mp hs]
        dsimp only
        omega
    · rw [List.mem_singleton.mp ht]
      have := hmoved s hs
      dsimp only
      omega

end Within

section Skips

variable {b : List UInt8} {p : Nat} {w : Walk DhcpOption RecordError}

@[simp] theorem relaySkips_stop (b : List UInt8) (p : Nat) (ended : Bool) (cut : Option Cut) :
    relaySkips b (stop p ended cut) = [] := rfl

@[simp] theorem relaySkips_withSkip (b : List UInt8) (s : Skip RecordError) :
    relaySkips b (w.withSkip s) = relaySkips b w := rfl

@[simp] theorem relaySkips_withItem_relay (b : List UInt8) (subs : List SubOption) (p : Nat) :
    relaySkips b (w.withItem (.relay subs) p) = relaySkipsAt b p ++ relaySkips b w := rfl

@[simp] theorem relaySkips_withItem_sentinel (b : List UInt8) (c : UInt8) (p : Nat) :
    relaySkips b (w.withItem (.sentinel c) p) = relaySkips b w := rfl

@[simp] theorem relaySkips_withItem_plain (b : List UInt8) (c : UInt8) (v : Value) (p : Nat) :
    relaySkips b (w.withItem (.plain c v) p) = relaySkips b w := rfl

theorem length_relaySkips (b : List UInt8) (w : Walk DhcpOption RecordError) :
    (relaySkips b w).length = ((w.items.zip w.offsets).map fun x =>
      match x.1 with
      | .relay _ => (relayWalkAt b x.2).skipped.length +
          if (relayWalkAt b x.2).cut.isSome then 1 else 0
      | _ => 0).sum := by
  rw [relaySkips, List.length_flatMap]
  congr 1
  refine List.map_congr_left fun x _ => ?_
  obtain ⟨o, off⟩ := x
  cases o <;> simp [length_relaySkipsAt]

end Skips

end Report

namespace Record.Walk

variable {b : List UInt8} {p : Nat} {w : Walk DhcpOption RecordError}

theorem Chain.skip_offsets_nodup (h : Chain optionRules b p w) :
    (∀ s ∈ w.skipped ++ Report.relaySkips b w, p ≤ s.offset) ∧
      ((w.skipped ++ Report.relaySkips b w).map (·.offset)).Nodup := by
  induction h with
  | finish | shortHeader | shortValue => simp
  | stopAtEnd => simp [optionRules]
  | pad _ _ _ _ ih =>
    refine ⟨fun s hs => ?_, by simpa [optionRules] using ih.2⟩
    have := ih.1 s (by simpa [optionRules] using hs)
    omega
  | @item q tag len x w' ht hs hl hv hd hw ih =>
    obtain ⟨hge, hnodup⟩ := ih
    cases x with
    | relay subs =>
      -- the value of this option 82 lies between its header and the next record
      obtain ⟨hin, hsorted⟩ := Report.relaySkipsAt_within hl hv
      simp only [withItem_skipped, Report.relaySkips_withItem_relay]
      refine ⟨fun s hs => ?_, ?_⟩
      · rcases List.mem_append.mp hs with hs | hs
        · have := hge s (List.mem_append_left _ hs)
          omega
        · rcases List.mem_append.mp hs with hs | hs
          · have := (hin s hs).1
            omega
          · have := hge s (List.mem_append_right _ hs)
            omega
      · have hperm := (List.perm_append_comm_assoc w'.skipped (Report.relaySkipsAt b q)
          (Report.relaySkips b w')).map (·.offset)
        refine hperm.nodup_iff.mpr ?_
        rw [List.map_append]
        refine List.nodup_append.mpr ⟨(List.pairwise_map.mpr hsorted).imp Nat.ne_of_lt, hnodup,
          fun a ha c hc => ?_⟩
        obtain ⟨s, hs, rfl⟩ := List.mem_map.mp ha
        obtain ⟨t, ht, rfl⟩ := List.mem_map.mp hc
        have := (hin s hs).2
        have := hge t ht
        omega
    | sentinel c =>
      simp only [withItem_skipped, Report.relaySkips_withItem_sentinel]
      exact ⟨fun s hs => by have := hge s hs; omega, hnodup⟩
    | plain c v =>
      simp only [withItem_skipped, Report.relaySkips_withItem_plain]
      exact ⟨fun s hs => by have := hge s hs; omega, hnodup⟩
  | @skip q tag len e w' ht hs hl hv hd hw ih =>
    obtain ⟨hge, hnodup⟩ := ih
    simp only [withSkip_skipped, Report.relaySkips_withSkip, List.cons_append, List.map_cons]
    refine ⟨fun s hs => ?_, List.nodup_cons.mpr ⟨fun hq => ?_, hnodup⟩⟩
    · rcases List.mem_cons.mp hs with rfl | hs
      · exact Nat.le_refl _
      · have := hge s hs
        omega
    · obtain ⟨t, ht, heq⟩ := List.mem_map.mp hq
      have := hge t ht
      omega

theorem Chain.relay_record (h : Chain optionRules b p w) {subs : List SubOption} {o : Nat}
    (hx : (DhcpOption.relay subs, o) ∈ w.items.zip w.offsets) :
    ∃ len : UInt8, b[o + 1]? = some len ∧ o + 2 + len.toNat ≤ b.length := by
  rcases h.mem_items _ hx with ⟨tag, _, _, heq⟩ | ⟨tag, len, _, hl, hv, _⟩
  · simp [optionRules] at heq
  · exact ⟨len, hl, hv⟩

end Record.Walk

namespace Report

theorem inspect_skipped_perm (b : List UInt8) :
    (inspect b).skipped.Perm ((walkOptions b).skipped ++ relaySkips b (walkOptions b)) :=
  List.mergeSort_perm _ _

theorem inspect_offsets_nodup (b : List UInt8) : ((inspect b).skipped.map (·.offset)).Nodup :=
  ((inspect_skipped_perm b).map _).nodup_iff.mpr
    (chain_walkAt optionRules b (Nat.zero_le _)).skip_offsets_nodup.2

theorem inspect_spec (b : List UInt8) :
    (inspect b).options = decodeOptions b ∧ (inspect b).length = b.length ∧
      (inspect b).consumed = (walkOptions b).consumed ∧
      (inspect b).ended = (walkOptions b).ended ∧ (inspect b).cut = (walkOptions b).cut ∧
      (inspect b).skipped.Perm ((walkOptions b).skipped ++ relaySkips b (walkOptions b)) ∧
      (inspect b).skipped.Pairwise (fun s t => s.offset < t.offset) ∧
      ((inspect b).skipped.map (·.offset)).Nodup ∧
      (∀ subs o,
        (DhcpOption.relay subs, o) ∈ (walkOptions b).items.zip (walkOptions b).offsets →
        ∀ s ∈ relaySkipsAt b o, o + 2 ≤ s.offset ∧
          s.offset < o + 2 + (b.getD (o + 1) 0).toNat) ∧
      (inspect b).skipped.length = (walkOptions b).skipped.length +
        (((walkOptions b).items.zip (walkOptions b).offsets).map fun x =>
          match x.1 with
          | .relay _ => (relayWalkAt b x.2).skipped.length +
              if (relayWalkAt b x.2).cut.isSome then 1 else 0
          | _ => 0).sum := by
  set w := walkOptions b
  set rep := inspect b
  have h : Chain optionRules b 0 w := chain_walkAt optionRules b (Nat.zero_le _)
  have hperm : rep.skipped.Perm (w.skipped ++ relaySkips b w) := inspect_skipped_perm b
  have hnodup : (rep.skipped.map (·.offset)).Nodup := inspect_offsets_nodup b
  have hle : rep.skipped.Pairwise (fun s t => decide (s.offset ≤ t.offset) = true) :=
    List.pairwise_mergeSort (fun s t u hst htu => by simp at hst htu ⊢; omega)
      (fun s t => by simpa using Nat.le_total s.offset t.offset) _
  have hsorted : rep.skipped.Pairwise (fun s t => s.offset < t.offset) :=
    hle.imp₂ (fun s t hst hne => Nat.lt_of_le_of_ne (by simpa using hst) hne)
      (List.pairwise_map.mp hnodup)
  have hwithin : ∀ subs o, (DhcpOption.relay subs, o) ∈ w.items.zip w.offsets →
      ∀ s ∈ relaySkipsAt b o, o + 2 ≤ s.offset ∧
        s.offset < o + 2 + (b.getD (o + 1) 0).toNat := by
    intro subs o hx s hs
    obtain ⟨len, hl, hv⟩ := h.relay_record hx
    have hlen : b.getD (o + 1) 0 = len := by simp [List.getD_eq_getElem?_getD, hl]
    rw [hlen]
    exact (relaySkipsAt_within hl hv).1 s hs
  refine ⟨rfl, rfl, rfl, rfl, rfl, hperm, hsorted, hnodup, hwithin, ?_⟩
  rw [hperm.length_eq, List.length_append, length_relaySkips]

end Report

end DhcpDecoder
