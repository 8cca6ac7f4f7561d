import Mathlib
import DhcpDecoder.Proofs.ReadBounds

/-!
Record ends in platform integers.
-/

namespace DhcpDecoder

open Record Walk

/-- `a + b` in `w`-bit two's-complement integers: the operands and the sum wrap to `w` bits and are
read back as signed numbers. -/
def intAdd (w : Nat) (a b : Int) : Int :=
  (BitVec.ofInt w a + BitVec.ofInt w b).toInt

section IntAdd

variable {w : Nat}

theorem intAdd_eq_bmod (a b : Int) : intAdd w a b = (a + b).bmod (2 ^ w) := by
  rw [intAdd, BitVec.toInt_add, BitVec.toInt_ofInt, BitVec.toInt_ofInt, Int.bmod_add_bmod,
    Int.add_bmod_bmod]

theorem intAdd_lt (a b : Int) : intAdd w a b < 2 ^ (w - 1) :=
  BitVec.toInt_lt

theorem intAdd_eq_iff (a b : Nat) : intAdd w a b = a + b ↔ (a + b : Nat) < 2 ^ (w - 1) := by
  constructor
  · intro h
    have hlt := intAdd_lt (w := w) a b
    rw [h] at hlt
    exact_mod_cast hlt
  · intro h
    rcases Nat.eq_zero_or_pos w with rfl | hw
    · -- at width zero only the sum zero is below one, and every sum reads back as zero
      obtain ⟨rfl, rfl⟩ : a = 0 ∧ b = 0 := by simpa using h
      rfl
    have hpow : 2 ^ w = 2 * 2 ^ (w - 1) := by rw [← pow_succ', Nat.sub_add_cancel hw]
    have hfit : (a + b) * 2 < 2 ^ w := by omega
    have hfit' : ((a : Int) + b) * 2 < ((2 ^ w : Nat) : Int) := by exact_mod_cast hfit
    rw [intAdd_eq_bmod]
    exact_mod_cast Int.bmod_eq_of_le_mul_two (by omega) hfit'

theorem intAdd_end_eq_iff (p n : Nat) :
    intAdd w (intAdd w p 2) n = p + 2 + n ↔ (p + 2 + n : Nat) < 2 ^ (w - 1) := by
  constructor
  · intro h
    have hlt := intAdd_lt (w := w) (intAdd w p 2) n
    rw [h] at hlt
    exact_mod_cast hlt
  · intro h
    -- the first sum is smaller, so it is true as well
    have hstart : intAdd w p 2 = ((p + 2 : Nat) : Int) := by
      exact_mod_cast (intAdd_eq_iff p 2).mpr (by omega)
    rw [hstart]
    exact_mod_cast (intAdd_eq_iff (p + 2) n).mpr h

end IntAdd

namespace Record.Walk

variable {α ε : Type}

/-- The length-bearing records a walk over `buf` read up to their length byte, each as its offset
and its length byte: the items that are no sentinel, the skipped records, and the record whose value
ran past the end. -/
def lengthHeaders (r : Rules α ε) (buf : List UInt8) (w : Walk α ε) : List (Nat × UInt8) :=
  ((w.offsets.filter fun o => !isSentinel r (buf.getD o 0)) ++ w.skipped.map (·.offset) ++
      (if w.cut = some .value then [w.consumed] else [])).map fun o => (o, buf.getD (o + 1) 0)

variable {r : Rules α ε} {buf : List UInt8}

theorem lengthHeaders_within :
    ∀ x ∈ lengthHeaders r buf (ofBytes r buf), x.1 + 1 < buf.length := by
  have hb := ofBytes_inBounds r buf
  have hchain := chain_ofBytes r buf
  intro x hx
  simp only [lengthHeaders, List.mem_map, List.mem_append, List.mem_filter] at hx
  obtain ⟨o, ho, rfl⟩ := hx
  rcases ho with (⟨ho, hs⟩ | ho) | ho
  · -- an item that is no sentinel ends inside the buffer, past its length byte
    have hend := hb.item_end o ho
    simp only [recordEnd, Bool.not_eq_true'] at hend hs
    rw [hs] at hend
    simp only [Bool.false_eq_true, if_false] at hend
    simp only
    omega
  · obtain ⟨s, hs, rfl⟩ := ho
    have := (hchain.mem_skipped s hs).2.2.2.1
    simp only
    omega
  · split at ho
    · rename_i hcut
      rw [List.mem_singleton] at ho
      subst ho
      exact (hb.value_cut hcut).1
    · simp at ho

theorem lengthHeaders_end_lt :
    ∀ x ∈ lengthHeaders r buf (ofBytes r buf), x.1 + 2 + x.2.toNat < buf.length + 256 := by
  intro x hx
  have := lengthHeaders_within x hx
  have := x.2.toNat_lt
  omega

theorem scanFrom_pads_then (hs : r.sentinels = true) (n p : Nat) (rest : List UInt8) :
    (scanFrom r p (List.replicate n 0 ++ rest)).cut = (scanFrom r (p + n) rest).cut ∧
      (scanFrom r p (List.replicate n 0 ++ rest)).consumed =
        (scanFrom r (p + n) rest).consumed := by
  induction n generalizing p with
  | zero => simp
  | succ n ih =>
    have hpad : isSentinel r 0 = true := by simp [isSentinel, hs]
    obtain ⟨hcut, hconsumed⟩ := ih (p + 1)
    have hstep : p + 1 + n = p + (n + 1) := by omega
    rw [List.replicate_succ, List.cons_append, scanFrom_pad hpad (by decide), withItem_cut,
      withItem_consumed, hcut, hconsumed, hstep]
    exact ⟨rfl, rfl⟩

end Record.Walk

theorem lengthHeaders_pads_short (n : Nat) :
    (n, (255 : UInt8)) ∈ lengthHeaders optionRules (List.replicate n 0 ++ [1, 255])
      (walkOptions (List.replicate n 0 ++ [1, 255])) := by
  have hwalk := scanFrom_pads_then (r := optionRules) rfl n 0 [1, 255]
  rw [scanFrom_short_value (by decide) (by decide), Nat.zero_add] at hwalk
  obtain ⟨hcut, hconsumed⟩ := hwalk
  have hlen : (List.replicate n (0 : UInt8) ++ [1, 255]).getD (n + 1) 0 = 255 := by
    simp [List.getD_eq_getElem?_getD]
  simp only [lengthHeaders, walkOptions, ofBytes, hcut, hconsumed, stop_cut, stop_consumed,
    if_pos, List.mem_map, List.mem_append, List.mem_singleton]
  exact ⟨n, .inr rfl, by rw [hlen]⟩

theorem padsEnd_wraps {w n : Nat} (hn : 2 ^ (w - 1) ≤ n + 257) :
    intAdd w (intAdd w n 2) (255 : UInt8).toNat ≠ n + 2 + (255 : UInt8).toNat := by
  intro h
  have hfits := (intAdd_end_eq_iff n (255 : UInt8).toNat).mp h
  rw [show (255 : UInt8).toNat = 255 from rfl] at hfits
  omega

theorem relayBounds_fit {w : Nat} {b : List UInt8} {subs : List SubOption} {o : Nat}
    (hb : b.length < 2 ^ (w - 1))
    (hx : (DhcpOption.relay subs, o) ∈ (walkOptions b).items.zip (walkOptions b).offsets) :
    intAdd w o 2 = o + 2 ∧
      intAdd w (o + 2) (b.getD (o + 1) 0).toNat = o + 2 + (b.getD (o + 1) 0).toNat := by
  obtain ⟨-, len, -, -, hl, hv, -, -⟩ := Report.relay_item hx
  have hlen : b.getD (o + 1) 0 = len := by simp [List.getD_eq_getElem?_getD, hl]
  rw [hlen]
  constructor
  · exact_mod_cast (intAdd_eq_iff o 2).mpr (by omega)
  · exact_mod_cast (intAdd_eq_iff (o + 2) _).mpr (by omega)

/-- The value ends a walk computes, in `w`-bit integers, are the true sums for every buffer at least
256 bytes shorter than `2 ^ (w - 1)`, whatever the walk's rules; and this bound is exact, since Pad
bytes followed by a tag and the length byte 255 give, at every greater length, an end that wraps. -/
theorem recordEnds_fit_exactly (w : Nat) :
    (∀ {α ε : Type} (r : Rules α ε) (buf : List UInt8), buf.length + 256 ≤ 2 ^ (w - 1) →
        ∀ x ∈ lengthHeaders r buf (ofBytes r buf),
          intAdd w (intAdd w x.1 2) x.2.toNat = x.1 + 2 + x.2.toNat) ∧
    (∀ n : Nat, 2 ^ (w - 1) ≤ n + 257 →
        ∃ x ∈ lengthHeaders optionRules (List.replicate n 0 ++ [1, 255])
            (walkOptions (List.replicate n 0 ++ [1, 255])),
          intAdd w (intAdd w x.1 2) x.2.toNat ≠ x.1 + 2 + x.2.toNat) ∧
    (∀ (b : List UInt8) (subs : List SubOption) (o : Nat), b.length < 2 ^ (w - 1) →
        (DhcpOption.relay subs, o) ∈ (walkOptions b).items.zip (walkOptions b).offsets →
        intAdd w o 2 = o + 2 ∧
          intAdd w (o + 2) (b.getD (o + 1) 0).toNat = o + 2 + (b.getD (o + 1) 0).toNat) := by
  refine ⟨fun r buf hbuf x hx => ?_, fun n hn => ?_, fun b subs o hb hx => relayBounds_fit hb hx⟩
  · have := lengthHeaders_end_lt x hx
    exact (intAdd_end_eq_iff x.1 x.2.toNat).mpr (by omega)
  · exact ⟨_, lengthHeaders_pads_short n, padsEnd_wraps hn⟩

theorem recordEnd_fits_after_pads :
    intAdd 32 (intAdd 32 (3 : Nat) 2) (255 : UInt8).toNat = (3 : Nat) + 2 + (255 : UInt8).toNat :=
  (recordEnds_fit_exactly 32).1 optionRules (List.replicate 3 0 ++ [1, 255]) (by norm_num) (3, 255)
    (lengthHeaders_pads_short 3)

theorem recordEnd_wraps_int32 :
    (List.replicate 2147483645 (0 : UInt8) ++ [1, 255]).length ≤ 2 ^ (32 - 1) - 1 ∧
      ∃ x ∈ lengthHeaders optionRules (List.replicate 2147483645 0 ++ [1, 255])
          (walkOptions (List.replicate 2147483645 0 ++ [1, 255])),
        intAdd 32 (intAdd 32 x.1 2) x.2.toNat ≠ x.1 + 2 + x.2.toNat := by
  have hlen : (List.replicate 2147483645 (0 : UInt8) ++ [1, 255]).length = 2147483645 + 2 := by
    rw [List.length_append, List.length_replicate]
    rfl
  refine ⟨?_, _, lengthHeaders_pads_short 2147483645, padsEnd_wraps (by norm_num)⟩
  rw [hlen]
  norm_num

end DhcpDecoder
