import Mathlib
import DhcpDecoder.Record.Walk

/-!
The record chain of a buffer, read by position.
-/

namespace DhcpDecoder.Record.Walk

variable {α ε : Type}

section Fields

variable (p : Nat) (ended : Bool) (cut : Option Cut) (a : α) (s : Skip ε) (w : Walk α ε)

@[simp] theorem stop_items : (stop p ended cut : Walk α ε).items = [] := rfl
@[simp] theorem stop_offsets : (stop p ended cut : Walk α ε).offsets = [] := rfl
@[simp] theorem stop_skipped : (stop p ended cut : Walk α ε).skipped = [] := rfl
@[simp] theorem stop_consumed : (stop p ended cut : Walk α ε).consumed = p := rfl
@[simp] theorem stop_ended : (stop p ended cut : Walk α ε).ended = ended := rfl
@[simp] theorem stop_cut : (stop p ended cut : Walk α ε).cut = cut := rfl

@[simp] theorem withItem_items : (w.withItem a p).items = a :: w.items := rfl
@[simp] theorem withItem_offsets : (w.withItem a p).offsets = p :: w.offsets := rfl
@[simp] theorem withItem_skipped : (w.withItem a p).skipped = w.skipped := rfl
@[simp] theorem withItem_consumed : (w.withItem a p).consumed = w.consumed := rfl
@[simp] theorem withItem_ended : (w.withItem a p).ended = w.ended := rfl
@[simp] theorem withItem_cut : (w.withItem a p).cut = w.cut := rfl

@[simp] theorem withSkip_items : (w.withSkip s).items = w.items := rfl
@[simp] theorem withSkip_offsets : (w.withSkip s).offsets = w.offsets := rfl
@[simp] theorem withSkip_skipped : (w.withSkip s).skipped = s :: w.skipped := rfl
@[simp] theorem withSkip_consumed : (w.withSkip s).consumed = w.consumed := rfl
@[simp] theorem withSkip_ended : (w.withSkip s).ended = w.ended := rfl
@[simp] theorem withSkip_cut : (w.withSkip s).cut = w.cut := rfl

end Fields

section Steps

variable {r : Rules α ε} {tag len : UInt8} {body : List UInt8}

theorem scanFrom_nil (r : Rules α ε) (p : Nat) : scanFrom r p [] = stop p false none := by
  rw [scanFrom]

theorem scanFrom_end (hs : isSentinel r tag = true) (he : tag = 255) (p : Nat)
    (rest : List UInt8) :
    scanFrom r p (tag :: rest) = (stop (p + 1) true none).withItem (r.sentinel tag) p := by
  subst he
  cases rest <;> simp [scanFrom, hs]

theorem scanFrom_pad (hs : isSentinel r tag = true) (he : tag ≠ 255) (p : Nat)
    (rest : List UInt8) :
    scanFrom r p (tag :: rest) = (scanFrom r (p + 1) rest).withItem (r.sentinel tag) p := by
  cases rest <;> simp [scanFrom, hs, he]

theorem scanFrom_short_header (hs : isSentinel r tag = false) (p : Nat) :
    scanFrom r p [tag] = stop p false (some .header) := by
  simp [scanFrom, hs]

theorem scanFrom_short_value (hs : isSentinel r tag = false) (hv : body.length < len.toNat)
    (p : Nat) : scanFrom r p (tag :: len :: body) = stop p false (some .value) := by
  simp [scanFrom, hs, hv]

theorem scanFrom_item {a : α} (hs : isSentinel r tag = false) (hv : len.toNat ≤ body.length)
    (hd : r.decode tag (body.take len.toNat) = .ok a) (p : Nat) :
    scanFrom r p (tag :: len :: body) =
      (scanFrom r (p + 2 + len.toNat) (body.drop len.toNat)).withItem a p := by
  rw [scanFrom]
  simp [hs, Nat.not_lt.mpr hv, hd]

theorem scanFrom_skip {e : ε} (hs : isSentinel r tag = false) (hv : len.toNat ≤ body.length)
    (hd : r.decode tag (body.take len.toNat) = .error e) (p : Nat) :
    scanFrom r p (tag :: len :: body) =
      (scanFrom r (p + 2 + len.toNat) (body.drop len.toNat)).withSkip ⟨p, tag, len, e⟩ := by
  rw [scanFrom]
  simp [hs, Nat.not_lt.mpr hv, hd]

end Steps

def walkAt (r : Rules α ε) (buf : List UInt8) (p : Nat) : Walk α ε :=
  scanFrom r p (buf.drop p)

theorem walkAt_zero (r : Rules α ε) (buf : List UInt8) : walkAt r buf 0 = ofBytes r buf := rfl

section Positions

variable {r : Rules α ε} {buf : List UInt8} {p : Nat} {tag len : UInt8}

theorem lt_length_of_getElem_eq_some (h : buf[p]? = some tag) : p < buf.length :=
  (List.getElem?_eq_some_iff.mp h).1

theorem drop_eq_cons {p : Nat} (h : buf[p]? = some tag) :
    buf.drop p = tag :: buf.drop (p + 1) := by
  obtain ⟨hp, rfl⟩ := List.getElem?_eq_some_iff.mp h
  exact List.drop_eq_getElem_cons hp

theorem drop_eq_record (ht : buf[p]? = some tag) (hl : buf[p + 1]? = some len) :
    buf.drop p = tag :: len :: buf.drop (p + 2) := by
  rw [drop_eq_cons ht, drop_eq_cons hl]

theorem walkAt_finish (h : buf.length = p) : walkAt r buf p = stop p false none := by
  rw [walkAt, List.drop_eq_nil_of_le (by omega), scanFrom_nil]

theorem walkAt_end (ht : buf[p]? = some tag) (hs : isSentinel r tag = true) (he : tag = 255) :
    walkAt r buf p = (stop (p + 1) true none).withItem (r.sentinel tag) p := by
  rw [walkAt, drop_eq_cons ht, scanFrom_end hs he]

theorem walkAt_pad (ht : buf[p]? = some tag) (hs : isSentinel r tag = true) (he : tag ≠ 255) :
    walkAt r buf p = (walkAt r buf (p + 1)).withItem (r.sentinel tag) p := by
  rw [walkAt, drop_eq_cons ht, scanFrom_pad hs he, walkAt]

theorem walkAt_short_header (ht : buf[p]? = some tag) (hs : isSentinel r tag = false)
    (hn : buf.length = p + 1) : walkAt r buf p = stop p false (some .header) := by
  rw [walkAt, drop_eq_cons ht, List.drop_eq_nil_of_le (by omega),
    scanFrom_short_header hs]

theorem walkAt_short_value (ht : buf[p]? = some tag) (hs : isSentinel r tag = false)
    (hl : buf[p + 1]? = some len) (hv : buf.length < p + 2 + len.toNat) :
    walkAt r buf p = stop p false (some .value) := by
  have hp := lt_length_of_getElem_eq_some hl
  rw [walkAt, drop_eq_record ht hl, scanFrom_short_value hs (by simp; omega)]

theorem extract_record (buf : List UInt8) (p : Nat) (len : UInt8) :
    buf.extract (p + 2) (p + 2 + len.toNat) = (buf.drop (p + 2)).take len.toNat := by
  simp

theorem walkAt_item {a : α} (ht : buf[p]? = some tag) (hs : isSentinel r tag = false)
    (hl : buf[p + 1]? = some len) (hv : p + 2 + len.toNat ≤ buf.length)
    (hd : r.decode tag (buf.extract (p + 2) (p + 2 + len.toNat)) = .ok a) :
    walkAt r buf p = (walkAt r buf (p + 2 + len.toNat)).withItem a p := by
  rw [extract_record] at hd
  rw [walkAt, drop_eq_record ht hl, scanFrom_item hs (by simp; omega) hd, walkAt,
    List.drop_drop]

theorem walkAt_skip {e : ε} (ht : buf[p]? = some tag) (hs : isSentinel r tag = false)
    (hl : buf[p + 1]? = some len) (hv : p + 2 + len.toNat ≤ buf.length)
    (hd : r.decode tag (buf.extract (p + 2) (p + 2 + len.toNat)) = .error e) :
    walkAt r buf p = (walkAt r buf (p + 2 + len.toNat)).withSkip ⟨p, tag, len, e⟩ := by
  rw [extract_record] at hd
  rw [walkAt, drop_eq_record ht hl, scanFrom_skip hs (by simp; omega) hd, walkAt,
    List.drop_drop]

end Positions

/-- `Chain r buf p w`: reading the records of `buf` from the boundary `p` yields the walk `w`. -/
inductive Chain (r : Rules α ε) (buf : List UInt8) : Nat → Walk α ε → Prop
  | finish {p : Nat} : buf.length = p → Chain r buf p (stop p false none)
  | stopAtEnd {p : Nat} {tag : UInt8} : buf[p]? = some tag → isSentinel r tag = true →
      tag = 255 → Chain r buf p ((stop (p + 1) true none).withItem (r.sentinel tag) p)
  | pad {p : Nat} {tag : UInt8} {w : Walk α ε} : buf[p]? = some tag →
      isSentinel r tag = true → tag ≠ 255 → Chain r buf (p + 1) w →
      Chain r buf p (w.withItem (r.sentinel tag) p)
  | shortHeader {p : Nat} {tag : UInt8} : buf[p]? = some tag → isSentinel r tag = false →
      buf.length = p + 1 → Chain r buf p (stop p false (some .header))
  | shortValue {p : Nat} {tag len : UInt8} : buf[p]? = some tag → isSentinel r tag = false →
      buf[p + 1]? = some len → buf.length < p + 2 + len.toNat →
      Chain r buf p (stop p false (some .value))
  | item {p : Nat} {tag len : UInt8} {a : α} {w : Walk α ε} : buf[p]? = some tag →
      isSentinel r tag = false → buf[p + 1]? = some len → p + 2 + len.toNat ≤ buf.length →
      r.decode tag (buf.extract (p + 2) (p + 2 + len.toNat)) = .ok a →
      Chain r buf (p + 2 + len.toNat) w → Chain r buf p (w.withItem a p)
  | skip {p : Nat} {tag len : UInt8} {e : ε} {w : Walk α ε} : buf[p]? = some tag →
      isSentinel r tag = false → buf[p + 1]? = some len → p + 2 + len.toNat ≤ buf.length →
      r.decode tag (buf.extract (p + 2) (p + 2 + len.toNat)) = .error e →
      Chain r buf (p + 2 + len.toNat) w → Chain r buf p (w.withSkip ⟨p, tag, len, e⟩)

section Chain

variable {r : Rules α ε} {buf : List UInt8} {p : Nat} {w : Walk α ε}

theorem Chain.walkAt_eq (h : Chain r buf p w) : walkAt r buf p = w := by
  induction h with
  | finish hp => exact walkAt_finish hp
  | stopAtEnd ht hs he => exact walkAt_end ht hs he
  | pad ht hs he _ ih => rw [walkAt_pad ht hs he, ih]
  | shortHeader ht hs hn => exact walkAt_short_header ht hs hn
  | shortValue ht hs hl hv => exact walkAt_short_value ht hs hl hv
  | item ht hs hl hv hd _ ih => rw [walkAt_item ht hs hl hv hd, ih]
  | skip ht hs hl hv hd _ ih => rw [walkAt_skip ht hs hl hv hd, ih]

theorem chain_walkAt (r : Rules α ε) (buf : List UInt8) {p : Nat} (hp : p ≤ buf.length) :
    Chain r buf p (walkAt r buf p) := by
  -- each rule moves the boundary forward, so the induction is on what remains of the buffer
  induction hn : buf.length - p using Nat.strongRecOn generalizing p with
  | ind n ih =>
  rcases Nat.lt_or_eq_of_le hp with hlt | heq
  · obtain ⟨tag, ht⟩ : ∃ tag, buf[p]? = some tag :=
      ⟨buf[p], List.getElem?_eq_getElem hlt⟩
    cases hs : isSentinel r tag
    · cases hl : buf[p + 1]? with
      | none =>
        have hn : buf.length = p + 1 := by
          have := List.getElem?_eq_none_iff.mp hl
          omega
        rw [walkAt_short_header ht hs hn]
        exact .shortHeader ht hs hn
      | some len =>
        by_cases hv : p + 2 + len.toNat ≤ buf.length
        · have hnext := ih (buf.length - (p + 2 + len.toNat)) (by omega) hv rfl
          cases hd : r.decode tag (buf.extract (p + 2) (p + 2 + len.toNat)) with
          | ok a =>
            rw [walkAt_item ht hs hl hv hd]
            exact .item ht hs hl hv hd hnext
          | error e =>
            rw [walkAt_skip ht hs hl hv hd]
            exact .skip ht hs hl hv hd hnext
        · have hv' : buf.length < p + 2 + len.toNat := by omega
          rw [walkAt_short_value ht hs hl hv']
          exact .shortValue ht hs hl hv'
    · by_cases he : tag = 255
      · rw [walkAt_end ht hs he]
        exact .stopAtEnd ht hs he
      · rw [walkAt_pad ht hs he]
        exact .pad ht hs he (ih (buf.length - (p + 1)) (by omega) (by omega) rfl)
  · rw [walkAt_finish heq.symm]
    exact .finish heq.symm

theorem chain_ofBytes (r : Rules α ε) (buf : List UInt8) : Chain r buf 0 (ofBytes r buf) := by
  rw [← walkAt_zero]
  exact chain_walkAt r buf (Nat.zero_le _)

theorem ofBytes_eq_iff_chain (r : Rules α ε) (buf : List UInt8) (w : Walk α ε) :
    ofBytes r buf = w ↔ Chain r buf 0 w := by
  constructor
  · rintro rfl
    exact chain_ofBytes r buf
  · intro h
    rw [← walkAt_zero]
    exact h.walkAt_eq

theorem Chain.start_le_consumed (h : Chain r buf p w) : p ≤ w.consumed := by
  induction h with
  | finish | stopAtEnd | shortHeader | shortValue => simp
  | pad _ _ _ _ ih | item _ _ _ _ _ _ ih | skip _ _ _ _ _ _ ih =>
    simp only [withItem_consumed, withSkip_consumed]
    omega

theorem Chain.consumed_le_length (h : Chain r buf p w) : w.consumed ≤ buf.length := by
  induction h with
  | finish hp => simp [hp]
  | stopAtEnd ht => exact lt_length_of_getElem_eq_some ht
  | shortHeader _ _ hn => simp [hn]
  | shortValue ht => exact Nat.le_of_lt (lt_length_of_getElem_eq_some ht)
  | pad _ _ _ _ ih | item _ _ _ _ _ _ ih | skip _ _ _ _ _ _ ih => simpa using ih

theorem Chain.cut_isSome_iff (h : Chain r buf p w) :
    w.cut.isSome = true ↔ w.consumed < buf.length ∧ w.ended = false := by
  induction h with
  | finish hp => simp [hp]
  | stopAtEnd => simp
  | shortHeader _ _ hn => simp [hn]
  | shortValue ht => simpa using lt_length_of_getElem_eq_some ht
  | pad _ _ _ _ ih | item _ _ _ _ _ _ ih | skip _ _ _ _ _ _ ih => simpa using ih

theorem Chain.offsets_ge (h : Chain r buf p w) : ∀ o ∈ w.offsets, p ≤ o := by
  induction h with
  | finish | stopAtEnd | shortHeader | shortValue => simp
  | pad _ _ _ _ ih | item _ _ _ _ _ _ ih =>
    intro o ho
    rcases List.mem_cons.mp ho with rfl | ho
    · exact Nat.le_refl _
    · have := ih o ho
      omega
  | skip _ _ _ _ _ _ ih =>
    intro o ho
    have := ih o ho
    omega

theorem Chain.skipped_within (h : Chain r buf p w) :
    ∀ s ∈ w.skipped, p ≤ s.offset ∧ s.offset + 2 + s.length.toNat ≤ w.consumed := by
  induction h with
  | finish | stopAtEnd | shortHeader | shortValue => simp
  | pad _ _ _ _ ih | item _ _ _ _ _ _ ih =>
    intro s hs
    have := ih s hs
    simp only [withItem_consumed]
    omega
  | @skip q tag len e w' _ _ _ _ _ hw ih =>
    intro s hs
    rcases List.mem_cons.mp hs with rfl | hs
    · simpa using hw.start_le_consumed
    · have := ih s hs
      simp only [withSkip_consumed]
      omega

theorem Chain.skipped_sorted (h : Chain r buf p w) :
    w.skipped.Pairwise (fun s t => s.offset < t.offset) := by
  induction h with
  | finish | stopAtEnd | shortHeader | shortValue => simp
  | pad _ _ _ _ ih | item _ _ _ _ _ _ ih => simpa using ih
  | @skip q tag len e w' _ _ _ _ _ hw ih =>
    refine List.pairwise_cons.mpr ⟨fun t ht => ?_, ih⟩
    have := (hw.skipped_within t ht).1
    simp only
    omega

theorem Chain.mem_items (h : Chain r buf p w) :
    ∀ x ∈ w.items.zip w.offsets,
      (∃ tag, buf[x.2]? = some tag ∧ isSentinel r tag = true ∧ x.1 = r.sentinel tag) ∨
        ∃ tag len, buf[x.2]? = some tag ∧ buf[x.2 + 1]? = some len ∧
          x.2 + 2 + len.toNat ≤ buf.length ∧
          r.decode tag (buf.extract (x.2 + 2) (x.2 + 2 + len.toNat)) = .ok x.1 := by
  induction h with
  | finish | shortHeader | shortValue => simp
  | @stopAtEnd q tag ht hs he => simpa using .inl ⟨tag, ht, hs, rfl⟩
  | @pad q tag w' ht hs he _ ih =>
    intro x hx
    rcases List.mem_cons.mp hx with rfl | hx
    · exact .inl ⟨tag, ht, hs, rfl⟩
    · exact ih x hx
  | @item q tag len a w' ht hs hl hv hd _ ih =>
    intro x hx
    rcases List.mem_cons.mp hx with rfl | hx
    · exact .inr ⟨tag, len, ht, hl, hv, hd⟩
    · exact ih x hx
  | skip _ _ _ _ _ _ ih => simpa using ih

end Chain

end DhcpDecoder.Record.Walk
