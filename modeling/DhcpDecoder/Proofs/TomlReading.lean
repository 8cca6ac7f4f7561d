import Mathlib
import DhcpDecoder.Settings.Toml

/-!
Reading back the TOML that the settings writer emits.
-/

namespace DhcpDecoder.Toml

/-! ### Reading as a relation on views -/

structure View where
  rest : List Char
  root : List (String × Value)
  ordered : List (List String)
  context : List String
  currentKey : String

def State.view (s : State) : View := ⟨s.cur.rest, s.root, s.ordered, s.context, s.currentKey⟩

theorem View.with_rest_self {v : View} {r : List Char} (h : v.rest = r) :
    { v with rest := r } = v := by
  cases v
  simp_all

def Reads {α : Type} (r : Reader α) (v : View) (post : α → View → Prop) : Prop :=
  ∀ s : State, s.view = v → ∃ a s', r.run s = .ok (a, s') ∧ post a s'.view

def Gives {α : Type} (r : Reader α) (v : View) (a : α) (w : View) : Prop :=
  Reads r v fun b u => b = a ∧ u = w

namespace Reads

variable {α β : Type} {v : View}

theorem bind {r : Reader α} {f : α → Reader β} {P : α → View → Prop} {Q : β → View → Prop}
    (h1 : Reads r v P) (h2 : ∀ a w, P a w → Reads (f a) w Q) : Reads (r >>= f) v Q := by
  intro s hs
  obtain ⟨a, s1, hr, hp⟩ := h1 s hs
  obtain ⟨b, s2, hf, hq⟩ := h2 a s1.view hp s1 rfl
  refine ⟨b, s2, ?_, hq⟩
  simp only [StateT.run_bind, hr]
  exact hf

theorem pure {a : α} {P : α → View → Prop} (h : P a v) : Reads (Pure.pure a) v P := by
  intro s hs
  exact ⟨a, s, rfl, hs ▸ h⟩

theorem mono {r : Reader α} {P Q : α → View → Prop} (h : Reads r v P)
    (hpq : ∀ a w, P a w → Q a w) : Reads r v Q := by
  intro s hs
  obtain ⟨a, s', hr, hp⟩ := h s hs
  exact ⟨a, s', hr, hpq a _ hp⟩

theorem modify {f : State → State} {P : Unit → View → Prop} {w : View}
    (hf : ∀ s, s.view = v → (f s).view = w) (h : P () w) : Reads (modify f) v P := by
  intro s hs
  exact ⟨(), f s, rfl, (hf s hs) ▸ h⟩

theorem get_bind {f : State → Reader β} {Q : β → View → Prop}
    (h : ∀ s, s.view = v → Reads (f s) v Q) : Reads (get >>= f) v Q := by
  intro s hs
  obtain ⟨b, s', hr, hq⟩ := h s hs s hs
  exact ⟨b, s', hr, hq⟩

end Reads

theorem Gives.bind {α β : Type} {v w : View} {r : Reader α} {f : α → Reader β} {a : α}
    {Q : β → View → Prop} (h1 : Gives r v a w) (h2 : Reads (f a) w Q) : Reads (r >>= f) v Q :=
  Reads.bind h1 fun _ _ ⟨hb, hu⟩ => hb ▸ hu ▸ h2

theorem Gives.pure {α : Type} {v : View} (a : α) : Gives (Pure.pure a) v a v :=
  Reads.pure ⟨rfl, rfl⟩

theorem Gives.modify {v w : View} {f : State → State} (hf : ∀ s, s.view = v → (f s).view = w) :
    Gives (modify f) v () w :=
  Reads.modify hf ⟨rfl, rfl⟩

theorem modify_gives {v : View} {f : State → State} (g : View → View)
    (hf : ∀ s, (f s).view = g s.view) : Gives (modify f) v () (g v) :=
  Gives.modify fun s hs => hs ▸ hf s

/-! ### Characters -/

/-- A character that may be read anywhere in a document: no control character other than tab and
line feed. -/
def plain (c : Char) : Bool := !isControl c && c != '\r'

theorem plain_of_toNat {c : Char} (h : 32 ≤ c.toNat) (h' : c.toNat ≠ 127) : plain c = true := by
  have hr : c ≠ '\r' := by
    rintro rfl
    simp at h
  simp only [plain, isControl, Bool.and_eq_true, Bool.not_eq_true', bne_iff_ne, ne_eq, hr,
    not_false_eq_true, and_true]
  simp only [Bool.or_eq_false_iff, Bool.and_eq_false_iff, decide_eq_false_iff_not]
  omega

theorem badAhead_cons {c : Char} (hc : plain c = true) (rest : List Char) :
    badAhead (c :: rest) = none := by
  simp only [plain, Bool.and_eq_true, Bool.not_eq_true', bne_iff_ne, ne_eq] at hc
  simp [badAhead, hc.1, hc.2]

section Characters

variable {v : View} {c : Char} {rest : List Char}

theorem peek_gives (hv : v.rest = c :: rest) (hc : plain c = true) : Gives peek v (some c) v := by
  intro s hs
  have hr : s.cur.rest = c :: rest := by rw [← hv, ← hs]; rfl
  refine ⟨some c, s, ?_, rfl, hs⟩
  simp [peek, hr, badAhead_cons hc]
  rfl

theorem peek_nil (hv : v.rest = []) : Gives peek v none v := by
  intro s hs
  have hr : s.cur.rest = [] := by rw [← hv, ← hs]; rfl
  refine ⟨none, s, ?_, rfl, hs⟩
  simp [peek, hr, badAhead]
  rfl

theorem next_gives (hv : v.rest = c :: rest) (hc : plain c = true) :
    Gives next v (some c) { v with rest := rest } := by
  intro s hs
  have hr : s.cur.rest = c :: rest := by rw [← hv, ← hs]; rfl
  -- the line and the line-break flag move too, but they are not part of the view
  let s' : State := { s with
    cur := { s.cur with
      rest := rest
      line := if c = '\n' then s.cur.line + 1 else s.cur.line
      afterBreak := c = '\n' } }
  refine ⟨some c, s', ?_, rfl, ?_⟩
  · simp [next, hr, badAhead_cons hc]
    rfl
  · rw [← hs]
    rfl

theorem accept_same (hv : v.rest = c :: rest) (hc : plain c = true) :
    Gives (accept c) v true { v with rest := rest } := by
  unfold accept
  refine (peek_gives hv hc).bind ?_
  rw [if_pos rfl]
  exact (next_gives hv hc).bind (Reads.pure ⟨rfl, rfl⟩)

theorem accept_other {d : Char} (hv : v.rest = d :: rest) (hd : plain d = true) (hne : d ≠ c) :
    Gives (accept c) v false v := by
  unfold accept
  refine (peek_gives hv hd).bind ?_
  rw [if_neg (by simpa using hne)]
  exact Gives.pure false

theorem fuelLeft_gives : Gives fuelLeft v (v.rest.length + 1) v := by
  intro s hs
  refine ⟨s.cur.rest.length + 1, s, rfl, ?_, hs⟩
  rw [← hs]
  rfl

theorem line_reads : Reads line v fun _ w => w = v := by
  intro s hs
  exact ⟨s.cur.line, s, rfl, hs⟩

theorem unread_gives : Gives (unread c) v () { v with rest := c :: v.rest } :=
  modify_gives (fun w => { w with rest := c :: w.rest }) fun _ => rfl

end Characters

/-! ### Runs of characters -/

/-- Where a run of characters satisfying `p` stops: at the end, or at a plain character that fails
`p`. -/
def StopsAt (p : Char → Bool) (rest : List Char) : Prop :=
  ∀ c ∈ rest.head?, plain c = true ∧ p c = false

section Runs

variable {v : View} {p : Char → Bool} {xs rest : List Char}

theorem takeWhile_gives (hv : v.rest = xs ++ rest) (hxs : ∀ x ∈ xs, plain x = true ∧ p x = true)
    (hstop : StopsAt p rest) {fuel : Nat} (hf : xs.length ≤ fuel) :
    Gives (takeWhile p fuel) v xs { v with rest := rest } := by
  induction xs generalizing v fuel with
  | nil =>
    cases fuel with
    | zero => exact Reads.pure ⟨rfl, by cases v; simp_all⟩
    | succ fuel =>
      rw [takeWhile]
      cases rest with
      | nil => exact (peek_nil hv).bind (Reads.pure ⟨rfl, by cases v; simp_all⟩)
      | cons c more =>
        obtain ⟨hc, hpc⟩ := hstop c rfl
        refine (peek_gives hv hc).bind ?_
        simp only [hpc, Bool.false_eq_true, if_false]
        exact Reads.pure ⟨rfl, by cases v; simp_all⟩
  | cons x xs ih =>
    obtain ⟨fuel, rfl⟩ : ∃ f, fuel = f + 1 := ⟨fuel - 1, by simp at hf; omega⟩
    obtain ⟨hx, hpx⟩ := hxs x List.mem_cons_self
    rw [takeWhile]
    refine (peek_gives hv hx).bind ?_
    simp only [hpx, if_true]
    refine (next_gives hv hx).bind ?_
    refine Reads.bind (ih rfl (fun y hy => hxs y (List.mem_cons_of_mem x hy))
      (by simp at hf; omega)) ?_
    rintro _ w ⟨rfl, rfl⟩
    exact Reads.pure ⟨rfl, rfl⟩

theorem skipWhile_gives (hv : v.rest = xs ++ rest) (hxs : ∀ x ∈ xs, plain x = true ∧ p x = true)
    (hstop : StopsAt p rest) : Gives (skipWhile p) v () { v with rest := rest } := by
  unfold skipWhile
  refine fuelLeft_gives.bind ?_
  refine Reads.bind (takeWhile_gives hv hxs hstop (by rw [hv, List.length_append]; omega)) ?_
  rintro _ w ⟨-, rfl⟩
  exact Reads.pure ⟨rfl, rfl⟩

theorem skipWhile_none (hstop : StopsAt p v.rest) : Gives (skipWhile p) v () v :=
  skipWhile_gives (show v.rest = [] ++ v.rest from rfl) (by simp) hstop

theorem stopsAt_cons {c : Char} (hc : plain c = true) (hp : p c = false) :
    StopsAt p (c :: rest) := by
  rintro d hd
  cases hd
  exact ⟨hc, hp⟩

theorem skipWhile_space {c : Char} (hv : v.rest = ' ' :: c :: rest) (hc : plain c = true)
    (hcb : isBlank c = false) : Gives (skipWhile isBlank) v () { v with rest := c :: rest } := by
  have hsp : plain ' ' = true ∧ isBlank ' ' = true := by decide
  exact skipWhile_gives (show v.rest = [' '] ++ c :: rest from hv) (by simpa using hsp)
    (stopsAt_cons hc hcb)

end Runs

/-! ### Names and keys -/

theorem isBareChar_toNat {c : Char} (h : isBareChar c = true) : 45 ≤ c.toNat ∧ c.toNat ≤ 122 := by
  have hv : c.toNat = c.val.toNat := rfl
  simp only [isBareChar, Char.isAlphanum, Char.isAlpha, Char.isUpper, Char.isLower,
    Char.isDigit, Bool.or_eq_true, Bool.and_eq_true, decide_eq_true_eq] at h
  simp only [ge_iff_le, UInt32.le_iff_toNat_le] at h
  have hA : 'A'.val.toNat = 65 := rfl
  have hZ : 'Z'.val.toNat = 90 := rfl
  have ha : 'a'.val.toNat = 97 := rfl
  have hz : 'z'.val.toNat = 122 := rfl
  have h0 : '0'.val.toNat = 48 := rfl
  have h9 : '9'.val.toNat = 57 := rfl
  rcases h with (((h | h) | h) | rfl) | rfl
  all_goals first | decide | omega

theorem plain_of_isBareChar {c : Char} (h : isBareChar c = true) : plain c = true := by
  have := isBareChar_toNat h
  exact plain_of_toNat (by omega) (by omega)

def BareName (k : List Char) : Prop := k ≠ [] ∧ ∀ c ∈ k, isBareChar c = true

instance : DecidablePred BareName := fun k =>
  decidable_of_iff (k ≠ [] ∧ k.all isBareChar = true) (by rw [List.all_eq_true]; rfl)

theorem BareName.stopsAt {k : List Char} {p : Char → Bool} (hk : BareName k)
    (hp : ∀ c, 45 ≤ c.toNat → p c = false) (more : List Char) : StopsAt p (k ++ more) := by
  obtain ⟨c, k', rfl⟩ := List.exists_cons_of_ne_nil hk.1
  have hc := hk.2 c List.mem_cons_self
  exact stopsAt_cons (plain_of_isBareChar hc) (hp c (isBareChar_toNat hc).1)

theorem isBlank_of_toNat {c : Char} (h : 45 ≤ c.toNat) : isBlank c = false := by
  simp only [isBlank, Bool.or_eq_false_iff, decide_eq_false_iff_not]
  constructor <;> (rintro rfl; simp at h)

section Names

variable {v : View} {k rest : List Char}

theorem namePart_bare (hv : v.rest = k ++ rest) (hk : BareName k)
    (hstop : StopsAt isBareChar rest) :
    Gives namePart v (String.ofList k) { v with rest := rest } := by
  obtain ⟨c, k', rfl⟩ := List.exists_cons_of_ne_nil hk.1
  have hc := hk.2 c List.mem_cons_self
  unfold namePart
  refine fuelLeft_gives.bind ?_
  refine (peek_gives (c := c) (by rw [hv]; rfl) (plain_of_isBareChar hc)).bind ?_
  -- a bare name opens with no quote
  split
  · rename_i h
    cases h
    exact absurd hc (by decide)
  · rename_i h
    cases h
    exact absurd hc (by decide)
  · refine Reads.bind (takeWhile_gives hv (fun x hx => ⟨plain_of_isBareChar (hk.2 x hx), hk.2 x hx⟩)
      hstop (by simp [hv]; omega)) ?_
    rintro _ w ⟨rfl, rfl⟩
    exact Reads.pure ⟨rfl, rfl⟩

theorem keyParts_bare (hv : v.rest = k ++ ' ' :: '=' :: rest) (hk : BareName k) (fuel : Nat) :
    Gives (keyParts (fuel + 1)) v [String.ofList k] { v with rest := rest } := by
  obtain ⟨c, k', rfl⟩ := List.exists_cons_of_ne_nil hk.1
  have hc := hk.2 c List.mem_cons_self
  rw [keyParts]
  refine (skipWhile_none (by rw [hv]; exact hk.stopsAt (fun _ => isBlank_of_toNat) _)).bind ?_
  refine (peek_gives (c := c) (by rw [hv]; rfl) (plain_of_isBareChar hc)).bind ?_
  -- the first character is no `=` and no `.`
  split
  · rename_i h
    simp at h
  · rename_i h
    cases h
    exact absurd hc (by decide)
  · rename_i h
    cases h
    exact absurd hc (by decide)
  · refine (namePart_bare hv hk (stopsAt_cons (by decide) (by decide))).bind ?_
    refine (skipWhile_space rfl (by decide) (by decide)).bind ?_
    refine (next_gives rfl (by decide)).bind ?_
    simp only
    exact Reads.pure ⟨rfl, rfl⟩

theorem key_bare (hv : v.rest = k ++ ' ' :: '=' :: rest) (hk : BareName k) :
    Gives key v [String.ofList k] { v with rest := rest } := by
  obtain ⟨c, k', rfl⟩ := List.exists_cons_of_ne_nil hk.1
  have hc := hk.2 c List.mem_cons_self
  unfold key
  refine (skipWhile_none (by rw [hv]; exact hk.stopsAt (fun _ => isBlank_of_toNat) _)).bind ?_
  refine (peek_gives (c := c) (by rw [hv]; rfl) (plain_of_isBareChar hc)).bind ?_
  split
  · rename_i h
    simp at h
  · rename_i h
    cases h
    exact absurd hc (by decide)
  · rename_i h
    cases h
    exact absurd hc (by decide)
  · refine (modify_gives (fun w => w) fun _ => by rfl).bind ?_
    refine fuelLeft_gives.bind ?_
    exact keyParts_bare hv hk _

theorem tableName_bare (hv : v.rest = k ++ ']' :: rest) (hk : BareName k) (fuel : Nat) :
    Gives (tableName (fuel + 1)) v [String.ofList k] { v with rest := rest } := by
  obtain ⟨c, k', rfl⟩ := List.exists_cons_of_ne_nil hk.1
  have hc := hk.2 c List.mem_cons_self
  rw [tableName]
  refine (skipWhile_none (by rw [hv]; exact hk.stopsAt (fun _ => isBlank_of_toNat) _)).bind ?_
  refine (peek_gives (c := c) (by rw [hv]; rfl) (plain_of_isBareChar hc)).bind ?_
  split
  · rename_i h
    simp at h
  · rename_i h
    cases h
    exact absurd hc (by decide)
  · rename_i h
    cases h
    exact absurd hc (by decide)
  · refine (namePart_bare hv hk (stopsAt_cons (by decide) (by decide))).bind ?_
    refine (skipWhile_none (stopsAt_cons (by decide) (by decide))).bind ?_
    refine (next_gives rfl (by decide)).bind ?_
    simp only
    exact Reads.pure ⟨rfl, rfl⟩

end Names

/-! ### Strings -/

theorem needsBasic_eq_false {c : Char} (h : needsBasic c = false) :
    plain c = true ∧ isBreak c = false ∧ c ≠ '\'' := by
  simp only [needsBasic, Bool.or_eq_false_iff, decide_eq_false_iff_not, Bool.and_eq_false_iff,
    bne_eq_false_iff_eq] at h
  obtain ⟨⟨⟨⟨hq, hr⟩, hn⟩, hc⟩, hdel⟩ := h
  refine ⟨?_, by simp [isBreak, hr, hn], hq⟩
  rcases hc with hc | rfl
  · exact plain_of_toNat (by omega) hdel
  · decide

def letterEscapes : List (Char × Char) :=
  [('b', '\x08'), ('t', '\t'), ('n', '\n'), ('f', '\x0c'), ('r', '\r'), ('"', '"'), ('\\', '\\')]

theorem basicCharText_cases (c : Char) :
    (∃ e, (e, c) ∈ letterEscapes ∧ (basicCharText c).toList = ['\\', e]) ∨
    ((basicCharText c).toList = '\\' :: 'u' :: Hex.fixedDigits Hex.upperDigit 4 c.toNat ∧
      c.toNat < 128) ∨
    ((basicCharText c).toList = [c] ∧ plain c = true ∧ c ≠ '"' ∧ c ≠ '\\' ∧
      isBreak c = false) := by
  unfold basicCharText
  split_ifs with h1 h2 h3 h4 h5 h6 h7 h8
  · exact .inl ⟨'\\', by simp [letterEscapes, h1], rfl⟩
  · exact .inl ⟨'"', by simp [letterEscapes, h2], rfl⟩
  · exact .inl ⟨'b', by simp [letterEscapes, h3], rfl⟩
  · exact .inl ⟨'f', by simp [letterEscapes, h4], rfl⟩
  · exact .inl ⟨'n', by simp [letterEscapes, h5], rfl⟩
  · exact .inl ⟨'r', by simp [letterEscapes, h6], rfl⟩
  · exact .inl ⟨'t', by simp [letterEscapes, h7], rfl⟩
  · refine .inr (.inl ⟨by simp, ?_⟩)
    simp only [Bool.or_eq_true, decide_eq_true_eq] at h8
    omega
  · refine .inr (.inr ⟨by simp, ?_, h2, h1, by simp [isBreak, h5, h6]⟩)
    simp only [Bool.or_eq_true, decide_eq_true_eq, not_or] at h8
    exact plain_of_toNat (by omega) h8.2

theorem upperDigit_spec : ∀ k < 16, plain (Hex.upperDigit k) = true ∧
    isHex (Hex.upperDigit k) = true ∧ hexValue (Hex.upperDigit k) = k := by
  decide

theorem digitsValue_append (b : Nat) (xs : List Char) (d : Char) :
    digitsValue b (xs ++ [d]) = digitsValue b xs * b + hexValue d := by
  simp [digitsValue, List.foldl_append]

theorem digitsValue_fixedDigits (w n : Nat) :
    digitsValue 16 (Hex.fixedDigits Hex.upperDigit w n) = n % 16 ^ w := by
  induction w generalizing n with
  | zero => simp [Hex.fixedDigits, digitsValue, Nat.mod_one]
  | succ w ih =>
    rw [Hex.fixedDigits, digitsValue_append, ih,
      (upperDigit_spec (n % 16) (Nat.mod_lt _ (by decide))).2.2, pow_succ', Nat.mod_mul]
    ring

theorem fixedDigits_hex (w n : Nat) :
    ∀ d ∈ Hex.fixedDigits Hex.upperDigit w n, plain d = true ∧ isHex d = true := by
  induction w generalizing n with
  | zero => simp [Hex.fixedDigits]
  | succ w ih =>
    intro d hd
    simp only [Hex.fixedDigits, List.mem_append, List.mem_singleton] at hd
    rcases hd with hd | rfl
    · exact ih _ d hd
    · have := upperDigit_spec (n % 16) (Nat.mod_lt _ (by decide))
      exact ⟨this.1, this.2.1⟩

theorem length_fixedDigits (toDigit : Nat → Char) (w n : Nat) :
    (Hex.fixedDigits toDigit w n).length = w := by
  induction w generalizing n with
  | zero => rfl
  | succ w ih => simp [Hex.fixedDigits, ih]

theorem codePoint_fixedDigits {c : Char} (h : c.toNat < 128) :
    codePoint (Hex.fixedDigits Hex.upperDigit 4 c.toNat) = .ok c := by
  have hv : digitsValue 16 (Hex.fixedDigits Hex.upperDigit 4 c.toNat) = c.toNat := by
    rw [digitsValue_fixedDigits]
    omega
  simp only [codePoint, hv]
  rw [if_neg (by simp only [Bool.or_eq_true, decide_eq_true_eq, Bool.and_eq_true]; omega)]
  simp

section Strings

variable {v : View} {more rest start : List Char}

theorem literalString_gives {s : List Char} (hv : v.rest = s ++ '\'' :: rest)
    (hs : ∀ c ∈ s, needsBasic c = false) {fuel : Nat} (hf : s.length < fuel) :
    Gives (literalString fuel) v (String.ofList s) { v with rest := rest } := by
  induction s generalizing v fuel with
  | nil =>
    obtain ⟨fuel, rfl⟩ : ∃ f, fuel = f + 1 := ⟨fuel - 1, by simp at hf; omega⟩
    rw [literalString]
    refine (next_gives hv (by decide)).bind ?_
    simp only
    exact Reads.pure ⟨rfl, rfl⟩
  | cons c s ih =>
    obtain ⟨fuel, rfl⟩ : ∃ f, fuel = f + 1 := ⟨fuel - 1, by simp at hf; omega⟩
    obtain ⟨hc, hbr, hq⟩ := needsBasic_eq_false (hs c List.mem_cons_self)
    rw [literalString]
    refine (next_gives hv hc).bind ?_
    -- neither the end nor the closing quote
    split
    · rename_i h
      simp at h
    · rename_i h
      cases h
      exact absurd rfl hq
    · rename_i heq
      cases heq
      rw [if_neg (by simp [hbr])]
      refine Reads.bind (ih rfl (fun d hd => hs d (List.mem_cons_of_mem c hd))
        (by simp at hf; omega)) ?_
      rintro _ w ⟨rfl, rfl⟩
      exact Reads.pure ⟨by simp, rfl⟩

theorem forIn_range'_digits {body : Nat → List Char → Reader (ForInStep (List Char))}
    (hbody : ∀ i acc d (w : View) m, w.rest = d :: m → plain d = true → isHex d = true →
      Gives (body i acc) w (.yield (acc ++ [d])) { w with rest := m })
    (ds : List Char) (a : Nat) (acc : List Char) (v : View) (hv : v.rest = ds ++ more)
    (hds : ∀ d ∈ ds, plain d = true ∧ isHex d = true) :
    Gives (forIn (List.range' a ds.length) acc body) v (acc ++ ds) { v with rest := more } := by
  induction ds generalizing a acc v with
  | nil =>
    simp only [List.length_nil, List.range'_zero, List.forIn_nil, List.append_nil]
    exact Reads.pure ⟨rfl, by cases v; simp_all⟩
  | cons d ds ih =>
    obtain ⟨hp, hx⟩ := hds d List.mem_cons_self
    simp only [List.length_cons, List.range'_succ, List.forIn_cons]
    refine (hbody a acc d v _ hv hp hx).bind ?_
    simp only
    refine (ih (a + 1) (acc ++ [d]) _ rfl fun x hx => hds x (List.mem_cons_of_mem d hx)).mono ?_
    rintro _ w ⟨rfl, rfl⟩
    exact ⟨by simp, rfl⟩

theorem hexDigits_gives {n : Nat} {letter word : String} {ds : List Char}
    (hv : v.rest = ds ++ more) (hn : ds.length = n)
    (hds : ∀ d ∈ ds, plain d = true ∧ isHex d = true) :
    Gives (hexDigits n letter word start) v ds { v with rest := more } := by
  subst hn
  unfold hexDigits
  simp only [Std.Legacy.Range.forIn_eq_forIn_range', Std.Legacy.Range.size, Nat.sub_zero,
    Nat.add_sub_cancel, Nat.div_one]
  refine (forIn_range'_digits ?_ ds 0 [] v hv hds).bind (Gives.pure _)
  intro i acc d w m hw hp hx
  refine (next_gives hw hp).bind ?_
  simp only [hx, if_true]
  exact Gives.pure _

theorem escape_letter {e c : Char} (hv : v.rest = e :: more) (he : (e, c) ∈ letterEscapes) :
    Gives (escape start) v (.ok c) { v with rest := more } := by
  simp only [letterEscapes, List.mem_cons, Prod.mk.injEq, List.not_mem_nil, or_false] at he
  unfold escape
  rcases he with ⟨rfl, rfl⟩ | ⟨rfl, rfl⟩ | ⟨rfl, rfl⟩ | ⟨rfl, rfl⟩ | ⟨rfl, rfl⟩ | ⟨rfl, rfl⟩ |
    ⟨rfl, rfl⟩
  all_goals
    refine (next_gives hv (by decide)).bind ?_
    exact Gives.pure _

theorem escape_unicode {ds : List Char} (hv : v.rest = 'u' :: ds ++ more) (hn : ds.length = 4)
    (hds : ∀ d ∈ ds, plain d = true ∧ isHex d = true) :
    Gives (escape start) v (codePoint ds) { v with rest := more } := by
  unfold escape
  refine (next_gives hv (by decide)).bind ?_
  simp only
  exact (hexDigits_gives rfl hn hds).bind (Gives.pure _)

theorem basicString_char (c : Char) (hv : v.rest = (basicCharText c).toList ++ more)
    {fuel : Nat} {Q : List Piece → View → Prop}
    (h : Reads (basicString start fuel) { v with rest := more } fun ps w => Q (.ok c :: ps) w) :
    Reads (basicString start (fuel + 1)) v Q := by
  have hrest : ∀ p : Piece, p = .ok c →
      Reads (basicString start fuel >>= fun ps => Pure.pure (p :: ps)) { v with rest := more } Q :=
    fun p hp => Reads.bind h fun ps w hq => Reads.pure (hp ▸ hq)
  rw [basicString]
  rcases basicCharText_cases c with ⟨e, he, ht⟩ | ⟨ht, hlt⟩ | ⟨ht, hp, hq, hb, hbr⟩
  · rw [ht] at hv
    refine (next_gives hv (by decide)).bind ?_
    exact (escape_letter rfl he).bind (hrest _ rfl)
  · rw [ht] at hv
    refine (next_gives hv (by decide)).bind ?_
    refine (escape_unicode rfl (length_fixedDigits _ _ _) (fixedDigits_hex _ _)).bind ?_
    exact hrest _ (codePoint_fixedDigits hlt)
  · rw [ht] at hv
    refine (next_gives hv hp).bind ?_
    -- a character that is written as itself is no quote, no backslash and no line break
    split
    · rename_i h
      simp at h
    · rename_i h
      cases h
      exact absurd rfl hq
    · rename_i h
      cases h
      exact absurd rfl hb
    · rename_i heq
      cases heq
      rw [if_neg (by simp [hbr])]
      exact hrest _ rfl

theorem basicString_gives {s : List Char}
    (hv : v.rest = s.flatMap (fun c => (basicCharText c).toList) ++ '"' :: rest) {fuel : Nat}
    (hf : s.length < fuel) :
    Gives (basicString start fuel) v (s.map .ok) { v with rest := rest } := by
  induction s generalizing v fuel with
  | nil =>
    obtain ⟨fuel, rfl⟩ : ∃ f, fuel = f + 1 := ⟨fuel - 1, by simp at hf; omega⟩
    rw [basicString]
    refine (next_gives hv (by decide)).bind ?_
    exact Reads.pure ⟨rfl, rfl⟩
  | cons c s ih =>
    obtain ⟨fuel, rfl⟩ : ∃ f, fuel = f + 1 := ⟨fuel - 1, by simp at hf; omega⟩
    refine basicString_char c (show v.rest = (basicCharText c).toList ++
      (s.flatMap (fun c => (basicCharText c).toList) ++ '"' :: rest) by
        rw [hv, List.flatMap_cons, List.append_assoc]) ?_
    refine (ih rfl (by simp at hf; omega)).mono ?_
    rintro _ w ⟨rfl, rfl⟩
    exact ⟨rfl, rfl⟩

theorem cooked_gives (s : List Char) : Gives (cooked (s.map .ok)) v (String.ofList s) v := by
  have h : (s.map Except.ok : List Piece).mapM id = .ok s := by
    induction s with
    | nil => rfl
    | cons c s ih =>
      simp only [List.map_cons, List.mapM_cons, id, ih]
      rfl
  unfold cooked
  rw [h]
  exact Gives.pure _

end Strings

/-! ### Values -/

def Spaces (sp : List Char) : Prop := ∀ c ∈ sp, c = ' '

def ValueEnd (rest : List Char) : Prop :=
  ∃ c more, rest = c :: more ∧ (c = '\n' ∨ c = ',' ∨ c = ']')

theorem Spaces.blank {sp : List Char} (h : Spaces sp) :
    ∀ c ∈ sp, plain c = true ∧ isBlank c = true := by
  intro c hc
  rw [h c hc]
  decide

section Values

variable {v : View} {sp rest : List Char} {b : Bool}

theorem value_literal {s : List Char} (hv : v.rest = sp ++ '\'' :: (s ++ '\'' :: rest))
    (hsp : Spaces sp) (hs : ∀ c ∈ s, needsBasic c = false) (hend : ValueEnd rest) (fuel : Nat) :
    Reads (value b (fuel + 1)) v fun a w =>
      a.1 = .str (String.ofList s) ∧ w = { v with rest := rest } := by
  rw [value]
  refine (skipWhile_gives hv hsp.blank
    (stopsAt_cons (by decide) (by decide))).bind ?_
  refine (next_gives rfl (by decide)).bind ?_
  dsimp only
  rw [if_neg (by decide), if_neg (by decide), if_neg (by decide), if_neg (by decide), if_pos rfl]
  obtain ⟨c, more, rfl, hc⟩ := hend
  have hcq : plain c = true ∧ c ≠ '\'' := by
    rcases hc with rfl | rfl | rfl <;> decide
  cases s with
  | nil =>
    -- two quotes: the empty string, unless a third one follows
    refine (accept_same rfl (by decide)).bind ?_
    rw [if_pos rfl]
    refine (accept_other rfl hcq.1 hcq.2).bind ?_
    rw [if_neg (by simp)]
    refine Reads.bind line_reads ?_
    rintro _ w rfl
    exact Reads.pure ⟨rfl, rfl⟩
  | cons d s =>
    obtain ⟨hd, -, hdq⟩ := needsBasic_eq_false (hs d List.mem_cons_self)
    refine (accept_other rfl hd hdq).bind ?_
    rw [if_neg (by simp)]
    refine fuelLeft_gives.bind ?_
    refine (literalString_gives rfl hs (by simp)).bind ?_
    refine Reads.bind line_reads ?_
    rintro _ w rfl
    exact Reads.pure ⟨rfl, rfl⟩

theorem length_le_flatMap_basicCharText (s : List Char) :
    s.length ≤ (s.flatMap fun c => (basicCharText c).toList).length := by
  induction s with
  | nil => simp
  | cons c s ih =>
    have hc : 1 ≤ (basicCharText c).toList.length := by
      rcases basicCharText_cases c with ⟨e, -, ht⟩ | ⟨ht, -⟩ | ⟨ht, -⟩ <;> simp [ht]
    simp only [List.flatMap_cons, List.length_append, List.length_cons]
    omega

theorem basicCharText_head (c : Char) (more : List Char) :
    ∃ d m, (basicCharText c).toList ++ more = d :: m ∧ plain d = true ∧ d ≠ '"' := by
  rcases basicCharText_cases c with ⟨e, -, ht⟩ | ⟨ht, -⟩ | ⟨ht, hp, hq, -⟩
  · exact ⟨'\\', _, by rw [ht]; rfl, by decide, by decide⟩
  · exact ⟨'\\', _, by rw [ht]; rfl, by decide, by decide⟩
  · exact ⟨c, _, by rw [ht]; rfl, hp, hq⟩

theorem value_basic {s : List Char}
    (hv : v.rest = sp ++ '"' :: (s.flatMap (fun c => (basicCharText c).toList) ++ '"' :: rest))
    (hsp : Spaces sp) (hs : s ≠ []) (fuel : Nat) :
    Reads (value b (fuel + 1)) v fun a w =>
      a.1 = .str (String.ofList s) ∧ w = { v with rest := rest } := by
  obtain ⟨c, s', rfl⟩ := List.exists_cons_of_ne_nil hs
  obtain ⟨d, m, hdm, hd, hdq⟩ := basicCharText_head c
    (s'.flatMap (fun c => (basicCharText c).toList) ++ '"' :: rest)
  rw [value]
  refine (skipWhile_gives hv hsp.blank (stopsAt_cons (by decide) (by decide))).bind ?_
  refine (next_gives rfl (by decide)).bind ?_
  dsimp only
  rw [if_neg (by decide), if_neg (by decide), if_neg (by decide), if_pos rfl]
  refine Reads.get_bind fun st _ => ?_
  refine (accept_other (by rw [List.flatMap_cons, List.append_assoc]; exact hdm) hd hdq).bind ?_
  rw [if_neg (by simp)]
  refine fuelLeft_gives.bind ?_
  refine (basicString_gives rfl ?_).bind ?_
  · have := length_le_flatMap_basicCharText (c :: s')
    simp only [List.length_append, List.length_cons] at this ⊢
    omega
  refine (cooked_gives _).bind ?_
  refine Reads.bind line_reads ?_
  rintro _ w rfl
  exact Reads.pure ⟨rfl, rfl⟩

theorem writeString_toList (s : String) :
    (writeString s).toList = if s.toList.any needsBasic then
      '"' :: (s.toList.flatMap fun c => (basicCharText c).toList) ++ ['"']
    else '\'' :: s.toList ++ ['\''] := by
  unfold writeString
  split <;> simp [String.toList_join, List.flatMap_map]

theorem value_string (s : String) (hv : v.rest = sp ++ (writeString s).toList ++ rest)
    (hsp : Spaces sp) (hend : ValueEnd rest) (fuel : Nat) :
    Reads (value b (fuel + 1)) v fun a w => a.1 = .str s ∧ w = { v with rest := rest } := by
  rw [writeString_toList] at hv
  split at hv
  · rename_i hb
    have hne : s.toList ≠ [] := by
      rintro h
      simp [h] at hb
    refine (value_basic (show v.rest = sp ++ '"' ::
      (s.toList.flatMap (fun c => (basicCharText c).toList) ++ '"' :: rest) by rw [hv]; simp)
      hsp hne fuel).mono ?_
    rintro a w ⟨ha, hw⟩
    exact ⟨by rw [ha, String.ofList_toList], hw⟩
  · rename_i hb
    have hs : ∀ c ∈ s.toList, needsBasic c = false := by
      simpa using hb
    refine (value_literal (show v.rest = sp ++ '\'' :: (s.toList ++ '\'' :: rest) by rw [hv]; simp)
      hsp hs hend fuel).mono ?_
    rintro a w ⟨ha, hw⟩
    exact ⟨by rw [ha, String.ofList_toList], hw⟩

theorem ValueEnd.head {rest : List Char} (h : ValueEnd rest) :
    ∃ c more, rest = c :: more ∧ plain c = true ∧ Text.isLetter c = false ∧ c.isDigit = false ∧
      c ≠ '\'' ∧ c ≠ '-' ∧ c ≠ ':' ∧ c ≠ '_' ∧ c ≠ '.' ∧ c ≠ 'e' ∧ c ≠ 'E' ∧ c ≠ 'b' ∧
      c ≠ 'o' ∧ c ≠ 'x' := by
  obtain ⟨c, more, rfl, hc⟩ := h
  refine ⟨c, more, rfl, ?_⟩
  rcases hc with rfl | rfl | rfl <;> decide

def flagChars (b : Bool) : List Char :=
  if b then ['t', 'r', 'u', 'e'] else ['f', 'a', 'l', 's', 'e']

theorem boolWord_gives (bb : Bool) (hv : v.rest = flagChars bb ++ rest) (hend : ValueEnd rest) :
    Gives boolWord v (.bool bb) { v with rest := rest } := by
  obtain ⟨c, more, rfl, hc, hl, -⟩ := hend.head
  unfold boolWord
  refine fuelLeft_gives.bind ?_
  have hletters : ∀ x ∈ flagChars bb, plain x = true ∧ Text.isLetter x = true := by
    have h : ((flagChars bb).all fun x => plain x && Text.isLetter x) = true := by
      cases bb <;> decide
    intro x hx
    simpa using List.all_eq_true.mp h x hx
  refine (takeWhile_gives hv hletters (stopsAt_cons hc hl) (by rw [hv]; simp; omega)).bind ?_
  cases bb
  · have h : String.ofList (flagChars false) = "false" := by decide
    rw [h]
    exact Gives.pure _
  · have h : String.ofList (flagChars true) = "true" := by decide
    rw [h]
    exact Gives.pure _

theorem flagChars_head (bb : Bool) :
    ∃ c tail, flagChars bb = c :: tail ∧ plain c = true ∧ isBlank c = false ∧ c.isDigit = false ∧
      c ≠ '[' ∧ c ≠ '{' ∧ c ≠ '"' ∧ c ≠ '\'' ∧ c ≠ '.' ∧
      (decide (c = '+') || decide (c = '-')) = false ∧
      (decide (c = 'i') || decide (c = 'n')) = false ∧ Text.isLetter c = true := by
  cases bb
  · exact ⟨'f', _, rfl, by decide⟩
  · exact ⟨'t', _, rfl, by decide⟩

theorem value_flag (bb : Bool) (hv : v.rest = sp ++ flagChars bb ++ rest) (hsp : Spaces sp)
    (hend : ValueEnd rest) (fuel : Nat) :
    Reads (value b (fuel + 1)) v fun a w => a.1 = .bool bb ∧ w = { v with rest := rest } := by
  obtain ⟨c, tail, ht, hc, hcb, hd, h1, h2, h3, h4, h5, h6, h7, hl⟩ := flagChars_head bb
  rw [ht, List.append_assoc, List.cons_append] at hv
  rw [value]
  refine (skipWhile_gives hv hsp.blank (stopsAt_cons hc hcb)).bind ?_
  refine (next_gives rfl hc).bind ?_
  dsimp only
  rw [if_neg (by simp [hd]), if_neg h1, if_neg h2, if_neg h3, if_neg h4, if_neg h5,
    if_neg (by simp [h6]), if_neg (by simp [h7]), if_pos hl]
  refine unread_gives.bind ?_
  refine (boolWord_gives bb (show _ = flagChars bb ++ rest by rw [ht]; rfl) hend).bind ?_
  refine Reads.bind line_reads ?_
  rintro _ w rfl
  exact Reads.pure ⟨rfl, rfl⟩

end Values

/-! ### Numbers -/

theorem digitChar_spec : ∀ d < 10, plain (Nat.digitChar d) = true ∧
    (Nat.digitChar d).isDigit = true ∧ hexValue (Nat.digitChar d) = d ∧
    (Nat.digitChar d = '0' ↔ d = 0) := by
  decide

theorem toDigits_digits (n : Nat) :
    ∀ c ∈ Nat.toDigits 10 n, plain c = true ∧ c.isDigit = true := by
  induction n using Nat.strong_induction_on with
  | _ n ih =>
    rw [Nat.toDigits_eq_if (by decide)]
    split
    · rename_i h
      intro c hc
      rw [List.mem_singleton.mp hc]
      exact ⟨(digitChar_spec n h).1, (digitChar_spec n h).2.1⟩
    · rename_i h
      intro c hc
      rcases List.mem_append.mp hc with hc | hc
      · exact ih (n / 10) (by omega) c hc
      · rw [List.mem_singleton.mp hc]
        have := digitChar_spec (n % 10) (Nat.mod_lt _ (by decide))
        exact ⟨this.1, this.2.1⟩

theorem digitsValue_toDigits (n : Nat) : digitsValue 10 (Nat.toDigits 10 n) = n := by
  induction n using Nat.strong_induction_on with
  | _ n ih =>
    rw [Nat.toDigits_eq_if (by decide)]
    split
    · rename_i h
      simp [digitsValue, (digitChar_spec n h).2.2.1]
    · rename_i h
      rw [digitsValue_append, ih (n / 10) (by omega),
        (digitChar_spec (n % 10) (Nat.mod_lt _ (by decide))).2.2.1]
      omega

theorem toDigits_cons (n : Nat) :
    ∃ c ds, Nat.toDigits 10 n = c :: ds ∧ (c = '0' → n = 0 ∧ ds = []) := by
  induction n using Nat.strong_induction_on with
  | _ n ih =>
    rw [Nat.toDigits_eq_if (by decide)]
    split
    · rename_i h
      exact ⟨_, [], rfl, fun hc => ⟨(digitChar_spec n h).2.2.2.mp hc, rfl⟩⟩
    · rename_i h
      obtain ⟨c, ds, hcd, hc⟩ := ih (n / 10) (by omega)
      refine ⟨c, ds ++ [Nat.digitChar (n % 10)], by rw [hcd]; rfl, fun h0 => ?_⟩
      have := (hc h0).1
      omega

theorem underscoresOk_go_digits (l : List Char) (hl : l ≠ [])
    (hd : ∀ c ∈ l, c.isDigit = true) (ok : Bool) : underscoresOk.go l ok = true := by
  induction l generalizing ok with
  | nil => exact absurd rfl hl
  | cons c l ih =>
    have hc := hd c List.mem_cons_self
    have hnu : c ≠ '_' := by
      rintro rfl
      exact absurd hc (by decide)
    have hhex : isHex c = true := by simp [isHex, hc]
    rw [underscoresOk.go]
    · cases l with
      | nil => simp [underscoresOk.go, hhex]
      | cons d l => exact ih (by simp) (fun x hx => hd x (List.mem_cons_of_mem c hx)) _
    · exact hnu

section Numbers

variable {v : View} {sp rest : List Char} {b : Bool}

theorem integerValue_toDigits {n : Nat} (hn : n < 9223372036854775808) (a : Nat) :
    Gives (integerValue (Nat.toDigits 10 n) a) v (.int n) v := by
  obtain ⟨c, ds, hcd, hc0⟩ := toDigits_cons n
  have hdig := toDigits_digits n
  rw [hcd] at hdig
  have hc := (hdig c List.mem_cons_self).2
  have hne : ∀ d : Char, d.isDigit = false → c ≠ d := by
    rintro d hd rfl
    rw [hc] at hd
    cases hd
  have hu : underscoresOk (c :: ds) = true :=
    underscoresOk_go_digits _ (by simp) (fun x hx => (hdig x hx).2) false
  have hz : hasLeadingZero (c :: ds) = false := by
    unfold hasLeadingZero
    split
    · rename_i heq
      obtain ⟨rfl, rfl⟩ := List.cons.inj heq
      simp at hc0
    · rename_i heq
      obtain ⟨rfl, -⟩ := List.cons.inj heq
      simp [hne '-' (by decide), hne '+' (by decide)]
    · rfl
  have hf : (c :: ds).filter (· != '_') = c :: ds := by
    rw [List.filter_eq_self]
    intro x hx
    have := (hdig x hx).2
    have : x ≠ '_' := by
      rintro rfl
      exact absurd this (by decide)
    simpa using this
  have hval : digitsValue 10 (c :: ds) = n := by rw [← hcd, digitsValue_toDigits]
  rw [hcd]
  unfold integerValue
  simp only [hu, hz, hf, Bool.not_true, Bool.false_eq_true, if_false]
  -- the number is decimal: neither a base prefix nor a sign opens it
  split
  · rename_i heq
    obtain ⟨rfl, rfl⟩ := List.cons.inj heq
    simp at hc0
  · rename_i heq
    obtain ⟨rfl, rfl⟩ := List.cons.inj heq
    simp at hc0
  · rename_i heq
    obtain ⟨rfl, rfl⟩ := List.cons.inj heq
    simp at hc0
  · rename_i heq
    obtain ⟨rfl, -⟩ := List.cons.inj heq
    exact absurd rfl (hne '-' (by decide))
  · rename_i heq
    obtain ⟨rfl, -⟩ := List.cons.inj heq
    exact absurd rfl (hne '+' (by decide))
  · rw [hval, if_neg (by simp; omega)]
    exact Gives.pure _

theorem unsignedNumber_toDigits {n : Nat} (hn : n < 9223372036854775808) {c : Char} {ds : List Char}
    (hcd : Nat.toDigits 10 n = c :: ds) (hv : v.rest = ds ++ rest) (hend : ValueEnd rest) :
    Reads (unsignedNumber c) v fun a w => a = .int n ∧ w = { v with rest := rest } := by
  obtain ⟨d, more, rfl, hd, -, hdd, -, hd1, hd2, hd3, hd4, hd5, hd6, hd7, hd8, hd9⟩ := hend.head
  obtain ⟨c', ds', hcd', hc0⟩ := toDigits_cons n
  rw [hcd] at hcd'
  obtain ⟨rfl, rfl⟩ := List.cons.inj hcd'
  unfold unsignedNumber
  by_cases h0 : c = '0'
  · -- zero is the digit `0` alone
    obtain ⟨rfl, rfl⟩ := hc0 h0
    rw [if_pos h0]
    refine (peek_gives hv hd).bind ?_
    split
    case h_8 =>
      rename_i heq
      cases heq
      rw [if_neg (by simp [hdd])]
      refine Reads.bind line_reads ?_
      rintro _ w rfl
      have ht : [c] = Nat.toDigits 10 0 := by rw [hcd]
      rw [ht]
      exact (integerValue_toDigits hn _).mono fun a u h =>
        ⟨h.1, h.2.trans (View.with_rest_self hv).symm⟩
    -- the character after the number opens no other kind of value
    all_goals
      rename_i heq
      cases heq <;> contradiction
  · rw [if_neg h0]
    unfold digitsRest
    refine fuelLeft_gives.bind ?_
    refine (takeWhile_gives hv
      (fun x hx => toDigits_digits n x (by rw [hcd]; exact List.mem_cons_of_mem c hx))
      (stopsAt_cons hd hdd) (by rw [hv]; simp; omega)).bind ?_
    refine (peek_gives rfl hd).bind ?_
    split
    case h_7 =>
      refine Reads.bind line_reads ?_
      rintro _ w rfl
      have ht : [c] ++ ds = Nat.toDigits 10 n := by rw [hcd]; rfl
      rw [ht]
      exact (integerValue_toDigits hn _).mono fun a u h => ⟨h.1, h.2⟩
    all_goals
      rename_i heq
      cases heq
      contradiction

theorem value_int {n : Nat} (hn : n < 9223372036854775808)
    (hv : v.rest = sp ++ Nat.toDigits 10 n ++ rest) (hsp : Spaces sp) (hend : ValueEnd rest)
    (fuel : Nat) :
    Reads (value b (fuel + 1)) v fun a w => a.1 = .int n ∧ w = { v with rest := rest } := by
  obtain ⟨c, ds, hcd, -⟩ := toDigits_cons n
  obtain ⟨hc, hcd'⟩ := toDigits_digits n c (by rw [hcd]; exact List.mem_cons_self)
  have hcb : isBlank c = false := by
    simp only [isBlank, Bool.or_eq_false_iff, decide_eq_false_iff_not]
    constructor <;> (rintro rfl; exact absurd hcd' (by decide))
  rw [hcd, List.append_assoc, List.cons_append] at hv
  rw [value]
  refine (skipWhile_gives hv hsp.blank (stopsAt_cons hc hcb)).bind ?_
  refine (next_gives rfl hc).bind ?_
  dsimp only
  rw [if_pos hcd']
  refine Reads.bind (unsignedNumber_toDigits hn hcd rfl hend) ?_
  rintro _ w ⟨rfl, rfl⟩
  refine Reads.bind line_reads ?_
  rintro _ w rfl
  exact Reads.pure ⟨rfl, rfl⟩

end Numbers

/-! ### Arrays of strings -/

section Arrays

variable {v : View} {sp rest : List Char} {b : Bool}

theorem writeString_head (x : String) (more : List Char) :
    ∃ q m, (writeString x).toList ++ more = q :: m ∧ (q = '"' ∨ q = '\'') := by
  rw [writeString_toList]
  split
  · exact ⟨'"', _, rfl, .inl rfl⟩
  · exact ⟨'\'', _, rfl, .inr rfl⟩

theorem Spaces.blankOrBreak {sp : List Char} (h : Spaces sp) :
    ∀ c ∈ sp, plain c = true ∧ (isBlank c || isBreak c) = true := by
  intro c hc
  rw [h c hc]
  decide

theorem arrayItems_string (y : String) {more : List Char}
    (hv : v.rest = sp ++ (writeString y).toList ++ more) (hsp : Spaces sp) (hend : ValueEnd more)
    {fuel : Nat} {vs : List Value} {w : View}
    (hrest : Gives (arrayRest (fuel + 1)) { v with rest := more } vs w) :
    Gives (arrayItems (fuel + 2)) v (.str y :: vs) w := by
  obtain ⟨q, m, hqm, hq⟩ := writeString_head y more
  have hqp : plain q = true ∧ (isBlank q || isBreak q) = false := by
    rcases hq with rfl | rfl <;> decide
  rw [List.append_assoc, hqm] at hv
  rw [arrayItems]
  refine (skipWhile_gives hv hsp.blankOrBreak (stopsAt_cons hqp.1 hqp.2)).bind ?_
  refine (peek_gives rfl hqp.1).bind ?_
  split
  case h_4 =>
    refine Reads.bind (value_string y (show _ = [] ++ (writeString y).toList ++ more by
      rw [List.nil_append, hqm]) (fun _ h => absurd h List.not_mem_nil) hend fuel) ?_
    rintro ⟨a, l⟩ u ⟨rfl, rfl⟩
    refine hrest.bind ?_
    exact Reads.pure ⟨rfl, rfl⟩
  -- a written string opens with a quote
  all_goals
    rename_i heq
    cases heq
    rcases hq with hq | hq <;> cases hq

theorem valueEnd_items (ys : List String) (rest : List Char) :
    ValueEnd ((ys.flatMap fun y => ',' :: ' ' :: (writeString y).toList) ++ ']' :: rest) := by
  cases ys with
  | nil => exact ⟨']', rest, rfl, .inr (.inr rfl)⟩
  | cons z zs => exact ⟨',', _, rfl, .inr (.inl rfl)⟩

theorem arrayRest_gives (ys : List String)
    (hv : v.rest = (ys.flatMap fun y => ',' :: ' ' :: (writeString y).toList) ++ ']' :: rest)
    {fuel : Nat} (hf : 2 * ys.length < fuel) :
    Gives (arrayRest fuel) v (ys.map .str) { v with rest := rest } := by
  induction ys generalizing v fuel with
  | nil =>
    obtain ⟨fuel, rfl⟩ : ∃ f, fuel = f + 1 := ⟨fuel - 1, by omega⟩
    rw [arrayRest]
    refine (skipWhile_none (by rw [hv]; exact stopsAt_cons (by decide) (by decide))).bind ?_
    refine (next_gives (by rw [hv]; rfl) (by decide)).bind ?_
    exact Reads.pure ⟨rfl, rfl⟩
  | cons y ys ih =>
    obtain ⟨fuel, rfl⟩ : ∃ f, fuel = f + 3 := ⟨fuel - 3, by simp at hf; omega⟩
    rw [List.flatMap_cons, List.append_assoc, List.cons_append] at hv
    rw [arrayRest]
    refine (skipWhile_none (by rw [hv]; exact stopsAt_cons (by decide) (by decide))).bind ?_
    refine (next_gives hv (by decide)).bind ?_
    exact arrayItems_string y (show _ = [' '] ++ _ ++ _ from rfl)
      (fun _ h => List.mem_singleton.mp h)
      (valueEnd_items ys rest)
      (ih rfl (by simp at hf; omega))

theorem writeStrings_nil : (writeStrings []).toList = ['[', ']'] := by decide

theorem intercalate_cons_map {α β : Type} (sep a : List α) (f : β → List α) (l : List β) :
    sep.intercalate (a :: l.map f) = a ++ l.flatMap fun y => sep ++ f y := by
  induction l generalizing a with
  | nil => simp
  | cons y l ih => simp [List.intercalate_cons_cons, ih]

theorem writeStrings_cons (x : String) (ys : List String) :
    (writeStrings (x :: ys)).toList = '[' :: ((writeString x).toList ++
      (ys.flatMap fun y => ',' :: ' ' :: (writeString y).toList) ++ [']']) := by
  unfold writeStrings
  simp [String.toList_intercalate, List.map_map, intercalate_cons_map]

theorem setType_gives (k : String) (isArray : Bool) (at_ : Nat) :
    Gives (setType k isArray at_) v () v :=
  modify_gives (fun w => w) fun _ => by rfl

theorem arrayItems_close (hv : v.rest = ']' :: rest) (fuel : Nat) :
    Gives (arrayItems (fuel + 1)) v [] { v with rest := rest } := by
  rw [arrayItems]
  refine (skipWhile_none (by rw [hv]; exact stopsAt_cons (by decide) (by decide))).bind ?_
  refine (peek_gives hv (by decide)).bind ?_
  dsimp only
  refine (next_gives hv (by decide)).bind ?_
  exact Reads.pure ⟨rfl, rfl⟩

theorem value_strings (xs : List String) (hv : v.rest = sp ++ (writeStrings xs).toList ++ rest)
    (hsp : Spaces sp) {fuel : Nat} (hf : 2 * xs.length < fuel) :
    Reads (value b (fuel + 1)) v fun a w =>
      a.1 = .arr (xs.map .str) ∧ w = { v with rest := rest } := by
  have hopen : ∃ more, (writeStrings xs).toList = '[' :: more := by
    cases xs with
    | nil => exact ⟨_, writeStrings_nil⟩
    | cons x ys => exact ⟨_, writeStrings_cons x ys⟩
  obtain ⟨more, hmore⟩ := hopen
  rw [value]
  refine (skipWhile_gives (show v.rest = sp ++ '[' :: (more ++ rest) by rw [hv, hmore]; simp)
    hsp.blank (stopsAt_cons (by decide) (by decide))).bind ?_
  refine (next_gives rfl (by decide)).bind ?_
  dsimp only
  rw [if_neg (by decide), if_pos rfl]
  refine Reads.bind line_reads ?_
  rintro _ w rfl
  refine Reads.get_bind fun st _ => ?_
  refine (setType_gives _ _ _).bind ?_
  cases xs with
  | nil =>
    obtain ⟨fuel, rfl⟩ : ∃ f, fuel = f + 1 := ⟨fuel - 1, by omega⟩
    rw [writeStrings_nil] at hmore
    cases hmore
    refine (arrayItems_close rfl fuel).bind ?_
    exact Reads.pure ⟨rfl, rfl⟩
  | cons x ys =>
    obtain ⟨fuel, rfl⟩ : ∃ f, fuel = f + 2 := ⟨fuel - 2, by simp at hf; omega⟩
    rw [writeStrings_cons] at hmore
    cases hmore
    refine Reads.bind (arrayItems_string x (show _ = [] ++ _ ++ _ by simp)
      (fun _ h => absurd h List.not_mem_nil) (valueEnd_items ys rest)
      (arrayRest_gives ys rfl (by simp at hf; omega))) ?_
    rintro _ w ⟨rfl, rfl⟩
    exact Reads.pure ⟨rfl, rfl⟩

theorem length_writeString (s : String) : 2 ≤ (writeString s).toList.length := by
  rw [writeString_toList]
  split <;> simp

theorem length_writeStrings (xs : List String) :
    2 * xs.length + 2 ≤ (writeStrings xs).toList.length := by
  cases xs with
  | nil => simp [writeStrings_nil]
  | cons x ys =>
    have hys :
        4 * ys.length ≤ (ys.flatMap fun y => ',' :: ' ' :: (writeString y).toList).length := by
      induction ys with
      | nil => simp
      | cons y ys ih =>
        have := length_writeString y
        simp only [List.flatMap_cons, List.length_append, List.length_cons] at ih ⊢
        omega
    have := length_writeString x
    simp only [writeStrings_cons, List.length_cons, List.length_append]
    omega

end Arrays

/-! ### Values as the writer writes them -/

inductive Written where
  | text (s : String)
  | flag (b : Bool)
  | count (n : Nat)
  | texts (xs : List String)

namespace Written

def chars : Written → List Char
  | text s => (writeString s).toList
  | flag b => flagChars b
  | count n => Nat.toDigits 10 n
  | texts xs => (writeStrings xs).toList

def value : Written → Value
  | text s => .str s
  | flag b => .bool b
  | count n => .int n
  | texts xs => .arr (xs.map .str)

def Fits : Written → Prop
  | count n => n < 9223372036854775808
  | _ => True

end Written

theorem value_written {v : View} {sp rest : List Char} {b : Bool} (x : Written) (hx : x.Fits)
    (hv : v.rest = sp ++ x.chars ++ rest) (hsp : Spaces sp) (hend : ValueEnd rest) {fuel : Nat}
    (hf : x.chars.length < fuel) :
    Reads (value b fuel) v fun a w => a.1 = x.value ∧ w = { v with rest := rest } := by
  obtain ⟨fuel, rfl⟩ : ∃ f, fuel = f + 1 := ⟨fuel - 1, by omega⟩
  cases x with
  | text s => exact value_string s hv hsp hend fuel
  | flag bb => exact value_flag bb hv hsp hend fuel
  | count n => exact value_int hx hv hsp hend fuel
  | texts xs =>
    have := length_writeStrings xs
    exact value_strings xs hv hsp (by simp only [Written.chars] at hf; omega)

end DhcpDecoder.Toml
