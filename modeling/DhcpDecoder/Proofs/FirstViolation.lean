import Mathlib
import DhcpDecoder.Message.Requirement

/-!
Checking a message against its table row.
-/

namespace DhcpDecoder

def FirstCode (p : UInt8 → Prop) (row : List UInt8) (c : UInt8) : Prop :=
  ∃ pre post, row = pre ++ c :: post ∧ (∀ d ∈ pre, ¬ p d) ∧ p c

section Lookups

variable {opts : List DhcpOption} {m : MessageType} {r : Requirement} {c : UInt8}

theorem hasCode_eq_true_iff : hasCode opts c = true ↔ c ∈ opts.map DhcpOption.code := by
  simp [hasCode]

theorem find?_eq_some_iff_firstCode {q : UInt8 → Bool} {row : List UInt8} :
    row.find? q = some c ↔ FirstCode (fun d => q d = true) row c := by
  rw [List.find?_eq_some_iff_append]
  constructor
  · rintro ⟨hc, pre, post, rfl, hpre⟩
    exact ⟨pre, post, rfl, fun d hd => by simpa using hpre d hd, hc⟩
  · rintro ⟨pre, post, rfl, hpre, hc⟩
    exact ⟨hc, pre, post, rfl, fun d hd => by simpa using hpre d hd⟩

theorem firstCode_absent_iff :
    r.required.find? (fun d => !hasCode opts d) = some c ↔
      FirstCode (· ∉ opts.map DhcpOption.code) r.required c := by
  rw [find?_eq_some_iff_firstCode]
  simp only [Bool.not_eq_true', Bool.eq_false_iff, ne_eq, hasCode_eq_true_iff]

theorem firstCode_present_iff :
    r.forbidden.find? (hasCode opts) = some c ↔
      FirstCode (· ∈ opts.map DhcpOption.code) r.forbidden c := by
  rw [find?_eq_some_iff_firstCode]
  simp only [hasCode_eq_true_iff]

theorem messageTypeOf_eq_some_iff :
    messageTypeOf opts = some m ↔
      opts.find? (·.code == 53) = some (.plain 53 (.messageType m)) := by
  unfold messageTypeOf
  cases h : opts.find? (·.code == 53) with
  | none => simp
  | some o =>
    have hc : o.code = 53 := by simpa using List.find?_some h
    cases o with
    | sentinel c => simp
    | relay subs => simp
    | plain c v =>
      simp only [DhcpOption.code] at hc
      subst hc
      cases v <;> simp

end Lookups

section Outcomes

variable {opts : List DhcpOption} {m : MessageType} {r : Requirement}

theorem validate_eq_missing_iff :
    validate opts = some .missingMessageType ↔ messageTypeOf opts = none := by
  unfold validate
  cases messageTypeOf opts with
  | none => simp
  | some m =>
    simp only [reduceCtorEq, iff_false]
    split
    · simp
    · split
      · simp
      · cases (Requirement.forbidden _).find? _ <;> simp

theorem validate_of_noRow (hm : messageTypeOf opts = some m) (hr : Requirement.of? m = none) :
    validate opts = none := by
  simp [validate, hm, hr]

theorem validate_of_absent (hm : messageTypeOf opts = some m) (hr : Requirement.of? m = some r)
    {c : UInt8} (hf : r.required.find? (fun d => !hasCode opts d) = some c) :
    validate opts = some (.missingRequired m c) := by
  simp only [validate, hm, hr, hf]

theorem validate_of_present (hm : messageTypeOf opts = some m) (hr : Requirement.of? m = some r)
    (hf : r.required.find? (fun d => !hasCode opts d) = none) :
    validate opts = (r.forbidden.find? (hasCode opts)).map (Violation.forbidden m) := by
  simp only [validate, hm, hr, hf]

theorem required_present (hf : r.required.find? (fun d => !hasCode opts d) = none) :
    ∀ c ∈ r.required, c ∈ opts.map DhcpOption.code := by
  intro c hc
  simpa [hasCode_eq_true_iff] using List.find?_eq_none.mp hf c hc

theorem required_absent {c : UInt8} (hf : r.required.find? (fun d => !hasCode opts d) = some c) :
    ¬ ∀ d ∈ r.required, d ∈ opts.map DhcpOption.code := by
  obtain ⟨pre, post, hrow, -, hc⟩ := firstCode_absent_iff.mp hf
  exact fun hreq => hc (hreq c (by simp [hrow]))

theorem validate_eq_none_iff (hm : messageTypeOf opts = some m) :
    validate opts = none ↔ ∀ r, Requirement.of? m = some r →
      (∀ c ∈ r.required, c ∈ opts.map DhcpOption.code) ∧
        ∀ c ∈ r.forbidden, c ∉ opts.map DhcpOption.code := by
  cases hr : Requirement.of? m with
  | none => simp [validate_of_noRow hm hr]
  | some r =>
    simp only [Option.some.injEq, forall_eq']
    cases hf : r.required.find? (fun d => !hasCode opts d) with
    | some c =>
      rw [validate_of_absent hm hr hf]
      simp only [reduceCtorEq, false_iff, not_and]
      exact fun hreq => absurd hreq (required_absent hf)
    | none =>
      rw [validate_of_present hm hr hf]
      simp only [Option.map_eq_none_iff, List.find?_eq_none, hasCode_eq_true_iff]
      exact ⟨fun h => ⟨required_present hf, h⟩, fun h => h.2⟩

theorem validate_eq_missingRequired_iff (hm : messageTypeOf opts = some m) (c : UInt8) :
    validate opts = some (.missingRequired m c) ↔ ∃ r, Requirement.of? m = some r ∧
      FirstCode (· ∉ opts.map DhcpOption.code) r.required c := by
  cases hr : Requirement.of? m with
  | none => simp [validate_of_noRow hm hr]
  | some r =>
    simp only [Option.some.injEq, exists_eq_left', ← firstCode_absent_iff]
    cases hf : r.required.find? (fun d => !hasCode opts d) with
    | some c' => simp [validate_of_absent hm hr hf, eq_comm]
    | none =>
      rw [validate_of_present hm hr hf]
      cases r.forbidden.find? (hasCode opts) <;> simp

theorem validate_eq_forbidden_iff (hm : messageTypeOf opts = some m) (c : UInt8) :
    validate opts = some (.forbidden m c) ↔ ∃ r, Requirement.of? m = some r ∧
      (∀ d ∈ r.required, d ∈ opts.map DhcpOption.code) ∧
      FirstCode (· ∈ opts.map DhcpOption.code) r.forbidden c := by
  cases hr : Requirement.of? m with
  | none => simp [validate_of_noRow hm hr]
  | some r =>
    simp only [Option.some.injEq, exists_eq_left', ← firstCode_present_iff]
    cases hf : r.required.find? (fun d => !hasCode opts d) with
    | some c' =>
      rw [validate_of_absent hm hr hf]
      simp only [Option.some.injEq, reduceCtorEq, false_iff, not_and]
      exact fun hreq => absurd hreq (required_absent hf)
    | none =>
      rw [validate_of_present hm hr hf, Option.map_eq_some_iff]
      constructor
      · rintro ⟨c', hc', heq⟩
        cases heq
        exact ⟨required_present hf, hc'⟩
      · exact fun h => ⟨c, h.2, rfl⟩

theorem validate_names_type (hm : messageTypeOf opts = some m) {v : Violation}
    (hv : validate opts = some v) : ∃ c, v = .missingRequired m c ∨ v = .forbidden m c := by
  cases hr : Requirement.of? m with
  | none => simp [validate_of_noRow hm hr] at hv
  | some r =>
    cases hf : r.required.find? (fun d => !hasCode opts d) with
    | some c =>
      rw [validate_of_absent hm hr hf] at hv
      cases hv
      exact ⟨c, .inl rfl⟩
    | none =>
      rw [validate_of_present hm hr hf] at hv
      obtain ⟨c, -, rfl⟩ := Option.map_eq_some_iff.mp hv
      exact ⟨c, .inr rfl⟩

end Outcomes

section Invariance

variable {opts opts' : List DhcpOption}

theorem validate_congr (hm : messageTypeOf opts' = messageTypeOf opts)
    (hc : ∀ m r, messageTypeOf opts = some m → Requirement.of? m = some r →
      ∀ c ∈ r.required ++ r.forbidden,
        (c ∈ opts'.map DhcpOption.code ↔ c ∈ opts.map DhcpOption.code)) :
    validate opts' = validate opts := by
  cases hmt : messageTypeOf opts with
  | none => rw [validate_eq_missing_iff.mpr (hm.trans hmt), validate_eq_missing_iff.mpr hmt]
  | some m =>
    have hm' := hm.trans hmt
    cases hr : Requirement.of? m with
    | none => rw [validate_of_noRow hm' hr, validate_of_noRow hmt hr]
    | some r =>
      -- the row's codes occur in both lists alike, so both lookups find the same code
      have hcode : ∀ c ∈ r.required ++ r.forbidden, hasCode opts' c = hasCode opts c := by
        intro c hcr
        rw [Bool.eq_iff_iff, hasCode_eq_true_iff, hasCode_eq_true_iff]
        exact hc m r hmt hr c hcr
      have hreq : r.required.find? (fun d => !hasCode opts' d) =
          r.required.find? (fun d => !hasCode opts d) :=
        List.find?_congr fun d hd => by rw [hcode d (List.mem_append_left _ hd)]
      have hforb : r.forbidden.find? (hasCode opts') = r.forbidden.find? (hasCode opts) :=
        List.find?_congr fun d hd => hcode d (List.mem_append_right _ hd)
      cases hf : r.required.find? (fun d => !hasCode opts d) with
      | some c =>
        rw [validate_of_absent hm' hr (hreq.trans hf), validate_of_absent hmt hr hf]
      | none =>
        rw [validate_of_present hm' hr (hreq.trans hf), validate_of_present hmt hr hf, hforb]

theorem messageTypeOf_congr (h53 : opts'.find? (·.code == 53) = opts.find? (·.code == 53)) :
    messageTypeOf opts' = messageTypeOf opts := by
  simp only [messageTypeOf, h53]

theorem validate_congr_codes (h53 : opts'.find? (·.code == 53) = opts.find? (·.code == 53))
    (hc : ∀ c, c ∈ opts'.map DhcpOption.code ↔ c ∈ opts.map DhcpOption.code) :
    validate opts' = validate opts :=
  validate_congr (messageTypeOf_congr h53) fun _ _ _ _ c _ => hc c

end Invariance

/-- Checking a message reports its first violation. -/
theorem validate_first_violation (opts : List DhcpOption) :
    (validate opts = some .missingMessageType ↔
      ∀ m, opts.find? (·.code == 53) ≠ some (.plain 53 (.messageType m))) ∧
    (∀ m, opts.find? (·.code == 53) = some (.plain 53 (.messageType m)) →
      (validate opts = none ↔ ∀ r, Requirement.of? m = some r →
        (∀ c ∈ r.required, c ∈ opts.map DhcpOption.code) ∧
          ∀ c ∈ r.forbidden, c ∉ opts.map DhcpOption.code) ∧
      (∀ c, validate opts = some (.missingRequired m c) ↔ ∃ r, Requirement.of? m = some r ∧
        FirstCode (· ∉ opts.map DhcpOption.code) r.required c) ∧
      (∀ c, validate opts = some (.forbidden m c) ↔ ∃ r, Requirement.of? m = some r ∧
        (∀ d ∈ r.required, d ∈ opts.map DhcpOption.code) ∧
        FirstCode (· ∈ opts.map DhcpOption.code) r.forbidden c) ∧
      (∀ v, validate opts = some v → ∃ c, v = .missingRequired m c ∨ v = .forbidden m c)) ∧
    (∀ opts', messageTypeOf opts' = messageTypeOf opts →
      (∀ c, c ∈ opts'.map DhcpOption.code ↔ c ∈ opts.map DhcpOption.code) →
      validate opts' = validate opts) ∧
    (∀ opts', opts'.Perm opts → opts'.find? (·.code == 53) = opts.find? (·.code == 53) →
      validate opts' = validate opts) ∧
    (∀ opts', (∀ o, o ∈ opts' ↔ o ∈ opts) →
      opts'.find? (·.code == 53) = opts.find? (·.code == 53) → validate opts' = validate opts) ∧
    (∀ opts', opts.Sublist opts' → (∀ o ∈ opts', o ∈ opts ∨ ∀ m r, messageTypeOf opts = some m →
        Requirement.of? m = some r → o.code ∉ r.required ++ r.forbidden) →
      opts'.find? (·.code == 53) = opts.find? (·.code == 53) → validate opts' = validate opts) := by
  refine ⟨?_, fun m hm => ?_, fun opts' hm hc => validate_congr hm fun _ _ _ _ c _ => hc c,
    fun opts' hp h53 => validate_congr_codes h53 fun c => (hp.map _).mem_iff,
    fun opts' hmem h53 => validate_congr_codes h53 fun c => by simp [hmem], ?_⟩
  · rw [validate_eq_missing_iff, ← Option.not_isSome_iff_eq_none, Option.isSome_iff_exists]
    simp [messageTypeOf_eq_some_iff]
  · have hmt := messageTypeOf_eq_some_iff.mpr hm
    exact ⟨validate_eq_none_iff hmt, validate_eq_missingRequired_iff hmt,
      validate_eq_forbidden_iff hmt, fun v hv => validate_names_type hmt hv⟩
  · -- an added option's code lies outside the row, so the row's codes occur as before
    intro opts' hsub hadd h53
    refine validate_congr (messageTypeOf_congr h53) fun m r hmt hr c hc => ⟨fun h' => ?_,
      fun h => List.Sublist.subset (hsub.map _) h⟩
    obtain ⟨o, ho, rfl⟩ := List.mem_map.mp h'
    rcases hadd o ho with ho' | hout
    · exact List.mem_map_of_mem ho'
    · exact absurd hc (hout m r hmt hr)

theorem validate_message_type_added_first :
    Requirement.of? .discover = some ⟨[], [54]⟩ ∧ (53 : UInt8) ∉ ([] ++ [54] : List UInt8) ∧
      validate [.plain 53 (.messageType .discover)] = none ∧
      validate [.plain 53 (.messageType .offer), .plain 53 (.messageType .discover)] =
        some (.missingRequired .offer 51) := by
  decide

theorem validate_first_violation_offer :
    [DhcpOption.plain 53 (.messageType .offer), .plain 51 (.u32 3600),
        .plain 54 (.ipv4 ⟨10, 0, 0, 1⟩), .plain 50 (.ipv4 ⟨10, 0, 0, 9⟩)].find? (·.code == 53) =
      some (.plain 53 (.messageType .offer)) ∧
    validate [.plain 53 (.messageType .offer), .plain 51 (.u32 3600),
        .plain 54 (.ipv4 ⟨10, 0, 0, 1⟩), .plain 50 (.ipv4 ⟨10, 0, 0, 9⟩)] =
      some (.forbidden .offer 50) := by
  have hfind : [DhcpOption.plain 53 (.messageType .offer), .plain 51 (.u32 3600),
      .plain 54 (.ipv4 ⟨10, 0, 0, 1⟩), .plain 50 (.ipv4 ⟨10, 0, 0, 9⟩)].find? (·.code == 53) =
      some (.plain 53 (.messageType .offer)) := rfl
  refine ⟨hfind, ((validate_first_violation _).2.1 _ hfind).2.2.1 50 |>.mpr
    ⟨⟨[51, 54], [50, 55, 61, 57]⟩, rfl, ?_, [], [55, 61, 57], rfl, by simp, ?_⟩⟩
  · simp [DhcpOption.code]
  · simp [DhcpOption.code]

end DhcpDecoder
