import Mathlib
import DhcpDecoder.Frame.Datagram
import DhcpDecoder.Proofs.HeaderCodec
import DhcpDecoder.Proofs.RecordChain
import DhcpDecoder.Proofs.ValueCodec

/-!
Parsing a datagram: which regions are inspected, and what the frame holds.
-/

namespace DhcpDecoder

open Record Walk

namespace Record.Walk

theorem Chain.item_origin {α ε : Type} {r : Rules α ε} {buf : List UInt8} {p : Nat}
    {w : Walk α ε} (h : Chain r buf p w) :
    ∀ a ∈ w.items, (∃ tag, isSentinel r tag = true ∧ a = r.sentinel tag) ∨
      ∃ tag bytes, r.decode tag bytes = .ok a := by
  induction h with
  | finish | shortHeader | shortValue => simp
  | @stopAtEnd q tag ht hs he =>
    intro a ha
    simp only [withItem_items, stop_items, List.mem_singleton] at ha
    exact .inl ⟨tag, hs, ha⟩
  | @pad q tag w' ht hs he _ ih =>
    intro a ha
    rcases List.mem_cons.mp ha with rfl | ha
    · exact .inl ⟨tag, hs, rfl⟩
    · exact ih a ha
  | @item q tag len a' w' ht hs hl hv hd _ ih =>
    intro a ha
    rcases List.mem_cons.mp ha with rfl | ha
    · exact .inr ⟨tag, _, hd⟩
    · exact ih a ha
  | skip _ _ _ _ _ _ ih => simpa using ih

end Record.Walk

theorem Catalog.code_of_option? {tag : UInt8} {e : CatalogEntry} (h : Catalog.option? tag = some e) :
    e.code = tag := by
  simpa using List.find?_some h

theorem Catalog.option?_overload : Catalog.option? 52 = some ⟨52, "OptionOverload", .overload⟩ := by
  rfl

theorem DhcpOption.code_eq_overload {tag : UInt8} {bytes : List UInt8} {o : DhcpOption}
    (h : DhcpOption.decode tag bytes = .ok o) (hc : o.code = 52) :
    ∃ ov : Overload, o = .plain 52 (.overload ov) ∧ ov.known = true := by
  unfold DhcpOption.decode at h
  cases he : Catalog.option? tag with
  | none => simp [he] at h
  | some e =>
    simp only [he] at h
    split at h
    · -- option 82 has code 82
      cases h
      simp [code] at hc
    · split at h
      · rename_i v hv
        cases h
        simp only [code] at hc
        subst hc
        rw [Catalog.option?_overload, Option.some.injEq] at he
        subst he
        simp only [Layout.decodeFlat, map_eq_ok_iff, Wire.enum_eq_ok_iff] at hv
        obtain ⟨b, ⟨hk, -⟩, rfl⟩ := hv
        exact ⟨⟨b⟩, rfl, hk⟩
      · cases h

theorem code_eq_overload_of_mem {bytes : List UInt8} {o : DhcpOption}
    (h : o ∈ decodeOptions bytes) (hc : o.code = 52) :
    ∃ ov : Overload, o = .plain 52 (.overload ov) ∧ ov.known = true := by
  have hchain := chain_walkAt optionRules bytes (Nat.zero_le bytes.length)
  rcases hchain.item_origin o h with ⟨tag, hs, rfl⟩ | ⟨tag, value, hd⟩
  · -- a sentinel is Pad or End
    simp only [isSentinel, optionRules, Bool.true_and, Bool.or_eq_true, beq_iff_eq] at hs
    simp only [optionRules, DhcpOption.code] at hc
    rcases hs with rfl | rfl <;> simp at hc
  · exact DhcpOption.code_eq_overload hd hc

theorem first_overload (bytes : List UInt8) :
    ∃ ov : Overload,
      ((decodeOptions bytes).find? (·.code == 52) = some (.plain 52 (.overload ov)) ∨
        (∀ o ∈ decodeOptions bytes, o.code ≠ 52) ∧ ov = .none) ∧
      (overloadOf (decodeOptions bytes)).getD .none = ov := by
  cases hf : (decodeOptions bytes).find? (·.code == 52) with
  | none =>
    refine ⟨.none, .inr ⟨fun o ho hc => ?_, rfl⟩, by simp [overloadOf, hf]⟩
    simpa [hc] using List.find?_eq_none.mp hf o ho
  | some o =>
    have hc : o.code = 52 := by simpa using List.find?_some hf
    obtain ⟨ov, rfl, -⟩ := code_eq_overload_of_mem (List.mem_of_find?_eq_some hf) hc
    exact ⟨ov, .inl rfl, by simp [overloadOf, hf]⟩

theorem Overload.file_eq_true_iff (o : Overload) : o.file = true ↔ o.byte = 1 ∨ o.byte = 3 := by
  simp [Overload.file, ← UInt8.toNat_inj]

theorem Overload.sname_eq_true_iff (o : Overload) : o.sname = true ↔ o.byte = 2 ∨ o.byte = 3 := by
  simp [Overload.sname, ← UInt8.toNat_inj]

namespace Frame

/-- The regions an overload selects beyond the options region: the file field of `h`, then its sname
field. -/
def overloadSections (h : Header) (ov : Overload) : List Section :=
  (if ov.file then [⟨.file, Report.inspect h.file.bytes⟩] else []) ++
    (if ov.sname then [⟨.sname, Report.inspect h.sname.bytes⟩] else [])

theorem overloadSections_none (h : Header) : overloadSections h .none = [] := rfl

/-- The sections of a datagram with header `h` whose options region reports `main`, under the
overload `ov`. -/
def regionSections (h : Header) (main : Report) (ov : Overload) : List Section :=
  ⟨.options, main⟩ :: overloadSections h ov

variable {b : List UInt8}

theorem parse_short (h : b.length < 236) : parse b = .error (.shortHeader b.length) := by
  simp [parse, Header.size, h]

theorem parse_without_cookie (hlen : 236 ≤ b.length) (hc : b.extract 236 240 ≠ magicCookie) :
    parse b = .ok ⟨Header.decode b, false, [], [], .none⟩ := by
  have hc' : (b.drop 236).take 4 ≠ magicCookie := by simpa using hc
  simp [parse, Header.size, hc', Nat.not_lt.mpr hlen]

theorem extract_ne_cookie_of_short (h : b.length < 240) : b.extract 236 240 ≠ magicCookie := by
  intro hc
  have hl := congrArg List.length hc
  simp [magicCookie] at hl
  omega

theorem parse_with_cookie (hlen : 236 ≤ b.length) (hc : b.extract 236 240 = magicCookie)
    {ov : Overload} (hov : (overloadOf (Report.inspect (b.drop 240)).options).getD .none = ov) :
    parse b = .ok ⟨Header.decode b, true,
      (regionSections (Header.decode b) (Report.inspect (b.drop 240)) ov).flatMap
        (·.report.options),
      regionSections (Header.decode b) (Report.inspect (b.drop 240)) ov, ov⟩ := by
  have hc' : (b.drop 236).take 4 = magicCookie := by simpa using hc
  simp only [parse, Header.size, Header.optionsOffset, Nat.not_lt.mpr hlen, if_false, hc',
    bne_self_eq_false, Bool.false_eq_true]
  cases ho : overloadOf (Report.inspect (b.drop 240)).options with
  | none =>
    -- no overload: the options region is the only section
    rw [ho] at hov
    subst hov
    simp [regionSections, overloadSections_none]
  | some o =>
    rw [ho] at hov
    subst hov
    simp [regionSections, overloadSections]

theorem parse_layout (b : List UInt8) :
    (b.length < 236 → parse b = .error (.shortHeader b.length)) ∧
    (236 ≤ b.length → (b.length < 240 ∨ b.extract 236 240 ≠ magicCookie) →
      ∃ f, parse b = .ok f ∧ f.fault? = some .badCookie ∧ f.header = Header.decode b ∧
        f.options = [] ∧ f.sections = [] ∧ f.overload = .none) ∧
    (240 ≤ b.length → b.extract 236 240 = magicCookie →
      ∃ ov : Overload,
        ((decodeOptions (b.drop 240)).find? (·.code == 52) = some (.plain 52 (.overload ov)) ∨
          (∀ o ∈ decodeOptions (b.drop 240), o.code ≠ 52) ∧ ov = .none) ∧
        ∃ f, parse b = .ok f ∧ f.fault? = none ∧ f.header = Header.decode b ∧ f.overload = ov ∧
          f.sections = ⟨.options, Report.inspect (b.drop 240)⟩ ::
            ((if ov.byte = 1 ∨ ov.byte = 3 then [⟨.file, Report.inspect (b.extract 108 236)⟩]
              else []) ++
             (if ov.byte = 2 ∨ ov.byte = 3 then [⟨.sname, Report.inspect (b.extract 44 108)⟩]
              else [])) ∧
          f.options = f.sections.flatMap (·.report.options) ∧
          f.serverName =
            (if ov.byte = 2 ∨ ov.byte = 3 then [] else (b.extract 44 108).takeWhile (· != 0)) ∧
          f.bootFile =
            (if ov.byte = 1 ∨ ov.byte = 3 then [] else (b.extract 108 236).takeWhile (· != 0)) ∧
          (f.truncated = true ↔ ∃ s ∈ f.sections, s.report.cut.isSome = true)) := by
  refine ⟨parse_short, fun hlen hc => ?_, fun hlen hc => ?_⟩
  · -- a datagram too short for the cookie is one without it
    have hc' : b.extract 236 240 ≠ magicCookie := hc.elim extract_ne_cookie_of_short id
    exact ⟨_, parse_without_cookie hlen hc', rfl, rfl, rfl, rfl, rfl⟩
  have hhead : 236 ≤ b.length := by omega
  obtain ⟨ov, hfirst, hov⟩ := first_overload (b.drop 240)
  refine ⟨ov, hfirst, _, parse_with_cookie hhead hc hov, rfl, rfl, rfl, ?_, rfl, ?_, ?_, ?_⟩
  -- the regions the overload selects are the header's own file and sname windows
  · simp [regionSections, overloadSections, Header.decode_file_bytes hhead,
      Header.decode_sname_bytes hhead, Overload.file_eq_true_iff, Overload.sname_eq_true_iff]
  · simp [serverName, FixedBytes.cString, Header.decode_sname_bytes hhead,
      Overload.sname_eq_true_iff]
  · simp [bootFile, FixedBytes.cString, Header.decode_file_bytes hhead, Overload.file_eq_true_iff]
  · simp [truncated, Report.truncated]

def overloadBoth : List UInt8 := List.replicate 236 0 ++ magicCookie ++ [52, 1, 3, 255]

theorem parse_overloadBoth :
    240 ≤ overloadBoth.length ∧ overloadBoth.extract 236 240 = magicCookie ∧
      ∃ ov : Overload,
        ((decodeOptions (overloadBoth.drop 240)).find? (·.code == 52) =
            some (.plain 52 (.overload ov)) ∨
          (∀ o ∈ decodeOptions (overloadBoth.drop 240), o.code ≠ 52) ∧ ov = .none) ∧
        ∃ f, parse overloadBoth = .ok f ∧ f.fault? = none ∧ f.header = Header.decode overloadBoth ∧
          f.overload = ov ∧
          f.sections = ⟨.options, Report.inspect (overloadBoth.drop 240)⟩ ::
            ((if ov.byte = 1 ∨ ov.byte = 3 then
                [⟨.file, Report.inspect (overloadBoth.extract 108 236)⟩] else []) ++
             (if ov.byte = 2 ∨ ov.byte = 3 then
                [⟨.sname, Report.inspect (overloadBoth.extract 44 108)⟩] else [])) ∧
          f.options = f.sections.flatMap (·.report.options) ∧
          f.serverName = (if ov.byte = 2 ∨ ov.byte = 3 then [] else
            (overloadBoth.extract 44 108).takeWhile (· != 0)) ∧
          f.bootFile = (if ov.byte = 1 ∨ ov.byte = 3 then [] else
            (overloadBoth.extract 108 236).takeWhile (· != 0)) ∧
          (f.truncated = true ↔ ∃ s ∈ f.sections, s.report.cut.isSome = true) :=
  have hlen : 240 ≤ overloadBoth.length := by
    simp only [overloadBoth, List.length_append, List.length_replicate, magicCookie,
      List.length_cons, List.length_nil]
    omega
  have hc : overloadBoth.extract 236 240 = magicCookie := by
    rw [overloadBoth, List.extract_eq_take_drop, List.append_assoc,
      List.drop_left' (List.length_replicate ..)]
    rfl
  ⟨hlen, hc, (parse_layout overloadBoth).2.2 hlen hc⟩

end Frame

end DhcpDecoder
