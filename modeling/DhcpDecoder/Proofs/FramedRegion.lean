import Mathlib
import DhcpDecoder.Decoding.Result
import DhcpDecoder.Proofs.Concatenation
import DhcpDecoder.Proofs.DatagramParse

/-!
An options region processed on its own, and processed behind an encoded header.
-/

namespace DhcpDecoder

open Record.Walk

namespace Header

variable (h : Header) (r : List UInt8)

theorem drop_encode_append : (h.encode ++ r).drop 240 = r :=
  List.drop_left' (encode_length h)

theorem cookie_encode_append : (h.encode ++ r).extract 236 240 = magicCookie := by
  rw [extract_append_left (by omega) (by rw [encode_length]), List.extract_eq_take_drop,
    encode_drop_fields]
  rfl

theorem decode_encode_append : decode (h.encode ++ r) = decode h.encode :=
  decode_append (by rw [encode_length]; omega) r

end Header

namespace Frame

theorem regionSections_encode_append (h : Header) (r : List UInt8) (main : Report)
    (ov : Overload) :
    regionSections (Header.decode (h.encode ++ r)) main ov = regionSections h main ov := by
  -- the overload reads only the file and sname fields, which the wire keeps
  rw [Header.decode_encode_append, Header.decode_encode]
  rfl

theorem parse_encode_append (h : Header) (r : List UInt8) {ov : Overload}
    (hov : (overloadOf (decodeOptions r)).getD .none = ov) :
    parse (h.encode ++ r) = .ok ⟨Header.decode (h.encode ++ r), true,
      (regionSections h (Report.inspect r) ov).flatMap (·.report.options),
      regionSections h (Report.inspect r) ov, ov⟩ := by
  have hlen : 236 ≤ (h.encode ++ r).length := by
    simp only [List.length_append, Header.encode_length]
    omega
  have hov' : (overloadOf (Report.inspect ((h.encode ++ r).drop 240)).options).getD .none = ov := by
    rw [Header.drop_encode_append]
    exact hov
  rw [parse_with_cookie hlen (Header.cookie_encode_append h r) hov', Header.drop_encode_append,
    regionSections_encode_append]

end Frame

namespace DecodeResult

section Process

variable (s : String) (b : List UInt8) (opts : DecodeOptions)

theorem decodeOnly_validation (frame : Bool) : (decodeOnly s b frame).validation = none := by
  unfold decodeOnly
  split
  · split <;> rfl
  · rfl

theorem process_eq :
    process s b opts =
      if opts.validate && (decodeOnly s b opts.frame).fault.isNone then
        { decodeOnly s b opts.frame with validation := validate (decodeOnly s b opts.frame).options }
      else decodeOnly s b opts.frame := rfl

theorem process_options : (process s b opts).options = (decodeOnly s b opts.frame).options := by
  rw [process_eq]
  split <;> rfl

theorem process_sections : (process s b opts).sections = (decodeOnly s b opts.frame).sections := by
  rw [process_eq]
  split <;> rfl

theorem process_fault : (process s b opts).fault = (decodeOnly s b opts.frame).fault := by
  rw [process_eq]
  split <;> rfl

theorem process_validation :
    (process s b opts).validation =
      if opts.validate && (decodeOnly s b opts.frame).fault.isNone then
        validate (decodeOnly s b opts.frame).options
      else none := by
  by_cases hc : (opts.validate && (decodeOnly s b opts.frame).fault.isNone) = true
  · rw [process_eq, if_pos hc, if_pos hc]
  · rw [process_eq, if_neg hc, if_neg hc, decodeOnly_validation]

end Process

theorem outcome_eq_of {p q : DecodeResult} (hf : p.fault = q.fault)
    (hs : p.sections = q.sections) (hv : p.validation = q.validation) :
    p.outcome = q.outcome := by
  simp [outcome, truncated, hf, hs, hv]

variable (s : String) (h : Header) (r : List UInt8) (V : Bool)

theorem decodeOnly_bare :
    (decodeOnly s r false).fault = none ∧
      (decodeOnly s r false).sections = [⟨.options, Report.inspect r⟩] ∧
      (decodeOnly s r false).options = (Report.inspect r).options :=
  ⟨rfl, rfl, rfl⟩

theorem decodeOnly_encode_append {ov : Overload}
    (hov : (overloadOf (decodeOptions r)).getD .none = ov) :
    (decodeOnly s (h.encode ++ r) true).fault = none ∧
      (decodeOnly s (h.encode ++ r) true).sections =
        ⟨.options, Report.inspect r⟩ :: Frame.overloadSections h ov ∧
      (decodeOnly s (h.encode ++ r) true).options =
        (Report.inspect r).options ++
          (Frame.overloadSections h ov).flatMap (·.report.options) := by
  rw [decodeOnly, if_pos rfl, Frame.parse_encode_append h r hov]
  refine ⟨rfl, rfl, ?_⟩
  simp only [Frame.regionSections, List.flatMap_cons]

theorem process_encode_append :
    (process s (h.encode ++ r) { frame := true, validate := V }).fault = none ∧
    (process s r { frame := false, validate := V }).fault = none ∧
    (process s r { frame := false, validate := V }).options <+:
      (process s (h.encode ++ r) { frame := true, validate := V }).options ∧
    (process s r { frame := false, validate := V }).sections <+:
      (process s (h.encode ++ r) { frame := true, validate := V }).sections ∧
    ((∀ o ∈ decodeOptions r, o.code ≠ 52) →
      (process s (h.encode ++ r) { frame := true, validate := V }).options =
        (process s r { frame := false, validate := V }).options ∧
      (process s (h.encode ++ r) { frame := true, validate := V }).sections =
        (process s r { frame := false, validate := V }).sections ∧
      (process s (h.encode ++ r) { frame := true, validate := V }).validation =
        (process s r { frame := false, validate := V }).validation ∧
      (process s (h.encode ++ r) { frame := true, validate := V }).truncated =
        (process s r { frame := false, validate := V }).truncated ∧
      (process s (h.encode ++ r) { frame := true, validate := V }).skipped =
        (process s r { frame := false, validate := V }).skipped ∧
      (process s (h.encode ++ r) { frame := true, validate := V }).outcome =
        (process s r { frame := false, validate := V }).outcome) ∧
    ((∃ o ∈ decodeOptions r, o.code = 52) →
      ∃ ov : Overload,
        (decodeOptions r).find? (·.code == 52) = some (.plain 52 (.overload ov)) ∧
        (process s (h.encode ++ r) { frame := true, validate := V }).sections =
          (process s r { frame := false, validate := V }).sections ++
            ((if ov.file then [⟨.file, Report.inspect h.file.bytes⟩] else []) ++
              (if ov.sname then [⟨.sname, Report.inspect h.sname.bytes⟩] else []))) := by
  obtain ⟨ov, hfirst, hov⟩ := first_overload r
  obtain ⟨hFf, hFs, hFo⟩ := decodeOnly_encode_append s h r hov
  obtain ⟨hBf, hBs, hBo⟩ := decodeOnly_bare s r
  -- the framed sections and options are the bare ones followed by those the overload selects
  have hs : (process s (h.encode ++ r) { frame := true, validate := V }).sections =
      (process s r { frame := false, validate := V }).sections ++ Frame.overloadSections h ov := by
    rw [process_sections, process_sections, hFs, hBs]
    rfl
  have ho : (process s (h.encode ++ r) { frame := true, validate := V }).options =
      (process s r { frame := false, validate := V }).options ++
        (Frame.overloadSections h ov).flatMap (·.report.options) := by
    rw [process_options, process_options, hFo, hBo]
  have hf : (process s (h.encode ++ r) { frame := true, validate := V }).fault =
      (process s r { frame := false, validate := V }).fault := by
    rw [process_fault, process_fault, hFf, hBf]
  refine ⟨by rw [process_fault, hFf], by rw [process_fault, hBf],
    by rw [ho]; exact List.prefix_append _ _, by rw [hs]; exact List.prefix_append _ _,
    fun hno => ?_, fun ⟨o, hmem, hc⟩ => ?_⟩
  · -- no option 52: the overload is none and the framed result adds nothing
    have hnone : ov = .none := by
      rcases hfirst with hfind | ⟨-, hn⟩
      · have hc := List.find?_some hfind
        exact absurd (by simpa using hc) (hno _ (List.mem_of_find?_eq_some hfind))
      · exact hn
    subst hnone
    rw [Frame.overloadSections_none, List.append_nil] at hs
    rw [Frame.overloadSections_none, List.flatMap_nil, List.append_nil] at ho
    have hv : (process s (h.encode ++ r) { frame := true, validate := V }).validation =
        (process s r { frame := false, validate := V }).validation := by
      rw [process_validation, process_validation, hFf, hBf, ← process_options, ← process_options,
        ho]
    exact ⟨ho, hs, hv, by rw [truncated, truncated, hs], by rw [skipped, skipped, hs],
      outcome_eq_of hf hs hv⟩
  · -- an option 52: the first one is an overload, and its regions follow the options region
    rcases hfirst with hfind | ⟨hn, -⟩
    · exact ⟨ov, hfind, hs⟩
    · exact absurd hc (hn o hmem)

theorem process_encode_append_file_overload :
    (∃ o ∈ decodeOptions [52, 1, 1, 255], o.code = 52) ∧
      ∃ ov : Overload,
        (decodeOptions [52, 1, 1, 255]).find? (·.code == 52) = some (.plain 52 (.overload ov)) ∧
        (process "dhcp" (({} : Header).encode ++ [52, 1, 1, 255])
            { frame := true, validate := true }).sections =
          (process "dhcp" [52, 1, 1, 255] { frame := false, validate := true }).sections ++
            ((if ov.file then [⟨.file, Report.inspect ({} : Header).file.bytes⟩] else []) ++
              (if ov.sname then [⟨.sname, Report.inspect ({} : Header).sname.bytes⟩] else [])) :=
  have h52 : ∃ o ∈ decodeOptions [52, 1, 1, 255], o.code = 52 := by
    refine ⟨.plain 52 (.overload ⟨1⟩), ?_, rfl⟩
    simp [decodeOptions, walkOptions, ofBytes, scanFrom, isSentinel, optionRules, DhcpOption.decode]
    decide
  ⟨h52, (process_encode_append "dhcp" {} [52, 1, 1, 255] true).2.2.2.2.2 h52⟩

end DecodeResult

end DhcpDecoder
