import Mathlib
import DhcpDecoder.Service.Stats

/-!
Listener statistics against the outcomes of the results they count.
-/

namespace DhcpDecoder

namespace Stats

/-- The counters a listener should show after the results `rs`, counted by outcome: every result is
a frame, `no_cookie` and `error` are errors, and `truncated` and `invalid` have a counter each. -/
def tally (rs : List DecodeResult) : Stats where
  frames := rs.length
  truncated := rs.countP (·.outcome = .truncated)
  invalid := rs.countP (·.outcome = .invalid)
  errors := rs.countP fun r => r.outcome = .noCookie ∨ r.outcome = .error
  seen := !rs.isEmpty

theorem tally_nil : tally [] = {} := rfl

theorem observe_tally (rs : List DecodeResult) (r : DecodeResult) :
    (tally rs).observe r = tally (rs ++ [r]) := by
  unfold observe tally
  cases hf : r.fault with
  | some f =>
    -- a fault is an error whether or not it is the missing cookie
    have ho : r.outcome = .noCookie ∨ r.outcome = .error := by
      by_cases hc : f = .badCookie <;> simp [DecodeResult.outcome, hf, hc]
    rcases ho with ho | ho <;> simp [ho, List.countP_append]
  | none =>
    by_cases ht : r.truncated
    · have ho : r.outcome = .truncated := by simp [DecodeResult.outcome, hf, ht]
      simp [ho, ht, List.countP_append]
    · by_cases hv : r.validation.isSome
      · have ho : r.outcome = .invalid := by simp [DecodeResult.outcome, hf, ht, hv]
        simp [ho, ht, hv, List.countP_append]
      · have ho : r.outcome = .ok := by simp [DecodeResult.outcome, hf, ht, hv]
        simp [ho, ht, hv, List.countP_append]

theorem tally_frames (rs : List DecodeResult) :
    (tally rs).frames =
      (tally rs).errors + (tally rs).truncated + (tally rs).invalid +
        rs.countP (·.outcome = .ok) := by
  induction rs with
  | nil => rfl
  | cons r rs ih =>
    simp only [tally, List.length_cons, List.countP_cons] at ih ⊢
    cases r.outcome <;> simp at ih ⊢ <;> omega

theorem steps_of_tally (rs qs : List DecodeResult) :
    steps (tally rs) qs =
      (List.range qs.length).map fun k => tally (rs ++ qs.take (k + 1)) := by
  induction qs generalizing rs with
  | nil => rfl
  | cons q qs ih =>
    rw [steps, observe_tally, ih, List.length_cons, List.range_succ_eq_map]
    simp [Function.comp_def]

theorem steps_tally (rs : List DecodeResult) :
    Stats.steps {} rs = (List.range rs.length).map (fun k => Stats.tally (rs.take (k + 1))) ∧
      ∀ k, (Stats.tally (rs.take k)).frames =
        (Stats.tally (rs.take k)).errors + (Stats.tally (rs.take k)).truncated +
          (Stats.tally (rs.take k)).invalid + (rs.take k).countP (·.outcome = .ok) := by
  refine ⟨?_, fun k => tally_frames (rs.take k)⟩
  rw [← tally_nil, steps_of_tally]
  simp

end Stats

end DhcpDecoder
