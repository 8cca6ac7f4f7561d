import Mathlib
import DhcpDecoder.Frame.Datagram

/-!
Reading a datagram under a size limit.
-/

namespace DhcpDecoder.Frame

variable {limit : Int}

theorem readBound_eq (hlo : -9223372036854775808 ≤ limit) (hhi : limit < 9223372036854775807)
    (bytes : List UInt8) :
    readBound limit bytes = if limit < 0 then [] else bytes.take (limit + 1).toNat := by
  have hbound : (Int64.ofInt (limit + 1)).toInt = limit + 1 :=
    Int64.toInt_ofInt_of_le (by omega) (by omega)
  unfold readBound
  rw [hbound]
  by_cases hneg : limit < 0
  · rw [if_pos (by omega), if_pos hneg]
  · rw [if_neg (by omega), if_neg hneg]

theorem readBound_max (bytes : List UInt8) : readBound 9223372036854775807 bytes = [] := by
  have hbound : (Int64.ofInt (9223372036854775807 + 1)).toInt = -9223372036854775808 := by
    simp
  unfold readBound
  rw [hbound, if_pos (by omega)]

theorem read_eq (hlo : -9223372036854775808 ≤ limit) (hhi : limit < 9223372036854775807)
    (bytes : List UInt8) :
    read limit bytes = if limit < bytes.length then .error (.tooLarge limit) else parse bytes := by
  unfold read
  rw [readBound_eq hlo hhi]
  by_cases hneg : limit < 0
  · -- nothing is read, and even nothing is more than a negative limit
    rw [if_pos hneg, if_pos (by simp; omega), if_pos (by omega)]
  rw [if_neg hneg]
  by_cases hlong : limit < bytes.length
  · -- one byte past the limit is read, which is one too many
    have hlen : ((bytes.take (limit + 1).toNat).length : Int) = limit + 1 := by
      rw [List.length_take]
      omega
    rw [if_pos (by omega), if_pos hlong]
  · rw [List.take_of_length_le (by omega), if_neg (by omega)]

theorem parse_ne_tooLarge (bytes : List UInt8) (limit : Int) :
    parse bytes ≠ .error (.tooLarge limit) := by
  intro h
  unfold parse at h
  split at h
  · cases h
  · split at h
    · cases h
    · dsimp only at h
      split at h <;> cases h

theorem read_within_limit (hlo : -9223372036854775808 ≤ limit)
    (hhi : limit < 9223372036854775807) (bytes : List UInt8) :
    (read limit bytes = .error (.tooLarge limit) ↔ limit < bytes.length) ∧
      (bytes.length ≤ limit → read limit bytes = parse bytes) := by
  rw [read_eq hlo hhi]
  by_cases hlong : limit < bytes.length
  · simp [hlong]
  · rw [if_neg hlong]
    exact ⟨⟨fun h => absurd h (parse_ne_tooLarge bytes limit), fun h => absurd h hlong⟩,
      fun _ => rfl⟩

theorem read_max_limit (bytes : List UInt8) : read 9223372036854775807 bytes = parse [] := by
  unfold read
  rw [readBound_max, if_neg (by simp)]

theorem read_max_limit_one_byte :
    read 9223372036854775807 [1] = .error (.shortHeader 0) ∧
      parse [1] = .error (.shortHeader 1) := by
  rw [read_max_limit]
  exact ⟨rfl, rfl⟩

/-- Among the 64-bit limits, the size limit is exact, refusing just the datagrams longer than it and
parsing every other whole, for precisely those below the largest. -/
theorem read_limit_exact_iff (hlo : -9223372036854775808 ≤ limit)
    (hhi : limit ≤ 9223372036854775807) :
    (∀ bytes : List UInt8, (read limit bytes = .error (.tooLarge limit) ↔ limit < bytes.length) ∧
      (bytes.length ≤ limit → read limit bytes = parse bytes)) ↔ limit < 9223372036854775807 := by
  constructor
  · intro hexact
    by_contra hmax
    have hL : limit = 9223372036854775807 := by omega
    subst hL
    -- a one-byte datagram fits, yet what is parsed is the empty one
    have hone := (hexact [1]).2 (by simp)
    have h0 : parse [] = .error (.shortHeader 0) := rfl
    have h1 : parse [1] = .error (.shortHeader 1) := rfl
    rw [read_max_limit, h0, h1] at hone
    simp at hone
  · intro hlt bytes
    exact read_within_limit hlo hlt bytes

theorem read_limit_exact_at_four :
    (-9223372036854775808 : Int) ≤ 4 ∧ (4 : Int) ≤ 9223372036854775807 ∧
      read 4 [1, 2, 3, 4] = parse [1, 2, 3, 4] := by
  have hexact := (read_limit_exact_iff (show (-9223372036854775808 : Int) ≤ 4 by omega)
    (by omega)).mpr (by omega)
  exact ⟨by omega, by omega, (hexact [1, 2, 3, 4]).2 (by simp)⟩

end DhcpDecoder.Frame
