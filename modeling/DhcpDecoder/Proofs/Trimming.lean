import Mathlib
import DhcpDecoder.Text.Space

/-!
Trimming white space.
-/

namespace DhcpDecoder

section Trim

variable {α : Type} {p : α → Bool}

theorem trimWith_append_of_all {A B : List α} (hA : ∀ a ∈ A, p a) (hB : ∀ b ∈ B, p b)
    (l : List α) :
    ((((A ++ l ++ B).dropWhile p).reverse.dropWhile p).reverse) =
      (((l.dropWhile p).reverse.dropWhile p).reverse) := by
  rw [List.append_assoc, List.dropWhile_append_of_pos hA, List.dropWhile_append]
  split
  · -- nothing of `l` is left after its leading part, so nothing is left at all
    rename_i h
    simp only [List.isEmpty_iff] at h
    rw [h, List.dropWhile_eq_nil_iff.mpr hB]
  · rw [List.reverse_append, List.dropWhile_append_of_pos (by simpa using hB)]

theorem trimWith_of_ends {l : List α} (hh : ∀ a ∈ l.head?, p a = false)
    (hl : ∀ a ∈ l.getLast?, p a = false) :
    ((l.dropWhile p).reverse.dropWhile p).reverse = l := by
  have keep : ∀ m : List α, (∀ a ∈ m.head?, p a = false) → m.dropWhile p = m := by
    intro m hm
    cases m with
    | nil => rfl
    | cons a m => simp [hm a rfl]
  rw [keep l hh, keep l.reverse (by simpa using hl), List.reverse_reverse]

theorem trimWith_ends (l : List α) :
    (∀ a ∈ (((l.dropWhile p).reverse.dropWhile p).reverse).head?, p a = false) ∧
      ∀ a ∈ (((l.dropWhile p).reverse.dropWhile p).reverse).getLast?, p a = false := by
  constructor
  · -- the result starts where the leading part of `l` ended
    intro a ha
    set m := l.dropWhile p
    have hpre : ((m.reverse.dropWhile p).reverse) <+: m := by
      simpa using (List.dropWhile_suffix p (l := m.reverse)).reverse
    obtain ⟨k, hk⟩ := hpre
    have hhead : m.head? = some a := by
      rw [← hk, List.head?_append, Option.mem_def.mp ha, Option.some_or]
    have hm := List.head?_dropWhile_not p l
    rw [hhead] at hm
    exact hm
  · intro a ha
    rw [List.getLast?_reverse] at ha
    have hm := List.head?_dropWhile_not p (l.dropWhile p).reverse
    rw [ha] at hm
    exact hm

end Trim

namespace Text

def Trimmed (t : String) : Prop :=
  (∀ c ∈ t.toList.head?, isSpace c = false) ∧ ∀ c ∈ t.toList.getLast?, isSpace c = false

theorem trimSpace_toList (s : String) :
    (trimSpace s).toList = ((s.toList.dropWhile isSpace).reverse.dropWhile isSpace).reverse := by
  simp [trimSpace]

theorem trimSpace_spaces_append {lead trail : List Char} (hl : ∀ c ∈ lead, isSpace c)
    (ht : ∀ c ∈ trail, isSpace c) (x : String) :
    trimSpace (String.ofList lead ++ x ++ String.ofList trail) = trimSpace x := by
  rw [← String.toList_inj, trimSpace_toList, trimSpace_toList]
  simpa using trimWith_append_of_all hl ht x.toList

theorem trimmed_trimSpace (s : String) : Trimmed (trimSpace s) := by
  rw [Trimmed, trimSpace_toList]
  exact trimWith_ends s.toList

theorem trimSpace_eq_self_iff {t : String} : trimSpace t = t ↔ Trimmed t := by
  constructor
  · intro h
    rw [← h]
    exact trimmed_trimSpace t
  · rintro ⟨hh, hl⟩
    rw [← String.toList_inj, trimSpace_toList]
    exact trimWith_of_ends hh hl

instance (t : String) : Decidable (Trimmed t) :=
  inferInstanceAs (Decidable (_ ∧ _))

end Text

end DhcpDecoder
