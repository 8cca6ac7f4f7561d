import Mathlib
import DhcpDecoder.Service.Auth
import DhcpDecoder.Proofs.Trimming

/-!
Which `Authorization` headers a static token accepts.
-/

namespace DhcpDecoder

open Text

section Case

theorem toNat_toLower (c : Char) :
    c.toLower.toNat = if 65 ≤ c.toNat ∧ c.toNat ≤ 90 then c.toNat + 32 else c.toNat := by
  have hv : c.val.toNat = c.toNat := rfl
  unfold Char.toLower
  split_ifs with hc hn hn
  · show (c.val + ('a'.val - 'A'.val)).toNat = c.toNat + 32
    rw [UInt32.toNat_add, show ('a'.val - 'A'.val).toNat = 32 by decide, hv]
    omega
  · exact absurd (by simpa [UInt32.le_iff_toNat_le, hv] using hc) hn
  · exact absurd (by simpa [UInt32.le_iff_toNat_le, hv] using hn) hc
  · rfl

theorem toNat_toUpper (c : Char) :
    c.toUpper.toNat = if 97 ≤ c.toNat ∧ c.toNat ≤ 122 then c.toNat - 32 else c.toNat := by
  have hv : c.val.toNat = c.toNat := rfl
  unfold Char.toUpper
  split_ifs with hc hn hn
  · show (c.val + ('A'.val - 'a'.val)).toNat = c.toNat - 32
    have hlo : 97 ≤ c.toNat := by simpa [UInt32.le_iff_toNat_le, hv] using hc.1
    rw [UInt32.toNat_add, show ('A'.val - 'a'.val).toNat = 4294967264 by decide, hv]
    omega
  · exact absurd (by simpa [UInt32.le_iff_toNat_le, hv] using hc) hn
  · exact absurd (by simpa [UInt32.le_iff_toNat_le, hv] using hn) hc
  · rfl

theorem toLower_eq_toLower_iff {c d : Char} (hd : d.isAlpha = true) :
    c.toLower = d.toLower ↔ c = d.toLower ∨ c = d.toUpper := by
  have hd' : (65 ≤ d.toNat ∧ d.toNat ≤ 90) ∨ (97 ≤ d.toNat ∧ d.toNat ≤ 122) := by
    simpa [Char.isAlpha, Char.isUpper, Char.isLower, UInt32.le_iff_toNat_le] using hd
  simp only [← Char.toNat_inj, toNat_toLower, toNat_toUpper]
  split_ifs <;> omega

def SpelledInAnyCase (s word : String) : Prop :=
  List.Forall₂ (fun c d => c = d.toLower ∨ c = d.toUpper) s.toList word.toList

instance (s word : String) : Decidable (SpelledInAnyCase s word) :=
  inferInstanceAs (Decidable (List.Forall₂ _ _ _))

theorem forall₂_congr_right {α β : Type} {R S : α → β → Prop} {l : List α} {u : List β}
    (h : ∀ a, ∀ b ∈ u, (R a b ↔ S a b)) : List.Forall₂ R l u ↔ List.Forall₂ S l u := by
  simp only [List.forall₂_iff_zip]
  refine and_congr_right fun _ => ⟨fun hR a b hab => ?_, fun hS a b hab => ?_⟩
  · exact (h a b (List.of_mem_zip hab).2).mp (hR hab)
  · exact (h a b (List.of_mem_zip hab).2).mpr (hS hab)

theorem equalsIgnoringAsciiCase_iff {s word : String} (hw : ∀ d ∈ word.toList, d.isAlpha) :
    equalsIgnoringAsciiCase s word = true ↔ SpelledInAnyCase s word := by
  have hlower : equalsIgnoringAsciiCase s word = true ↔
      List.Forall₂ (fun c d => c.toLower = d.toLower) s.toList word.toList := by
    rw [← List.forall₂_map_right_iff, ← List.forall₂_map_left_iff, List.forall₂_eq_eq_eq]
    simp [equalsIgnoringAsciiCase, asciiLower, ← String.toList_inj]
  rw [hlower, SpelledInAnyCase]
  exact forall₂_congr_right fun c d hd => toLower_eq_toLower_iff (hw d hd)

theorem bearer_toList : "Bearer".toList = ['B', 'e', 'a', 'r', 'e', 'r'] := by
  simp

theorem forall_left_of_forall₂ {α β : Type} {R : α → β → Prop} {P : α → Prop} {l : List α}
    {u : List β} (h : List.Forall₂ R l u) (hP : ∀ a, ∀ b ∈ u, R a b → P a) : ∀ a ∈ l, P a := by
  induction h with
  | nil => simp
  | @cons a b l u hab _ ih =>
    intro x hx
    rcases List.mem_cons.mp hx with rfl | hx
    · exact hP x b List.mem_cons_self hab
    · exact ih (fun a' b' hb' => hP a' b' (List.mem_cons_of_mem b hb')) x hx

theorem SpelledInAnyCase.bearer_not_space {s : String} (hs : SpelledInAnyCase s "Bearer") :
    ∀ c ∈ s.toList, isSpace c = false := by
  have hletters : ∀ d ∈ "Bearer".toList, isSpace d.toLower = false ∧ isSpace d.toUpper = false := by
    rw [bearer_toList]
    intro d hd
    fin_cases hd <;> decide
  refine forall_left_of_forall₂ hs fun c d hd hcd => ?_
  rcases hcd with rfl | rfl
  · exact (hletters d hd).1
  · exact (hletters d hd).2

end Case

section FirstSpace

variable {s r s' r' cs : List Char}

theorem exists_cut_at_first_space (h : ' ' ∈ cs) : ∃ s r, cs = s ++ ' ' :: r ∧ ' ' ∉ s := by
  induction cs with
  | nil => simp at h
  | cons c cs ih =>
    by_cases hc : c = ' '
    · exact ⟨[], cs, by simp [hc], by simp⟩
    · obtain ⟨s, r, rfl, hs⟩ := ih (by simpa [Ne.symm hc] using h)
      exact ⟨c :: s, r, rfl, by simp [hs, Ne.symm hc]⟩

theorem splitOn_space_of_not_mem (h : ' ' ∉ cs) : cs.splitOn ' ' = [cs] := by
  rw [List.splitOn_eq_splitOnP]
  exact List.splitOnP_eq_singleton fun c hc => by
    simpa using ne_of_mem_of_not_mem hc h

theorem splitOn_space_cut (hs : ' ' ∉ s) (r : List Char) :
    (s ++ ' ' :: r).splitOn ' ' = s :: r.splitOn ' ' := by
  rw [List.splitOn_eq_splitOnP, List.splitOn_eq_splitOnP]
  exact List.splitOnP_append_cons_of_forall_mem
    (fun c hc => by simpa using ne_of_mem_of_not_mem hc hs) ' ' (by simp) r

theorem cut_unique (hs : ' ' ∉ s) (hs' : ' ' ∉ s') (h : s ++ ' ' :: r = s' ++ ' ' :: r') :
    s = s' ∧ r = r' := by
  have hsplit := congrArg (List.splitOn ' ') h
  rw [splitOn_space_cut hs, splitOn_space_cut hs'] at hsplit
  obtain rfl := (List.cons.inj hsplit).1
  exact ⟨rfl, (List.cons.inj (List.append_cancel_left h)).2⟩

end FirstSpace

/-- `header` carries the bearer token `tok`: trimmed of white space it is a scheme without a space
that spells `Bearer` in any case, a space, and a rest that trims to `tok`. -/
def BearerOf (header tok : String) : Prop :=
  ∃ s r : String, trimSpace header = s ++ " " ++ r ∧ ' ' ∉ s.toList ∧
    SpelledInAnyCase s "Bearer" ∧ trimSpace r = tok

theorem cut_toList {s r : String} : (s ++ " " ++ r).toList = s.toList ++ ' ' :: r.toList := by
  simp

theorem BearerOf.unique {header a b : String} (ha : BearerOf header a) (hb : BearerOf header b) :
    a = b := by
  obtain ⟨s, r, hcut, hs, -, rfl⟩ := ha
  obtain ⟨s', r', hcut', hs', -, rfl⟩ := hb
  have hlists : s.toList ++ ' ' :: r.toList = s'.toList ++ ' ' :: r'.toList := by
    rw [← cut_toList, ← cut_toList, ← hcut, ← hcut']
  rw [← String.toList_inj.mp (cut_unique hs hs' hlists).2]

theorem BearerOf.trimmed {header tok : String} (h : BearerOf header tok) : Trimmed tok := by
  obtain ⟨s, r, -, -, -, rfl⟩ := h
  exact trimmed_trimSpace r

theorem bearer_isAlpha : ∀ d ∈ "Bearer".toList, d.isAlpha = true := by
  rw [bearer_toList]
  intro d hd
  fin_cases hd <;> decide

section Token

variable {header tok : String}

theorem bearerToken_of_no_space (h : ' ' ∉ (trimSpace header).toList) :
    bearerToken header = .error .missingToken := by
  simp only [bearerToken, splitOn_space_of_not_mem h]

theorem bearerToken_of_cut {s r : List Char} (hcut : (trimSpace header).toList = s ++ ' ' :: r)
    (hs : ' ' ∉ s) :
    bearerToken header =
      if SpelledInAnyCase (String.ofList s) "Bearer" ∧ trimSpace (String.ofList r) ≠ "" then
        .ok (trimSpace (String.ofList r))
      else .error .missingToken := by
  obtain ⟨x, xs, hx⟩ := List.exists_cons_of_ne_nil (List.splitOn_ne_nil ' ' r)
  have hrest : (s ++ ' ' :: r).drop (s.length + 1) = r := by
    simp
  simp only [bearerToken, hcut, splitOn_space_cut hs, hx, hrest,
    ← equalsIgnoringAsciiCase_iff bearer_isAlpha]
  by_cases hb : equalsIgnoringAsciiCase (String.ofList s) "Bearer" = true <;>
    by_cases he : trimSpace (String.ofList r) = "" <;> simp [hb, he]

theorem bearerToken_ne_unauthorized (header : String) :
    bearerToken header ≠ .error .unauthorized := by
  by_cases h : ' ' ∈ (trimSpace header).toList
  · obtain ⟨s, r, hcut, hs⟩ := exists_cut_at_first_space h
    rw [bearerToken_of_cut hcut hs]
    split <;> simp
  · rw [bearerToken_of_no_space h]
    simp

theorem bearerToken_sound (h : bearerToken header = .ok tok) : tok ≠ "" ∧ BearerOf header tok := by
  by_cases hsp : ' ' ∈ (trimSpace header).toList
  · obtain ⟨s, r, hcut, hs⟩ := exists_cut_at_first_space hsp
    rw [bearerToken_of_cut hcut hs] at h
    split at h
    · rename_i hok
      obtain rfl := (Except.ok.inj h)
      refine ⟨hok.2, String.ofList s, String.ofList r, ?_, by simpa using hs, hok.1, rfl⟩
      rw [← String.toList_inj, hcut, cut_toList]
      simp
    · cases h
  · rw [bearerToken_of_no_space hsp] at h
    cases h

theorem bearerToken_complete (hne : tok ≠ "") (h : BearerOf header tok) :
    bearerToken header = .ok tok := by
  obtain ⟨s, r, hcut, hs, hscheme, rfl⟩ := h
  have hlist : (trimSpace header).toList = s.toList ++ ' ' :: r.toList := by
    rw [hcut, cut_toList]
  rw [bearerToken_of_cut hlist hs]
  simp [hscheme, hne]

theorem bearerToken_eq_ok_iff : bearerToken header = .ok tok ↔ tok ≠ "" ∧ BearerOf header tok :=
  ⟨bearerToken_sound, fun h => bearerToken_complete h.1 h.2⟩

theorem bearerToken_cases (header : String) :
    (bearerToken header = .error .missingToken ∧ ¬ ∃ tok, tok ≠ "" ∧ BearerOf header tok) ∨
      ∃ tok, bearerToken header = .ok tok ∧ tok ≠ "" ∧ BearerOf header tok := by
  cases hb : bearerToken header with
  | ok tok => exact .inr ⟨tok, rfl, bearerToken_sound hb⟩
  | error e =>
    refine .inl ⟨?_, fun ⟨tok, hne, htok⟩ => ?_⟩
    · cases e
      · rfl
      · exact absurd hb (bearerToken_ne_unauthorized header)
    · rw [bearerToken_complete hne htok] at hb
      cases hb

theorem forall_cut_empty_iff :
    (∀ s r : String, trimSpace header = s ++ " " ++ r → ' ' ∉ s.toList →
      SpelledInAnyCase s "Bearer" → trimSpace r = "") ↔
      ¬ ∃ tok, tok ≠ "" ∧ BearerOf header tok := by
  constructor
  · rintro h ⟨tok, hne, s, r, hcut, hs, hscheme, rfl⟩
    exact hne (h s r hcut hs hscheme)
  · intro h s r hcut hs hscheme
    by_contra hne
    exact h ⟨trimSpace r, hne, s, r, hcut, hs, hscheme, rfl⟩

end Token

section Check

variable {t header tok : String}

theorem checkHeader_of_token (h : bearerToken header = .ok tok) :
    checkHeader t header = staticCheck t tok := by
  simp [checkHeader, h, bind, Except.bind]

theorem checkHeader_of_error {e : AuthError} (h : bearerToken header = .error e) :
    checkHeader t header = .error e := by
  simp [checkHeader, h, bind, Except.bind]

theorem staticCheck_eq_ok_iff : staticCheck t tok = .ok () ↔ t ≠ "" ∧ tok = t := by
  by_cases ht : t = ""
  · simp [staticCheck, ht]
  · by_cases he : tok = t
    · simp [staticCheck, he]
    · simp [staticCheck, ht, he, Ne.symm he]

theorem staticCheck_eq_unauthorized_iff :
    staticCheck t tok = .error .unauthorized ↔ t = "" ∨ tok ≠ t := by
  by_cases ht : t = ""
  · simp [staticCheck, ht]
  · by_cases he : tok = t
    · simp [staticCheck, ht, he]
    · simp [staticCheck, ht, he, Ne.symm he]

theorem staticCheck_ne_missing : staticCheck t tok ≠ .error .missingToken := by
  unfold staticCheck
  split <;> simp

theorem checkHeader_eq_ok_iff : checkHeader t header = .ok () ↔ t ≠ "" ∧ BearerOf header t := by
  rcases bearerToken_cases header with ⟨hb, hnone⟩ | ⟨tok, hb, -, htok⟩
  · rw [checkHeader_of_error hb]
    exact ⟨fun h => (by cases h), fun ⟨ht, hbt⟩ => absurd ⟨t, ht, hbt⟩ hnone⟩
  · -- the token compared is the one the header carries, and it carries only that one
    rw [checkHeader_of_token hb, staticCheck_eq_ok_iff]
    exact and_congr_right fun _ => ⟨fun h => h ▸ htok, htok.unique⟩

theorem checkHeader_eq_missing_iff :
    checkHeader t header = .error .missingToken ↔
      ∀ s r : String, trimSpace header = s ++ " " ++ r → ' ' ∉ s.toList →
        SpelledInAnyCase s "Bearer" → trimSpace r = "" := by
  rw [forall_cut_empty_iff]
  rcases bearerToken_cases header with ⟨hb, hnone⟩ | ⟨tok, hb, hne, htok⟩
  · rw [checkHeader_of_error hb]
    exact iff_of_true rfl hnone
  · rw [checkHeader_of_token hb]
    exact iff_of_false staticCheck_ne_missing (not_not_intro ⟨tok, hne, htok⟩)

theorem checkHeader_eq_unauthorized_iff :
    checkHeader t header = .error .unauthorized ↔
      ∃ tok, tok ≠ "" ∧ BearerOf header tok ∧ (t = "" ∨ tok ≠ t) := by
  rcases bearerToken_cases header with ⟨hb, hnone⟩ | ⟨tok, hb, hne, htok⟩
  · rw [checkHeader_of_error hb]
    exact iff_of_false (by simp) fun ⟨tok, hne, htok, _⟩ => hnone ⟨tok, hne, htok⟩
  · rw [checkHeader_of_token hb, staticCheck_eq_unauthorized_iff]
    constructor
    · exact fun hcase => ⟨tok, hne, htok, hcase⟩
    · rintro ⟨tok', -, htok', hcase⟩
      rwa [htok.unique htok']

theorem bearerOf_spaced {lead trail : List Char} {scheme : String} (hl : ∀ c ∈ lead, isSpace c)
    (htr : ∀ c ∈ trail, isSpace c) (hs : SpelledInAnyCase scheme "Bearer") (ht : t ≠ "")
    (htt : Trimmed t) :
    BearerOf (String.ofList lead ++ scheme ++ " " ++ t ++ String.ofList trail) t := by
  have hsp := hs.bearer_not_space
  have hscheme : scheme.toList ≠ [] := by
    intro h
    have := hs.length_eq
    rw [h, bearer_toList] at this
    cases this
  have htl : t.toList ≠ [] := by simpa using ht
  have hmid : Trimmed (scheme ++ " " ++ t) := by
    obtain ⟨c, cs, hc⟩ := List.exists_cons_of_ne_nil hscheme
    refine ⟨?_, ?_⟩
    · rw [cut_toList, hc]
      simpa using hsp c (by simp [hc])
    · rw [cut_toList, List.getLast?_append, List.getLast?_cons]
      obtain ⟨d, hd⟩ := Option.ne_none_iff_exists'.mp (List.getLast?_eq_none_iff.not.mpr htl)
      simpa [hd] using htt.2 d hd
  have hassoc : String.ofList lead ++ scheme ++ " " ++ t ++ String.ofList trail =
      String.ofList lead ++ (scheme ++ " " ++ t) ++ String.ofList trail := by
    simp only [String.append_assoc]
  refine ⟨scheme, t, ?_, fun h => absurd (hsp ' ' h) (by decide), hs,
    trimSpace_eq_self_iff.mpr htt⟩
  rw [hassoc, trimSpace_spaces_append hl htr, trimSpace_eq_self_iff.mpr hmid]

end Check

/-- Checking a header against a static token `t` accepts exactly the headers whose bearer token is
`t`, and only when `t` is not empty. -/
theorem checkHeader_accepts_exactly (t : String) :
    (∀ header,
      (checkHeader t header = .ok () ↔ t ≠ "" ∧ BearerOf header t) ∧
      (checkHeader t header = .error .missingToken ↔
        ∀ s r : String, trimSpace header = s ++ " " ++ r → ' ' ∉ s.toList →
          SpelledInAnyCase s "Bearer" → trimSpace r = "") ∧
      (checkHeader t header = .error .unauthorized ↔
        ∃ tok, tok ≠ "" ∧ BearerOf header tok ∧ (t = "" ∨ tok ≠ t))) ∧
    ((∃ header, checkHeader t header = .ok ()) ↔ t ≠ "" ∧ Trimmed t) ∧
    ∀ (lead trail : List Char) (scheme : String), (∀ c ∈ lead, isSpace c) →
      (∀ c ∈ trail, isSpace c) → SpelledInAnyCase scheme "Bearer" → t ≠ "" → Trimmed t →
      checkHeader t (String.ofList lead ++ scheme ++ " " ++ t ++ String.ofList trail) = .ok () := by
  have hspaced : ∀ (lead trail : List Char) (scheme : String), (∀ c ∈ lead, isSpace c) →
      (∀ c ∈ trail, isSpace c) → SpelledInAnyCase scheme "Bearer" → t ≠ "" → Trimmed t →
      checkHeader t (String.ofList lead ++ scheme ++ " " ++ t ++ String.ofList trail) = .ok () :=
    fun _ _ _ hl htr hs ht htt => checkHeader_eq_ok_iff.mpr ⟨ht, bearerOf_spaced hl htr hs ht htt⟩
  refine ⟨fun header => ⟨checkHeader_eq_ok_iff, checkHeader_eq_missing_iff,
    checkHeader_eq_unauthorized_iff⟩, ⟨?_, ?_⟩, hspaced⟩
  · rintro ⟨header, h⟩
    obtain ⟨ht, htok⟩ := checkHeader_eq_ok_iff.mp h
    exact ⟨ht, htok.trimmed⟩
  · rintro ⟨ht, htt⟩
    exact ⟨_, hspaced [] [] "Bearer" (by simp) (by simp) (by decide) ht htt⟩

theorem checkHeader_accepts_spaced_casing :
    checkHeader "s3cret" (String.ofList [' ', '\t'] ++ "bEaReR" ++ " " ++ "s3cret" ++
      String.ofList ['\u3000']) = .ok () :=
  (checkHeader_accepts_exactly "s3cret").2.2 [' ', '\t'] ['\u3000'] "bEaReR"
    (fun c hc => by fin_cases hc <;> decide) (fun c hc => by fin_cases hc; decide) (by decide)
    (by decide) (trimSpace_eq_self_iff.mp (by decide))

end DhcpDecoder
