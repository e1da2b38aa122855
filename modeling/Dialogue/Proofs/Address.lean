import Dialogue.Answer.Email
import Dialogue.Proofs.Lowering

/-!
# The form of an address

* `isEmail_iff`: an address is a text without blanks, with one `@`, something before it, and a dot
  between other characters behind it;
* `isEmail_lowercase`: a text is an address exactly if its lower case is;
* `checkEmail_eq_none_iff`: an answer passes the check if what is left of it without its outer
  blanks is an address;
* `IsPartOfAddress`: the texts that occur in some address.
-/

namespace Dialogue

open Text

/-! ### The parts of an address -/

theorem isAddressChar_iff {c : Char} : isAddressChar c = true ↔ c ≠ '@' ∧ isBlank c = false := by
  simp [isAddressChar]

/-- An inner dot has other characters on both sides. -/
theorem hasInnerDot_iff {s : List Char} :
    hasInnerDot s = true ↔ ∃ a b, a ≠ [] ∧ b ≠ [] ∧ s = a ++ '.' :: b := by
  rw [hasInnerDot, List.contains_iff_mem]
  constructor
  · intro h
    obtain ⟨c, t, rfl⟩ : ∃ c t, s = c :: t := by
      refine List.exists_cons_of_ne_nil ?_
      rintro rfl
      simp at h
    rw [List.tail_cons] at h
    have ht : t ≠ [] := by
      rintro rfl
      simp at h
    -- the dot stands before the last character
    obtain ⟨a, b, hab⟩ := List.append_of_mem h
    have hsplit : t = a ++ '.' :: (b ++ [t.getLast ht]) := by
      calc t = t.dropLast ++ [t.getLast ht] := (List.dropLast_append_getLast ht).symm
        _ = a ++ '.' :: (b ++ [t.getLast ht]) := by rw [hab]; simp
    exact ⟨c :: a, b ++ [t.getLast ht], by simp, by simp, congrArg (c :: ·) hsplit⟩
  · rintro ⟨a, b, ha, hb, rfl⟩
    obtain ⟨c, a, rfl⟩ := List.exists_cons_of_ne_nil ha
    rw [List.cons_append, List.tail_cons, List.dropLast_append_of_ne_nil (by simp),
      List.dropLast_cons_of_ne_nil hb]
    simp

theorem isEmail_iff_parts {s : List Char} :
    isEmail s = true ↔ ∃ l d, s = l ++ '@' :: d ∧ l ≠ [] ∧
      (∀ c ∈ l, isAddressChar c = true) ∧ (∀ c ∈ d, isAddressChar c = true) ∧
        hasInnerDot d = true := by
  have hat : isAddressChar '@' = false := by decide
  constructor
  · intro h
    unfold isEmail at h
    split at h
    · rename_i c l d hl hd
      rw [Bool.and_eq_true, List.all_eq_true] at h
      refine ⟨c :: l, d, ?_, by simp, ?_, h.1, h.2⟩
      · rw [← hl, ← hd, List.takeWhile_append_dropWhile]
      · rw [← hl]
        exact fun x => List.mem_takeWhile_imp
    · cases h
  · rintro ⟨l, d, rfl, hne, hl, hd, hdot⟩
    obtain ⟨c, l, rfl⟩ := List.exists_cons_of_ne_nil hne
    have htake : ((c :: l) ++ '@' :: d).takeWhile isAddressChar = c :: l := by
      rw [List.takeWhile_append_of_pos hl]
      simp [hat]
    have hdrop : ((c :: l) ++ '@' :: d).dropWhile isAddressChar = '@' :: d := by
      rw [List.dropWhile_append_of_pos hl]
      simp [hat]
    unfold isEmail
    rw [htake, hdrop]
    simpa [hdot] using hd

/-- An address is a text without blanks, with one `@`, something before it, and a dot between
other characters behind it. -/
theorem isEmail_iff {s : List Char} :
    isEmail s = true ↔ (∀ c ∈ s, isBlank c = false) ∧ s.count '@' = 1 ∧
      ∃ l a b, l ≠ [] ∧ a ≠ [] ∧ b ≠ [] ∧ s = l ++ '@' :: (a ++ '.' :: b) := by
  have hat : isBlank '@' = false := by decide
  -- the characters of a part are no blanks, and none of them is a further `@`
  have hpart : ∀ t : List Char, (∀ c ∈ t, isAddressChar c = true) ↔
      (∀ c ∈ t, isBlank c = false) ∧ t.count '@' = 0 := by
    intro t
    rw [List.count_eq_zero]
    constructor
    · intro h
      exact ⟨fun c hc => (isAddressChar_iff.1 (h c hc)).2,
        fun hc => (isAddressChar_iff.1 (h '@' hc)).1 rfl⟩
    · rintro ⟨hb, hc⟩ c hct
      exact isAddressChar_iff.2 ⟨fun he => hc (he ▸ hct), hb c hct⟩
  rw [isEmail_iff_parts]
  constructor
  · rintro ⟨l, d, rfl, hne, hl, hd, hdot⟩
    obtain ⟨hlb, hlc⟩ := (hpart l).1 hl
    obtain ⟨hdb, hdc⟩ := (hpart d).1 hd
    obtain ⟨a, b, ha, hb, rfl⟩ := hasInnerDot_iff.1 hdot
    refine ⟨?_, ?_, l, a, b, hne, ha, hb, rfl⟩
    · intro c hc
      rcases List.mem_append.1 hc with hc | hc
      · exact hlb c hc
      · rcases List.mem_cons.1 hc with rfl | hc
        · exact hat
        · exact hdb c hc
    · rw [List.count_append, List.count_cons_self, hlc, hdc]
  · rintro ⟨hblank, hcount, l, a, b, hne, ha, hb, rfl⟩
    rw [List.count_append, List.count_cons_self] at hcount
    refine ⟨l, _, rfl, hne, (hpart l).2 ⟨fun c hc => ?_, by omega⟩,
      (hpart _).2 ⟨fun c hc => ?_, by omega⟩, hasInnerDot_iff.2 ⟨a, b, ha, hb, rfl⟩⟩
    · exact hblank c (List.mem_append_left _ hc)
    · exact hblank c (List.mem_append_right _ (List.mem_cons_of_mem _ hc))

/-- A text is an address exactly if its lower case is. -/
theorem isEmail_lowercase (s : List Char) : isEmail (lowercase s) = isEmail s := by
  have hat : caseless.has '@' = true := by decide
  have hdot : caseless.has '.' = true := by decide
  rw [Bool.eq_iff_iff, isEmail_iff, isEmail_iff, forall_not_blank_lowercase, lowercase,
    count_lowercaseFrom hat]
  refine and_congr_right fun _ => and_congr_right fun _ => ?_
  constructor
  · -- the `@` and the dot of the lower case are those of the text
    rintro ⟨l, a, b, hl, ha, hb, h⟩
    obtain ⟨x, y, b₁, rfl, hy, hx⟩ := exists_split_of_lowercaseFrom hat h
    obtain ⟨u, v, b₂, rfl, rfl, hu⟩ := exists_split_of_lowercaseFrom hdot hy.symm
    refine ⟨x, u, v, mt hx.2 hl, mt hu.2 ha, ?_, rfl⟩
    rintro rfl
    simp at hb
  · rintro ⟨l, a, b, hl, ha, hb, rfl⟩
    obtain ⟨p, b', hp, hpa⟩ := exists_lowercaseFrom_append false a ('.' :: b)
    rw [lowercaseFrom_append_cons (by decide), lowercase, hp, lowercaseFrom_cons,
      lowerAt_of_caseless hdot]
    exact ⟨_, p, _, lowercaseFrom_ne_nil hl, mt hpa.1 ha, lowercaseFrom_ne_nil hb, rfl⟩

/-! ### The check of an answer -/

/-- An answer passes the check if what is left of it without its outer blanks is an address. -/
theorem checkEmail_eq_none_iff {answer : String} :
    checkEmail answer = none ↔ isEmail (strip answer.toList) = true := by
  dsimp only [checkEmail]
  cases hs : strip answer.toList with
  | nil => simp [isEmail]
  | cons c r => cases isEmail (c :: r) <;> simp

theorem strip_of_isEmail {s : List Char} (h : isEmail s = true) : strip s = s :=
  strip_of_forall (isEmail_iff.1 h).1

/-- The answer that is kept passes the check that the answer has passed. -/
theorem checkEmail_stripString (answer : String) :
    checkEmail (stripString answer) = none ↔ checkEmail answer = none := by
  simp [checkEmail_eq_none_iff, stripString]

/-! ### Texts that occur in addresses -/

/-- A text without blanks and with at most one `@`. -/
def IsPartOfAddress (v : List Char) : Prop := (∀ c ∈ v, isBlank c = false) ∧ v.count '@' ≤ 1

instance (v : List Char) : Decidable (IsPartOfAddress v) :=
  inferInstanceAs (Decidable ((∀ c ∈ v, isBlank c = false) ∧ v.count '@' ≤ 1))

theorem isPartOfAddress_lowercase {v : List Char} :
    IsPartOfAddress (lowercase v) ↔ IsPartOfAddress v := by
  rw [IsPartOfAddress, IsPartOfAddress, forall_not_blank_lowercase, lowercase,
    count_lowercaseFrom (by decide)]

/-- What occurs in an address has no blanks and at most one `@`. -/
theorem isPartOfAddress_of_infix {v s : List Char} (hs : isEmail s = true) (h : v <:+: s) :
    IsPartOfAddress v := by
  obtain ⟨hblank, hcount, -⟩ := isEmail_iff.1 hs
  exact ⟨fun c hc => hblank c (h.subset hc), hcount ▸ h.sublist.count_le _⟩

/-- Such a text stands between two zeros in some address. -/
theorem IsPartOfAddress.exists_isEmail {v : List Char} (h : IsPartOfAddress v) :
    ∃ t, isEmail ('0' :: (v ++ '0' :: t)) = true := by
  obtain ⟨hblank, hcount⟩ := h
  by_cases hat : '@' ∈ v
  · -- the text brings the `@` with it
    obtain ⟨l, d, rfl⟩ := List.append_of_mem hat
    rw [List.count_append, List.count_cons_self] at hcount
    refine ⟨['.', '0'], isEmail_iff.2 ⟨?_, ?_, '0' :: l, d ++ ['0'], ['0'], by simp, by simp,
      by simp, by simp⟩⟩
    · intro c hc
      simp only [List.mem_cons, List.mem_append, List.not_mem_nil, or_false] at hc
      have hin : c ∈ l ++ '@' :: d → isBlank c = false := hblank c
      simp only [List.mem_append, List.mem_cons] at hin
      rcases hc with rfl | hc | rfl | rfl | rfl
      · decide
      · exact hin hc
      · decide
      · decide
      · decide
    · have hl : l.count '@' = 0 := by omega
      have hd : d.count '@' = 0 := by omega
      simp [List.count_append, hl, hd]
  · refine ⟨['@', '0', '.', '0'], isEmail_iff.2 ⟨?_, ?_, '0' :: (v ++ ['0']), ['0'], ['0'],
      by simp, by simp, by simp, by simp⟩⟩
    · intro c hc
      simp only [List.mem_cons, List.mem_append, List.not_mem_nil, or_false] at hc
      rcases hc with rfl | hc | rfl | rfl | rfl | rfl | rfl
      · decide
      · exact hblank c hc
      all_goals decide
    · have hv : v.count '@' = 0 := List.count_eq_zero.2 hat
      simp [List.count_append, hv]

end Dialogue
