import Dialogue.Proofs.Address
import Dialogue.Proofs.Trimming

/-!
# The grammar of an address

The check of an address is a pattern that is tried from the front, a piece at a time, where the end
may be followed by a line break.

* `Pattern.fits_iff`: trying a pattern finds the texts that it describes, for every pattern;
* `IsAddressForm`: the texts `l@a.b` of three parts;
* `HasAddressMarks`, `isAddressForm_iff_marks`: the same texts, told by their marks;
* `isEmail_iff_form`: the check of a text accepts these texts;
* `fits_emailPattern_strip`: on a stripped text the pattern and the check agree;
* `checkEmail_grammar`: which answers pass, and the code of every other one.
-/

namespace Dialogue

open Text

/-! ### Patterns -/

namespace Pattern

/-- A piece of a pattern: a character, or at least one character of some kind. -/
inductive Piece
  | char (c : Char)
  | many (p : Char → Bool)

/-- Whether a text fits a pattern from its front to its end. A repetition first takes as much as it
can, and the end may stand before a last line break. -/
def fits : List Piece → List Char → Bool
  | [], s => s.isEmpty || s == ['\n']
  | _ :: _, [] => false
  | .char c :: ps, x :: s => x == c && fits ps s
  | .many p :: ps, x :: s => p x && (fits (.many p :: ps) s || fits ps s)

/-- What a pattern describes. -/
def Describes : List Piece → List Char → Prop
  | [], s => s = []
  | .char c :: ps, s => ∃ r, s = c :: r ∧ Describes ps r
  | .many p :: ps, s => ∃ l r, s = l ++ r ∧ l ≠ [] ∧ (∀ x ∈ l, p x = true) ∧ Describes ps r

theorem fits_char_iff {c : Char} {ps : List Piece} {s : List Char} :
    fits (.char c :: ps) s = true ↔ ∃ r, s = c :: r ∧ fits ps r = true := by
  cases s with
  | nil => simp [fits]
  | cons x s => simp [fits]

/-- A repetition fits if the rest of the pattern fits behind some of the characters it may take. -/
theorem fits_many_iff {p : Char → Bool} {ps : List Piece} {s : List Char} :
    fits (.many p :: ps) s = true ↔
      ∃ l r, s = l ++ r ∧ l ≠ [] ∧ (∀ x ∈ l, p x = true) ∧ fits ps r = true := by
  induction s with
  | nil => simp [fits]
  | cons x s ih =>
    rw [fits, Bool.and_eq_true, Bool.or_eq_true, ih]
    constructor
    · rintro ⟨hx, ⟨l, r, rfl, -, hl, hr⟩ | hs⟩
      · exact ⟨x :: l, r, rfl, by simp, List.forall_mem_cons.2 ⟨hx, hl⟩, hr⟩
      · exact ⟨[x], s, rfl, by simp, by simpa using hx, hs⟩
    · rintro ⟨l, r, hs, hne, hl, hr⟩
      obtain ⟨y, l, rfl⟩ := List.exists_cons_of_ne_nil hne
      obtain ⟨rfl, rfl⟩ := List.cons_eq_cons.1 hs
      obtain ⟨hx, hl⟩ := List.forall_mem_cons.1 hl
      refine ⟨hx, ?_⟩
      -- either this was the last character that the repetition takes, or it goes on
      by_cases h : l = []
      · exact .inr (by simpa [h] using hr)
      · exact .inl ⟨l, r, rfl, h, hl, hr⟩

/-- **Trying a pattern is sound and complete**: a text fits exactly if the pattern describes it, or
describes all of it but a last line break. -/
theorem fits_iff {ps : List Piece} {s : List Char} :
    fits ps s = true ↔ ∃ t e, s = t ++ e ∧ Describes ps t ∧ (e = [] ∨ e = ['\n']) := by
  induction ps generalizing s with
  | nil => simp [fits, Describes]
  | cons piece ps ih =>
    cases piece with
    | char c =>
      rw [fits_char_iff]
      constructor
      · rintro ⟨r, rfl, hr⟩
        obtain ⟨t, e, rfl, ht, he⟩ := ih.1 hr
        exact ⟨c :: t, e, rfl, ⟨t, rfl, ht⟩, he⟩
      · rintro ⟨_, e, rfl, ⟨t, rfl, ht⟩, he⟩
        exact ⟨t ++ e, rfl, ih.2 ⟨t, e, rfl, ht, he⟩⟩
    | many p =>
      rw [fits_many_iff]
      constructor
      · rintro ⟨l, r, rfl, hne, hl, hr⟩
        obtain ⟨t, e, rfl, ht, he⟩ := ih.1 hr
        exact ⟨l ++ t, e, (List.append_assoc l t e).symm, ⟨l, t, rfl, hne, hl, ht⟩, he⟩
      · rintro ⟨_, e, rfl, ⟨l, t, rfl, hne, hl, ht⟩, he⟩
        exact ⟨l, t ++ e, List.append_assoc l t e, hne, hl, ih.2 ⟨t, e, rfl, ht, he⟩⟩

end Pattern

/-! ### The form of an address -/

/-- A part of an address: not empty, without blanks and without `@`. -/
def IsAddressPart (s : List Char) : Prop := s ≠ [] ∧ ∀ c ∈ s, isBlank c = false ∧ c ≠ '@'

/-- A text `l@a.b` of three parts. The last two may hold dots. -/
def IsAddressForm (s : List Char) : Prop :=
  ∃ l a b, IsAddressPart l ∧ IsAddressPart a ∧ IsAddressPart b ∧ s = l ++ '@' :: (a ++ '.' :: b)

theorem isAddressPart_iff {s : List Char} :
    IsAddressPart s ↔ s ≠ [] ∧ ∀ c ∈ s, isAddressChar c = true := by
  simp only [IsAddressPart, isAddressChar_iff, and_comm]

theorem isEmail_iff_form {s : List Char} : isEmail s = true ↔ IsAddressForm s := by
  have hdot : isAddressChar '.' = true := by decide
  simp only [isEmail_iff_parts, IsAddressForm, isAddressPart_iff, hasInnerDot_iff]
  constructor
  · rintro ⟨l, _, rfl, hne, hl, hd, a, b, ha, hb, rfl⟩
    obtain ⟨hda, hdb⟩ := List.forall_mem_append.1 hd
    exact ⟨l, a, b, ⟨hne, hl⟩, ⟨ha, hda⟩, ⟨hb, (List.forall_mem_cons.1 hdb).2⟩, rfl⟩
  · rintro ⟨l, a, b, ⟨hne, hl⟩, ⟨ha, hda⟩, ⟨hb, hdb⟩, rfl⟩
    exact ⟨l, _, rfl, hne, hl, List.forall_mem_append.2 ⟨hda, List.forall_mem_cons.2 ⟨hdot, hdb⟩⟩,
      a, b, ha, hb, rfl⟩

/-- A character between others is one that is neither the first nor the last. -/
theorem exists_inner_iff {c : Char} {s : List Char} :
    (∃ a b, a ≠ [] ∧ b ≠ [] ∧ s = a ++ c :: b) ↔
      ∃ i, 0 < i ∧ i + 1 < s.length ∧ s[i]? = some c := by
  constructor
  · rintro ⟨a, b, ha, hb, rfl⟩
    have hla : 0 < a.length := List.length_pos_of_ne_nil ha
    have hlb : 0 < b.length := List.length_pos_of_ne_nil hb
    refine ⟨a.length, hla, ?_, by simp⟩
    rw [List.length_append, List.length_cons]
    omega
  · rintro ⟨i, hpos, hlen, hi⟩
    obtain ⟨hlt, rfl⟩ := List.getElem?_eq_some_iff.1 hi
    have ha : (s.take i).length = i := List.length_take_of_le hlt.le
    have hb : (s.drop (i + 1)).length = s.length - (i + 1) := List.length_drop
    refine ⟨s.take i, s.drop (i + 1), List.ne_nil_of_length_pos (by omega),
      List.ne_nil_of_length_pos (by omega), ?_⟩
    rw [List.getElem_cons_drop, List.take_append_drop]

/-- The marks of an address: there is no blank, and one `@` with something before it and a dot inside
what follows it. -/
structure HasAddressMarks (s : List Char) : Prop where
  unblank : ∀ c ∈ s, isBlank c = false
  single : s.count '@' = 1
  dotted : ∃ l d, s = l ++ '@' :: d ∧ l ≠ [] ∧ ∃ i, 0 < i ∧ i + 1 < d.length ∧ d[i]? = some '.'

theorem isAddressForm_iff_marks {s : List Char} : IsAddressForm s ↔ HasAddressMarks s := by
  rw [← isEmail_iff_form, isEmail_iff]
  constructor
  · rintro ⟨hblank, hat, l, a, b, hl, ha, hb, rfl⟩
    exact ⟨hblank, hat, l, _, rfl, hl, exists_inner_iff.1 ⟨a, b, ha, hb, rfl⟩⟩
  · rintro ⟨hblank, hat, l, d, rfl, hl, hd⟩
    obtain ⟨a, b, ha, hb, rfl⟩ := exists_inner_iff.2 hd
    exact ⟨hblank, hat, l, a, b, hl, ha, hb, rfl⟩

/-! ### The pattern of an address -/

/-- The pattern `^[^\s@]+@[^\s@]+\.[^\s@]+$`. -/
def emailPattern : List Pattern.Piece :=
  [.many isAddressChar, .char '@', .many isAddressChar, .char '.', .many isAddressChar]

theorem describes_emailPattern {s : List Char} :
    Pattern.Describes emailPattern s ↔ IsAddressForm s := by
  simp only [emailPattern, Pattern.Describes, IsAddressForm, isAddressPart_iff]
  constructor
  · rintro ⟨l, _, rfl, hne, hl, _, rfl, a, _, rfl, ha, hda, _, rfl, b, _, rfl, hb, hdb, rfl⟩
    exact ⟨l, a, b, ⟨hne, hl⟩, ⟨ha, hda⟩, ⟨hb, hdb⟩, by rw [List.append_nil]⟩
  · rintro ⟨l, a, b, ⟨hne, hl⟩, ⟨ha, hda⟩, ⟨hb, hdb⟩, rfl⟩
    exact ⟨l, _, rfl, hne, hl, _, rfl, a, _, rfl, ha, hda, _, rfl, b, [],
      (List.append_nil b).symm, hb, hdb, rfl⟩

/-- On a stripped text the pattern and the check of an address agree: a stripped text has no line
break at its end that the pattern could pass over. -/
theorem fits_emailPattern_strip (s : List Char) :
    Pattern.fits emailPattern (strip s) = isEmail (strip s) := by
  rw [Bool.eq_iff_iff, Pattern.fits_iff, isEmail_iff_form]
  constructor
  · rintro ⟨t, e, hs, ht, rfl | rfl⟩
    · rw [hs, List.append_nil]
      exact describes_emailPattern.1 ht
    · have hlast := getLast?_strip s
      rw [hs, List.getLast?_concat] at hlast
      exact absurd (hlast '\n' rfl) (by decide)
  · intro h
    exact ⟨strip s, [], (List.append_nil _).symm, describes_emailPattern.2 h, .inl rfl⟩

/-- The pattern does pass over such a line break. -/
example : Pattern.fits emailPattern "a@b.c\n".toList = true ∧ isEmail "a@b.c\n".toList = false := by
  decide

/-! ### The codes of the check -/

/-- The code of an answer is read off what is left of it without its outer blanks. -/
theorem code_checkEmail (answer : String) :
    (checkEmail answer).map EmailFault.code =
      if strip answer.toList = [] then some "EMPTY_EMAIL"
      else if isEmail (strip answer.toList) = true then none else some "INVALID_EMAIL" := by
  dsimp only [checkEmail]
  cases strip answer.toList with
  | nil => rfl
  | cons c r => cases isEmail (c :: r) <;> rfl

/-- **The check of an address accepts its grammar.** An answer passes exactly if what is left of it
without its outer blanks is a text `l@a.b`, which is a text with the marks of an address and one that
the pattern fits. Every other answer has a code: one if nothing is left of it, and else another. -/
theorem checkEmail_grammar (answer : String) :
    (checkEmail answer = none ↔ IsAddressForm (strip answer.toList)) ∧
    ((checkEmail answer).map EmailFault.code = some "EMPTY_EMAIL" ↔ strip answer.toList = []) ∧
    ((checkEmail answer).map EmailFault.code = some "INVALID_EMAIL" ↔
      strip answer.toList ≠ [] ∧ ¬IsAddressForm (strip answer.toList)) ∧
    (checkEmail answer = none ↔ HasAddressMarks (strip answer.toList)) ∧
    (checkEmail answer = none ↔ Pattern.fits emailPattern (strip answer.toList) = true) := by
  have hform : checkEmail answer = none ↔ IsAddressForm (strip answer.toList) :=
    checkEmail_eq_none_iff.trans isEmail_iff_form
  refine ⟨hform, ?_, ?_, hform.trans isAddressForm_iff_marks, ?_⟩
  · rw [code_checkEmail]
    split_ifs with hempty <;> simp [hempty]
  · rw [code_checkEmail, ← isEmail_iff_form]
    split_ifs with hempty hmail
    · simp [hempty]
    · simp [hmail]
    · simp [hempty, hmail]
  · rw [checkEmail_eq_none_iff, fits_emailPattern_strip]

end Dialogue
