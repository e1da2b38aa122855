import Dialogue.Answer.Branch
import Dialogue.Proofs.Lowering

/-!
# Answers in normal form

An answer is stripped and put in lower case. What that leaves is stripped and in lower case, so that
it stays as it is when the same is done again: no letter moves to one that moves on, and as no
capital sigma is left, no character depends on those beside it any more.

* `Shift.misses`, `letters_missed`: the runs of letters, and that none moves to a letter of another;
* `IsLower`, `isLower_of_mem_lowerAt`: the characters that are their own lower case, of which every
  lower case consists;
* `lowercase_eq_self_iff`, `lowercase_lowercase`: the texts of such characters are those that are
  their own lower case;
* `normalizeText_eq_self_iff`, `normalizeText_normalizeText`: the texts in normal form;
* `normalize_takes_same`: the normal form of an answer is its own normal form, and takes the route
  that the answer takes.
-/

namespace Dialogue

namespace Text

/-! ### Runs of letters -/

/-- Whether no letter of the run `s` moves to one of the run `t`: the letters of `s` move out of the
bounds of `t`, or to the numbers that `t` leaves out between its letters. -/
def Shift.misses (s t : Shift) : Bool :=
  (s.last + s.offset).toNat.blt t.first || t.last.blt (s.first + s.offset).toNat ||
    (t.step == 2 && (s.step == 2 || s.first == s.last) &&
      (s.first + s.offset - t.first : Int) % 2 == 1)

theorem Shift.holds_iff {s : Shift} {n : Nat} :
    s.holds n = true ↔ s.first ≤ n ∧ n ≤ s.last ∧ (n - s.first) % s.step = 0 := by
  simp [Shift.holds, and_assoc]

/-- A letter moves to no letter of a run that its own run misses. -/
theorem Shift.not_holds_of_misses {s t : Shift} (h : s.misses t = true) (hpos : 0 < t.first)
    {n : Nat} (hn : s.holds n = true) : t.holds (n + s.offset).toNat = false := by
  simp only [Shift.misses, Bool.or_eq_true, Bool.and_eq_true, Nat.blt_eq, beq_iff_eq] at h
  obtain ⟨hfirst, hlast, hstep⟩ := Shift.holds_iff.1 hn
  rw [← Bool.not_eq_true, Shift.holds_iff]
  rintro ⟨hfirst', hlast', hstep'⟩
  rcases h with (hbelow | habove) | ⟨⟨ht, hs | hs⟩, hodd⟩
  · omega
  · omega
  · -- both runs hold every second number, and `t` those between the ones that `s` moves to
    rw [hs] at hstep
    rw [ht] at hstep'
    omega
  · rw [ht] at hstep'
    omega

/-- The letters that have a lower case: those of the table, and `İ`. -/
def letters : List Shift := ⟨0x130, 0x130, 1, -199⟩ :: lowerShifts

/-- No letter of the table moves to a letter that has a lower case. -/
theorem letters_missed : ∀ s ∈ lowerShifts, ∀ t ∈ letters, s.misses t = true := by
  have h : (lowerShifts.all fun s => letters.all s.misses) = true := by decide +kernel
  intro s hs
  exact List.all_eq_true.1 (List.all_eq_true.1 h s hs)

theorem letters_pos : ∀ t ∈ letters, 0 < t.first := by
  decide +kernel

/-! ### Characters in lower case -/

/-- A character that is its own lower case. -/
def IsLower (c : Char) : Prop := lowerChar c = [c]

instance (c : Char) : Decidable (IsLower c) := inferInstanceAs (Decidable (_ = _))

/-- A character that is no letter with a lower case is its own. -/
theorem isLower_of_not_holds {c : Char} (h : ∀ t ∈ letters, t.holds c.toNat = false) :
    IsLower c := by
  have hdot : c ≠ 'İ' := by
    rintro rfl
    exact absurd (h _ List.mem_cons_self) (by decide)
  have hnone : lowerShifts.find? (·.holds c.toNat) = none := by
    rw [List.find?_eq_none]
    intro s hs
    rw [h s (List.mem_cons_of_mem _ hs)]
    exact Bool.false_ne_true
  rw [IsLower, lowerChar, if_neg hdot, shiftBy, hnone]

/-- Where a letter moves to, it stays. -/
theorem isLower_shiftBy {c : Char} (hdot : c ≠ 'İ') : IsLower (shiftBy lowerShifts c) := by
  refine isLower_of_not_holds fun t ht => ?_
  unfold shiftBy
  cases hf : lowerShifts.find? (·.holds c.toNat) with
  | none =>
    rcases List.mem_cons.1 ht with rfl | ht
    · -- the run of `İ` holds no other character
      rw [← Bool.not_eq_true, Shift.holds_iff]
      rintro ⟨hfirst, hlast, -⟩
      exact hdot (Char.toNat_inj.1 (Nat.le_antisymm hlast hfirst))
    · simpa using List.find?_eq_none.1 hf t ht
  | some s =>
    have hs : s ∈ lowerShifts := List.mem_of_find?_eq_some hf
    have hholds : s.holds c.toNat = true := by simpa using List.find?_some hf
    have hpos := letters_pos t ht
    rcases toNat_ofNat_cases (c.toNat + s.offset).toNat with hn | hn
    · rw [hn]
      exact Shift.not_holds_of_misses (letters_missed s hs t ht) hpos hholds
    · rw [hn, ← Bool.not_eq_true, Shift.holds_iff]
      omega

/-- The lower case of a character consists of characters that are their own lower case. -/
theorem isLower_of_mem_lowerAt {x c : Char} {b : Bool} {r : List Char} (h : x ∈ lowerAt b c r) :
    IsLower x := by
  unfold lowerAt lowerChar at h
  split_ifs at h with hsigma hfinal hdot
  · obtain rfl := List.mem_singleton.1 h
    decide +kernel
  · obtain rfl := List.mem_singleton.1 h
    decide +kernel
  · rcases List.mem_cons.1 h with rfl | h
    · decide +kernel
    · obtain rfl := List.mem_singleton.1 h
      decide +kernel
  · obtain rfl := List.mem_singleton.1 h
    exact isLower_shiftBy hdot

/-- A character that is its own lower case is so in every place. -/
theorem IsLower.lowerAt_eq {c : Char} (h : IsLower c) (b : Bool) (r : List Char) :
    lowerAt b c r = [c] := by
  have hsigma : c ≠ 'Σ' := by
    rintro rfl
    exact absurd h (by decide +kernel)
  rw [lowerAt, if_neg hsigma, h]

/-! ### Texts in lower case -/

variable {s : List Char}

theorem isLower_of_mem_lowercaseFrom {x : Char} {b : Bool} (h : x ∈ lowercaseFrom b s) :
    IsLower x := by
  induction s generalizing b with
  | nil => cases h
  | cons c r ih =>
    rw [lowercaseFrom_cons] at h
    rcases List.mem_append.1 h with h | h
    · exact isLower_of_mem_lowerAt h
    · exact ih h

theorem lowercaseFrom_of_isLower (h : ∀ c ∈ s, IsLower c) (b : Bool) : lowercaseFrom b s = s := by
  induction s generalizing b with
  | nil => rfl
  | cons c r ih =>
    obtain ⟨hc, hr⟩ := List.forall_mem_cons.1 h
    rw [lowercaseFrom_cons, hc.lowerAt_eq, ih hr, List.singleton_append]

/-- The texts that are their own lower case are those of characters that are. -/
theorem lowercase_eq_self_iff : lowercase s = s ↔ ∀ c ∈ s, IsLower c := by
  constructor
  · intro h c hc
    rw [← h] at hc
    exact isLower_of_mem_lowercaseFrom hc
  · intro h
    exact lowercaseFrom_of_isLower h false

@[simp] theorem lowercase_lowercase (s : List Char) : lowercase (lowercase s) = lowercase s :=
  lowercase_eq_self_iff.2 fun _ => isLower_of_mem_lowercaseFrom

end Text

open Text

/-! ### Answers -/

variable {s : List Char}

theorem strip_normalizeText (s : List Char) : strip (normalizeText s) = normalizeText s := by
  rw [normalizeText, strip_lowercase, strip_strip]

/-- The texts in normal form are stripped, and their characters are their own lower case. -/
theorem normalizeText_eq_self_iff :
    normalizeText s = s ↔ strip s = s ∧ ∀ c ∈ s, IsLower c := by
  rw [← lowercase_eq_self_iff]
  constructor
  · intro h
    have hstrip : strip s = s := by
      rw [← h]
      exact strip_normalizeText s
    rw [normalizeText, hstrip] at h
    exact ⟨hstrip, h⟩
  · rintro ⟨hstrip, hlower⟩
    rw [normalizeText, hstrip, hlower]

/-- The normal form of a text is its own normal form. -/
@[simp] theorem normalizeText_normalizeText (s : List Char) :
    normalizeText (normalizeText s) = normalizeText s := by
  rw [normalizeText, strip_normalizeText, normalizeText, lowercase_lowercase]

@[simp] theorem toList_normalize (answer : String) :
    (normalize answer).toList = normalizeText answer.toList :=
  String.toList_ofList

theorem normalize_eq_self_iff {answer : String} :
    normalize answer = answer ↔
      strip answer.toList = answer.toList ∧ ∀ c ∈ answer.toList, IsLower c := by
  rw [← normalizeText_eq_self_iff, ← String.toList_inj, toList_normalize]

/-- No route tells an answer from its normal form. -/
theorem Route.fires_normalize (r : Route) (answer : String) :
    r.fires (normalize answer) = r.fires answer := by
  rw [fires, fires, toList_normalize, normalizeText_normalizeText]

/-- **The normal form of an answer.** It is its own normal form, and takes the route that the answer
takes, or none as well. The answers in normal form are those without outer blanks whose characters
are their own lower case. -/
theorem normalize_takes_same (answer : String) :
    normalize (normalize answer) = normalize answer ∧
    (normalize answer = answer ↔
      strip answer.toList = answer.toList ∧ ∀ c ∈ answer.toList, IsLower c) ∧
    ∀ routes : List Route,
      firstIndex? routes (normalize answer) = firstIndex? routes answer ∧
      firstRoute? routes (normalize answer) = firstRoute? routes answer := by
  refine ⟨?_, normalize_eq_self_iff, fun routes => ⟨?_, ?_⟩⟩
  · rw [← String.toList_inj, toList_normalize, toList_normalize, normalizeText_normalizeText]
  · simp only [firstIndex?, Route.fires_normalize]
  · simp only [firstRoute?, Route.fires_normalize]

/-- Outer blanks go, `İ` becomes two characters, and either sigma ends a word, the first one with a
mark behind it. -/
example : normalize " ΟΔΟΣ' İΣ\n" = "οδος' i̇ς" ∧ normalize "οδος' i̇ς" = "οδος' i̇ς" := by
  decide +kernel

end Dialogue
