import Dialogue.Proofs.Trimming
import Dialogue.Text.Lowercase
import Mathlib.Tactic.ByContra

/-!
# What lower case leaves alone

Blanks and the marks of addresses have no case: no letter turns into one of them, and they stay
as they are. Blanks and the `@` also part a text, so that the lower case of what stands behind
them does not depend on what stands before them.

* `caseless`, `parting`: these characters;
* `mem_lowercaseFrom`: the lower case of a text has those of them that the text has;
* `lowercaseFrom_append_cons`: at a parting character the lower case of a text falls apart;
* `exists_lowercaseFrom_append`, `exists_split_of_lowercaseFrom`: a text and its lower case are
  parted by the same characters;
* `strip_lowercase`: it does not matter whether a text is stripped before or after.
-/

namespace Dialogue.Text

/-! ### Characters -/

/-- Blanks, the dot, the zero and the `@`. -/
def caseless : Ranges := blankRanges ++ [(0x2E, 0x2E), (0x30, 0x30), (0x40, 0x40)]

/-- Blanks, the zero and the `@`. -/
def parting : Ranges := blankRanges ++ [(0x30, 0x30), (0x40, 0x40)]

theorem Ranges.has_eq_true {rs : Ranges} {c : Char} :
    rs.has c = true ↔ ∃ r ∈ rs, r.1 ≤ c.toNat ∧ c.toNat ≤ r.2 := by
  simp [Ranges.has]

theorem caseless_of_parting {c : Char} (h : parting.has c = true) : caseless.has c = true := by
  obtain ⟨r, hr, hc⟩ := Ranges.has_eq_true.1 h
  have hsub : ∀ r ∈ parting, r ∈ caseless := by decide
  exact Ranges.has_eq_true.2 ⟨r, hsub r hr, hc⟩

theorem parting_of_isBlank {c : Char} (h : isBlank c = true) : parting.has c = true := by
  obtain ⟨r, hr, hc⟩ := Ranges.has_eq_true.1 h
  exact Ranges.has_eq_true.2 ⟨r, List.mem_append_left _ hr, hc⟩

theorem caseless_of_isBlank {c : Char} (h : isBlank c = true) : caseless.has c = true :=
  caseless_of_parting (parting_of_isBlank h)

/-- No run of letters holds a caseless character, and none moves to one. -/
theorem lowerShifts_apart : ∀ s ∈ lowerShifts, ∀ r ∈ caseless,
    (s.last < r.1 ∨ r.2 < s.first) ∧
      ((s.last : Int) + s.offset < r.1 ∨ (r.2 : Int) < s.first + s.offset) := by
  decide +kernel

theorem holds_of_find? {table : List Shift} {n : Nat} {s : Shift}
    (h : table.find? (·.holds n) = some s) : s ∈ table ∧ s.first ≤ n ∧ n ≤ s.last := by
  have hs : s.holds n = true := by simpa using List.find?_some h
  simp only [Shift.holds, Bool.and_eq_true, decide_eq_true_eq] at hs
  exact ⟨List.mem_of_find?_eq_some h, hs.1.1, hs.1.2⟩

theorem shiftBy_of_caseless {c : Char} (h : caseless.has c = true) :
    shiftBy lowerShifts c = c := by
  obtain ⟨r, hr, hc⟩ := Ranges.has_eq_true.1 h
  unfold shiftBy
  cases hf : lowerShifts.find? (·.holds c.toNat) with
  | none => rfl
  | some s =>
    obtain ⟨hs, hfirst, hlast⟩ := holds_of_find? hf
    have := (lowerShifts_apart s hs r hr).1
    omega

/-- A number that is no character gives the character zero. -/
theorem toNat_ofNat_cases (n : Nat) : (Char.ofNat n).toNat = n ∨ (Char.ofNat n).toNat = 0 := by
  by_cases h : n.isValidChar
  · have hn : Char.ofNat n = Char.ofNatAux n h := dif_pos h
    exact .inl (congrArg Char.toNat hn)
  · have hn : Char.ofNat n = Char.ofNat 0 := dif_neg h
    exact .inr (congrArg Char.toNat hn)

theorem shiftBy_eq_of_caseless {c : Char} (h : caseless.has (shiftBy lowerShifts c) = true) :
    shiftBy lowerShifts c = c := by
  unfold shiftBy at h ⊢
  cases hf : lowerShifts.find? (·.holds c.toNat) with
  | none => rfl
  | some s =>
    obtain ⟨hs, hfirst, hlast⟩ := holds_of_find? hf
    rw [hf] at h
    obtain ⟨r, hr, hc⟩ := Ranges.has_eq_true.1 h
    dsimp only at hc
    have hapart := (lowerShifts_apart s hs r hr).2
    have hpos : ∀ r ∈ caseless, 0 < r.1 := by decide
    have := hpos r hr
    rcases toNat_ofNat_cases (c.toNat + s.offset).toNat with hn | hn <;> omega

/-- The lower case of a character in its place in a text. -/
def lowerAt (behind : Bool) (c : Char) (r : List Char) : List Char :=
  if c = 'Σ' then (if behind && !letterAhead r then ['ς'] else ['σ']) else lowerChar c

@[simp] theorem lowercaseFrom_cons (b : Bool) (c : Char) (r : List Char) :
    lowercaseFrom b (c :: r) = lowerAt b c r ++ lowercaseFrom (letterBehind b c) r := rfl

theorem lowerAt_ne_nil (b : Bool) (c : Char) (r : List Char) : lowerAt b c r ≠ [] := by
  unfold lowerAt lowerChar
  split_ifs <;> simp

/-- A caseless character is its own lower case. -/
theorem lowerAt_of_caseless {c : Char} (h : caseless.has c = true) (b : Bool) (r : List Char) :
    lowerAt b c r = [c] := by
  have hsigma : c ≠ 'Σ' := by
    rintro rfl
    exact absurd h (by decide)
  have hdot : c ≠ 'İ' := by
    rintro rfl
    exact absurd h (by decide)
  rw [lowerAt, if_neg hsigma, lowerChar, if_neg hdot, shiftBy_of_caseless h]

/-- A caseless character is the lower case of no other. -/
theorem eq_of_mem_lowerAt {x c : Char} {b : Bool} {r : List Char} (hx : caseless.has x = true)
    (h : x ∈ lowerAt b c r) : c = x := by
  -- the lower case of the letters outside of the table has no caseless character
  have hno : ∀ y, caseless.has y = false → x ≠ y := by
    rintro y hy rfl
    rw [hx] at hy
    cases hy
  unfold lowerAt lowerChar at h
  split_ifs at h with h₁ h₂ h₃
  · exact absurd (List.mem_singleton.1 h) (hno _ (by decide))
  · exact absurd (List.mem_singleton.1 h) (hno _ (by decide))
  · rcases List.mem_cons.1 h with h | h
    · exact absurd h (hno _ (by decide))
    · exact absurd (List.mem_singleton.1 h) (hno _ (by decide))
  · obtain rfl := List.mem_singleton.1 h
    exact (shiftBy_eq_of_caseless hx).symm

/-! ### Texts -/

theorem lowercaseFrom_ne_nil {b : Bool} {s : List Char} (h : s ≠ []) : lowercaseFrom b s ≠ [] := by
  cases s with
  | nil => exact absurd rfl h
  | cons c r => simp [lowerAt_ne_nil]

/-- The lower case of a text has the caseless characters of the text. -/
theorem mem_lowercaseFrom {x : Char} (hx : caseless.has x = true) {b : Bool} {s : List Char} :
    x ∈ lowercaseFrom b s ↔ x ∈ s := by
  induction s generalizing b with
  | nil => simp
  | cons c r ih =>
    rw [lowercaseFrom_cons, List.mem_append, ih, List.mem_cons]
    refine or_congr_left ⟨fun h => (eq_of_mem_lowerAt hx h).symm, ?_⟩
    rintro rfl
    simp [lowerAt_of_caseless hx]

/-- It has each of them as often as the text. -/
theorem count_lowercaseFrom {x : Char} (hx : caseless.has x = true) (b : Bool) (s : List Char) :
    (lowercaseFrom b s).count x = s.count x := by
  induction s generalizing b with
  | nil => rfl
  | cons c r ih =>
    rw [lowercaseFrom_cons, List.count_append, ih, List.count_cons, Nat.add_comm]
    congr 1
    by_cases hc : c = x
    · subst hc
      simp [lowerAt_of_caseless hx]
    · have hmem : x ∉ lowerAt b c r := fun h => hc (eq_of_mem_lowerAt hx h)
      simp [List.count_eq_zero.2 hmem, hc]

/-- The lower case of a text has blanks exactly if the text has. -/
theorem forall_not_blank_lowercase {s : List Char} :
    (∀ c ∈ lowercase s, isBlank c = false) ↔ ∀ c ∈ s, isBlank c = false := by
  simp only [← Bool.not_eq_true]
  constructor
  · exact fun h c hc hb => h c ((mem_lowercaseFrom (caseless_of_isBlank hb)).2 hc) hb
  · exact fun h c hc hb => h c ((mem_lowercaseFrom (caseless_of_isBlank hb)).1 hc) hb

theorem blank_lowercaseFrom {b : Bool} {s : List Char} (h : Blank s) : lowercaseFrom b s = s := by
  induction s generalizing b with
  | nil => rfl
  | cons c r ih =>
    obtain ⟨hc, hr⟩ := blank_cons.1 h
    rw [lowercaseFrom_cons, lowerAt_of_caseless (caseless_of_isBlank hc), ih hr]
    rfl

/-! ### Parts of a text -/

/-- The lower case of the end of a text is the end of its lower case. -/
theorem exists_lowercaseFrom_append (b : Bool) (s t : List Char) :
    ∃ p b', lowercaseFrom b (s ++ t) = p ++ lowercaseFrom b' t ∧ (p = [] ↔ s = []) := by
  induction s generalizing b with
  | nil => exact ⟨[], b, rfl, by simp⟩
  | cons c r ih =>
    obtain ⟨p, b', hp, -⟩ := ih (letterBehind b c)
    refine ⟨lowerAt b c (r ++ t) ++ p, b', ?_, by simp [lowerAt_ne_nil]⟩
    rw [List.cons_append, lowercaseFrom_cons, hp, List.append_assoc]

/-- A text is parted by the caseless characters that part its lower case. -/
theorem exists_split_of_lowercaseFrom {k : Char} (hk : caseless.has k = true) {b : Bool}
    {s p q : List Char} (h : lowercaseFrom b s = p ++ k :: q) :
    ∃ x y b', s = x ++ k :: y ∧ q = lowercaseFrom b' y ∧ (p = [] ↔ x = []) := by
  induction s generalizing b p with
  | nil => simp at h
  | cons c r ih =>
    rw [lowercaseFrom_cons] at h
    rcases List.append_eq_append_iff.1 h with ⟨p', rfl, hr⟩ | ⟨q', hc, hq⟩
    · -- the split lies behind the first character
      obtain ⟨x, y, b', rfl, hy, -⟩ := ih hr
      exact ⟨c :: x, y, b', rfl, hy, by simp [lowerAt_ne_nil]⟩
    · cases q' with
      | nil =>
        obtain ⟨x, y, b', rfl, hy, -⟩ := ih (p := []) hq.symm
        rw [List.append_nil] at hc
        exact ⟨c :: x, y, b', rfl, hy, by simp [← hc, lowerAt_ne_nil]⟩
      | cons k' q' =>
        -- the split lies in the lower case of the first character, which is caseless then
        obtain ⟨rfl, rfl⟩ := List.cons.inj hq
        obtain rfl := eq_of_mem_lowerAt hk (by rw [hc]; simp)
        rw [lowerAt_of_caseless hk, List.singleton_eq_append_iff] at hc
        rcases hc with ⟨rfl, hq'⟩ | ⟨-, hq'⟩
        · obtain rfl : q' = [] := (List.cons.inj hq').2
          exact ⟨[], r, _, rfl, rfl, by simp⟩
        · cases hq'

/-! ### Characters that part a text -/

/-- The parting characters are neither letters nor passed over. -/
theorem parting_apart : ∀ r ∈ parting, ∀ q ∈ letterRanges ++ markRanges,
    r.2 < q.1 ∨ q.2 < r.1 := by
  decide +kernel

theorem standing_of_parting {c : Char} (h : parting.has c = true) : standing c = .other := by
  obtain ⟨r, hr, hc⟩ := Ranges.has_eq_true.1 h
  have hnot : ∀ rs : Ranges, (∀ q ∈ rs, q ∈ letterRanges ++ markRanges) → rs.has c = false := by
    intro rs hrs
    rw [← Bool.not_eq_true, Ranges.has_eq_true]
    rintro ⟨q, hq, hcq⟩
    have := parting_apart r hr q (hrs q hq)
    omega
  rw [standing, hnot letterRanges fun q => List.mem_append_left _,
    hnot markRanges fun q => List.mem_append_right _]
  rfl

theorem letterAhead_append_cons {c : Char} (h : parting.has c = true) (s t : List Char) :
    letterAhead (s ++ c :: t) = letterAhead s := by
  induction s with
  | nil => simp [letterAhead, standing_of_parting h]
  | cons d r ih =>
    rw [List.cons_append, letterAhead, letterAhead, ih]

/-- At a parting character the lower case of a text falls apart. -/
theorem lowercaseFrom_append_cons {c : Char} (h : parting.has c = true) (b : Bool)
    (s t : List Char) :
    lowercaseFrom b (s ++ c :: t) = lowercaseFrom b s ++ c :: lowercase t := by
  induction s generalizing b with
  | nil =>
    rw [List.nil_append, lowercaseFrom_cons, lowerAt_of_caseless (caseless_of_parting h),
      letterBehind, standing_of_parting h]
    rfl
  | cons d r ih =>
    have hd : lowerAt b d (r ++ c :: t) = lowerAt b d r := by
      rw [lowerAt, lowerAt, letterAhead_append_cons h]
    rw [List.cons_append, lowercaseFrom_cons, lowercaseFrom_cons, hd, ih, List.append_assoc]

theorem lowercase_append_cons {c : Char} (h : parting.has c = true) (s t : List Char) :
    lowercase (s ++ c :: t) = lowercase s ++ c :: lowercase t :=
  lowercaseFrom_append_cons h false s t

/-- Between two parting characters the lower case of a text is what it is by itself. -/
theorem lowercase_between {c d : Char} (hc : parting.has c = true) (hd : parting.has d = true)
    (s t : List Char) :
    lowercase (c :: (s ++ d :: t)) = c :: (lowercase s ++ d :: lowercase t) := by
  have h := lowercase_append_cons hc [] (s ++ d :: t)
  rwa [lowercase_append_cons hd] at h

/-- Blanks around a text stay as they are, and the text does not depend on them. -/
theorem lowercase_append_blank {l r : List Char} (hl : Blank l) (hr : Blank r) (s : List Char) :
    lowercase (l ++ s ++ r) = l ++ lowercase s ++ r := by
  have hback : lowercase (s ++ r) = lowercase s ++ r := by
    cases r with
    | nil => simp
    | cons c r =>
      obtain ⟨hc, hr⟩ := blank_cons.1 hr
      rw [lowercase_append_cons (parting_of_isBlank hc), lowercase, lowercase,
        blank_lowercaseFrom hr]
  rw [List.append_assoc, List.append_assoc, ← hback]
  -- a blank at the front parts itself from the text behind it
  induction l with
  | nil => rfl
  | cons c l ih =>
    obtain ⟨hc, hl⟩ := blank_cons.1 hl
    have hcons := lowercase_append_cons (parting_of_isBlank hc) [] (l ++ (s ++ r))
    rw [List.nil_append, ih hl] at hcons
    exact hcons

/-! ### Stripped texts -/

theorem strip_lowercase_of_strip {s : List Char} (h : strip s = s) :
    strip (lowercase s) = lowercase s := by
  obtain ⟨hhead, hlast⟩ := strip_eq_self_iff.1 h
  refine strip_eq_self_iff.2 ⟨?_, ?_⟩
  · intro x hx
    by_contra hb
    rw [Bool.not_eq_false] at hb
    cases s with
    | nil => simp [lowercase] at hx
    | cons c r =>
      -- the first character comes from the first one of the text
      have hm : x ∈ lowerAt false c r := by
        obtain ⟨d, t, ht⟩ := List.exists_cons_of_ne_nil (lowerAt_ne_nil false c r)
        rw [lowercase, lowercaseFrom_cons, ht] at hx
        rw [ht]
        simp_all
      obtain rfl := eq_of_mem_lowerAt (caseless_of_isBlank hb) hm
      exact absurd hb (by simp [hhead c rfl])
  · intro x hx
    by_contra hb
    rw [Bool.not_eq_false] at hb
    rcases List.eq_nil_or_concat s with rfl | ⟨r, c, rfl⟩
    · simp [lowercase] at hx
    · -- the last character comes from the last one of the text
      have hm : ∃ b, x ∈ lowerAt b c [] := by
        obtain ⟨p, b, hp, -⟩ := exists_lowercaseFrom_append false r [c]
        refine ⟨b, List.mem_of_mem_getLast? ?_⟩
        rw [lowercase, List.concat_eq_append, hp, lowercaseFrom_cons, lowercaseFrom_nil,
          List.append_nil, List.getLast?_append_of_ne_nil _ (lowerAt_ne_nil b c [])] at hx
        exact hx
      obtain ⟨b, hm⟩ := hm
      obtain rfl := eq_of_mem_lowerAt (caseless_of_isBlank hb) hm
      exact absurd hb (by simp [hlast c (by simp)])

/-- It does not matter whether a text is stripped before or after. -/
theorem strip_lowercase (s : List Char) : strip (lowercase s) = lowercase (strip s) := by
  obtain ⟨l, r, hl, hr, hs⟩ := exists_strip s
  conv_lhs => rw [hs]
  rw [lowercase_append_blank hl hr, strip_append hl hr, strip_lowercase_of_strip (strip_strip s)]

/-- The lower case of a text is stripped exactly if the text is. -/
theorem strip_lowercase_eq_self_iff {s : List Char} :
    strip (lowercase s) = lowercase s ↔ strip s = s := by
  refine ⟨fun h => ?_, strip_lowercase_of_strip⟩
  obtain ⟨l, r, hl, hr, hs⟩ := exists_strip s
  -- the blanks around the text would stay in its lower case
  have hlower : lowercase s = l ++ lowercase (strip s) ++ r := by
    conv_lhs => rw [hs]
    exact lowercase_append_blank hl hr _
  rw [strip_lowercase] at h
  have hlength := congrArg List.length (h.trans hlower)
  simp only [List.length_append] at hlength
  obtain rfl : l = [] := List.length_eq_zero_iff.1 (by omega)
  obtain rfl : r = [] := List.length_eq_zero_iff.1 (by omega)
  simpa using hs.symm

end Dialogue.Text
