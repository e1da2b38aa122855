import Dialogue.Proofs.Lowering

/-!
# Capital sigmas and the text around them

The lower case of a part of a text depends on the text around the part only through the forms of its
capital sigmas. Such a form is settled within the part if the part says enough of what stands on
both sides of the sigma, marks being passed over.

* `letterNext?`: what a text says of the character next to it;
* `lowercaseWithin`, `lowercase_append_append`: the lower case of a part of a text;
* `Settles`, `Settled`: the parts that settle the forms of their sigmas;
* `Settled.lowercaseWithin_eq`: a settled part has the same lower case in every text;
* `count_lowercaseWithin_behind`, `count_lowercaseWithin_ahead`: a letter beside a part changes no
  sigma, or leaves fewer of one form;
* `Settled.infix_lowercase`, `exists_not_infix_of_not_settled`: the settled texts are those whose
  lower case occurs wherever they do.
-/

namespace Dialogue.Text

/-! ### What stands beside a sigma -/

/-- Whether the first character that is not passed over is a letter, if there is such a
character. -/
def letterNext? : List Char → Option Bool
  | [] => none
  | c :: r =>
    match standing c with
    | .letter => some true
    | .mark => letterNext? r
    | .other => some false

@[simp] theorem letterNext?_nil : letterNext? [] = none := rfl

/-- Where a text says nothing of what is ahead, the text behind it decides. -/
theorem letterAhead_append (s t : List Char) :
    letterAhead (s ++ t) = (letterNext? s).getD (letterAhead t) := by
  induction s with
  | nil => rfl
  | cons c r ih =>
    rw [List.cons_append, letterAhead, letterNext?]
    cases standing c with
    | mark => exact ih
    | letter | other => rfl

theorem letterBehind_eq (b : Bool) (c : Char) :
    letterBehind b c = (letterNext? [c]).getD b := by
  rw [letterBehind, letterNext?]
  cases standing c <;> rfl

theorem letterBehind_getD (x : Option Bool) (b : Bool) (c : Char) :
    letterBehind (x.getD b) c = ((letterNext? [c]).or x).getD b := by
  rw [letterBehind_eq]
  cases letterNext? [c] <;> rfl

/-! ### The lower case of a part of a text -/

/-- The form of a capital sigma in lower case, given whether letters stand behind and ahead. -/
def sigma (behind ahead : Bool) : Char := if behind && !ahead then 'ς' else 'σ'

/-- The lower case of a part of a text, given whether letters stand behind the part and ahead of
it. -/
def lowercaseWithin (behind ahead : Bool) : List Char → List Char
  | [] => []
  | c :: r =>
    (if c = 'Σ' then [sigma behind ((letterNext? r).getD ahead)] else lowerChar c)
      ++ lowercaseWithin (letterBehind behind c) ahead r

@[simp] theorem lowercaseWithin_nil (b a : Bool) : lowercaseWithin b a [] = [] := rfl

theorem lowercaseWithin_cons_sigma (b a : Bool) (r : List Char) :
    lowercaseWithin b a ('Σ' :: r) =
      sigma b ((letterNext? r).getD a) :: lowercaseWithin true a r := rfl

theorem lowercaseWithin_cons_of_ne {c : Char} (h : c ≠ 'Σ') (b a : Bool) (r : List Char) :
    lowercaseWithin b a (c :: r) = lowerChar c ++ lowercaseWithin (letterBehind b c) a r := by
  rw [lowercaseWithin, if_neg h]

/-- The lower case of a text is put together from those of its parts. -/
theorem lowercaseFrom_append (b : Bool) (s t : List Char) :
    lowercaseFrom b (s ++ t) =
      lowercaseWithin b (letterAhead t) s ++ lowercaseFrom (s.foldl letterBehind b) t := by
  induction s generalizing b with
  | nil => rfl
  | cons c r ih =>
    have hc : lowerAt b c (r ++ t) =
        if c = 'Σ' then [sigma b ((letterNext? r).getD (letterAhead t))] else lowerChar c := by
      rw [lowerAt, letterAhead_append, sigma]
      split_ifs <;> rfl
    rw [List.cons_append, lowercaseFrom_cons, ih, hc, lowercaseWithin, List.append_assoc,
      List.foldl_cons]

theorem lowercaseWithin_false (b : Bool) (s : List Char) :
    lowercaseWithin b false s = lowercaseFrom b s := by
  have h := lowercaseFrom_append b s []
  rw [List.append_nil, lowercaseFrom_nil, List.append_nil] at h
  exact h.symm

/-- The lower case of a part of a text, between those of what stands around it. -/
theorem lowercase_append_append (l v r : List Char) :
    lowercase (l ++ v ++ r) =
      lowercaseWithin false (letterAhead (v ++ r)) l
        ++ lowercaseWithin (l.foldl letterBehind false) (letterAhead r) v
        ++ lowercaseFrom (v.foldl letterBehind (l.foldl letterBehind false)) r := by
  rw [lowercase, List.append_assoc, lowercaseFrom_append, lowercaseFrom_append, List.append_assoc]

/-! ### Settled sigmas -/

/-- What is known of the characters next to a sigma settles its form: a letter is ahead, or no
letter is behind, or a letter is behind and none ahead. -/
def Settles (behind ahead : Option Bool) : Prop :=
  ahead = some true ∨ behind = some false ∨ (behind = some true ∧ ahead = some false)

instance (behind ahead : Option Bool) : Decidable (Settles behind ahead) :=
  inferInstanceAs (Decidable (_ ∨ _ ∨ _))

/-- The form of a sigma is settled exactly if a letter beyond what is known does not change it. -/
theorem settles_iff {x y : Option Bool} :
    Settles x y ↔
      sigma (x.getD true) (y.getD false) = sigma (x.getD false) (y.getD false) ∧
        sigma (x.getD false) (y.getD true) = sigma (x.getD false) (y.getD false) := by
  obtain _ | _ | _ := x <;> obtain _ | _ | _ := y <;> decide

theorem Settles.sigma_eq {x y : Option Bool} (h : Settles x y) (b a : Bool) :
    sigma (x.getD b) (y.getD a) = sigma (x.getD false) (y.getD false) := by
  rcases h with rfl | rfl | ⟨rfl, rfl⟩ <;> simp [sigma]

/-- A text settles the forms of its capital sigmas, given what is known of the character behind
it. -/
def SettledFrom (behind : Option Bool) : List Char → Prop
  | [] => True
  | c :: r =>
    (c = 'Σ' → Settles behind (letterNext? r)) ∧ SettledFrom ((letterNext? [c]).or behind) r

instance decidableSettledFrom : ∀ behind v, Decidable (SettledFrom behind v)
  | _, [] => inferInstanceAs (Decidable True)
  | behind, c :: r =>
    have := decidableSettledFrom ((letterNext? [c]).or behind) r
    inferInstanceAs (Decidable ((_ → _) ∧ _))

/-- A text settles the forms of its capital sigmas, whatever stands around it. -/
def Settled (v : List Char) : Prop := SettledFrom none v

instance (v : List Char) : Decidable (Settled v) := inferInstanceAs (Decidable (SettledFrom _ _))

/-- A text without capital sigmas is settled. -/
theorem settledFrom_of_not_mem {v : List Char} (h : 'Σ' ∉ v) (x : Option Bool) :
    SettledFrom x v := by
  induction v generalizing x with
  | nil => trivial
  | cons c r ih =>
    rw [List.mem_cons, not_or] at h
    exact ⟨fun hc => absurd hc.symm h.1, ih h.2 _⟩

/-- A settled text has the same lower case in every text. -/
theorem SettledFrom.lowercaseWithin_eq {x : Option Bool} {v : List Char} (h : SettledFrom x v)
    (b a : Bool) :
    lowercaseWithin (x.getD b) a v = lowercaseWithin (x.getD false) false v := by
  induction v generalizing x with
  | nil => rfl
  | cons c r ih =>
    obtain ⟨hc, hr⟩ := h
    have htail := ih hr
    rw [← letterBehind_getD, ← letterBehind_getD] at htail
    rw [lowercaseWithin, lowercaseWithin, htail]
    congr 1
    split_ifs with hs
    · rw [(hc hs).sigma_eq b a]
    · rfl

/-- A text is settled if neither a letter behind it nor one ahead changes its lower case. -/
theorem settledFrom_of_eq {x : Option Bool} {v : List Char}
    (hb : lowercaseWithin (x.getD true) false v = lowercaseWithin (x.getD false) false v)
    (ha : lowercaseWithin (x.getD false) true v = lowercaseWithin (x.getD false) false v) :
    SettledFrom x v := by
  induction v generalizing x with
  | nil => trivial
  | cons c r ih =>
    -- the lower case of the rest is the same, and so is that of the first character
    have hlength : ∀ b a, (if c = 'Σ' then [sigma b a] else lowerChar c).length =
        (if c = 'Σ' then [sigma false false] else lowerChar c).length := by
      intro b a
      split_ifs <;> rfl
    rw [lowercaseWithin, lowercaseWithin] at hb ha
    obtain ⟨hbc, hbr⟩ := List.append_inj hb ((hlength _ _).trans (hlength _ _).symm)
    obtain ⟨hac, har⟩ := List.append_inj ha ((hlength _ _).trans (hlength _ _).symm)
    refine ⟨fun hs => settles_iff.2 ⟨?_, ?_⟩, ih ?_ ?_⟩
    · simpa [hs] using hbc
    · simpa [hs] using hac
    · rwa [← letterBehind_getD, ← letterBehind_getD]
    · rwa [← letterBehind_getD]

/-! ### Texts that are not settled -/

/-- A letter behind a text changes none of its sigmas, or leaves fewer of the plain form. -/
theorem count_lowercaseWithin_behind (a : Bool) (v : List Char) :
    lowercaseWithin true a v = lowercaseWithin false a v ∨
      (lowercaseWithin true a v).count 'σ' < (lowercaseWithin false a v).count 'σ' := by
  -- the first character that is not passed over parts the rest of the text from the letter
  induction v with
  | nil => exact .inl rfl
  | cons c r ih =>
    by_cases hs : c = 'Σ'
    · subst hs
      rw [lowercaseWithin_cons_sigma, lowercaseWithin_cons_sigma]
      cases (letterNext? r).getD a with
      | true => exact .inl rfl
      | false => exact .inr (by simp [sigma])
    · rw [lowercaseWithin_cons_of_ne hs, lowercaseWithin_cons_of_ne hs, letterBehind, letterBehind]
      cases standing c with
      | letter | other => exact .inl rfl
      | mark =>
        rcases ih with heq | hlt
        · exact .inl (congrArg (lowerChar c ++ ·) heq)
        · exact .inr (by simpa [List.count_append] using hlt)

/-- A letter ahead of a text changes none of its sigmas, or leaves fewer of the final form. -/
theorem count_lowercaseWithin_ahead (b : Bool) (v : List Char) :
    lowercaseWithin b true v = lowercaseWithin b false v ∨
      (lowercaseWithin b true v).count 'ς' < (lowercaseWithin b false v).count 'ς' := by
  induction v generalizing b with
  | nil => exact .inl rfl
  | cons c r ih =>
    by_cases hs : c = 'Σ'
    · subst hs
      rw [lowercaseWithin_cons_sigma, lowercaseWithin_cons_sigma]
      -- only a sigma with nothing but marks ahead can change, and then from the final form
      have hhead : sigma b ((letterNext? r).getD true) = sigma b ((letterNext? r).getD false) ∨
          (sigma b ((letterNext? r).getD true) = 'σ' ∧
            sigma b ((letterNext? r).getD false) = 'ς') := by
        obtain _ | _ | _ := letterNext? r <;> cases b <;> decide
      rcases hhead with heq | ⟨ht, hf⟩
      · rw [heq]
        rcases ih true with htail | hlt
        · exact .inl (congrArg _ htail)
        · exact .inr (by simpa [List.count_cons] using hlt)
      · rw [ht, hf]
        refine .inr ?_
        have hle : (lowercaseWithin true true r).count 'ς' ≤
            (lowercaseWithin true false r).count 'ς' := by
          rcases ih true with htail | hlt
          · rw [htail]
          · exact hlt.le
        simpa [List.count_cons] using Nat.lt_succ_of_le hle
    · rw [lowercaseWithin_cons_of_ne hs, lowercaseWithin_cons_of_ne hs]
      rcases ih (letterBehind b c) with heq | hlt
      · exact .inl (congrArg (lowerChar c ++ ·) heq)
      · exact .inr (by simpa [List.count_append] using hlt)

/-! ### Where the lower case of a text occurs -/

variable {v : List Char}

theorem Settled.lowercaseWithin_eq (h : Settled v) (b a : Bool) :
    lowercaseWithin b a v = lowercase v := by
  have heq := SettledFrom.lowercaseWithin_eq h b a
  rwa [Option.getD_none, Option.getD_none, lowercaseWithin_false] at heq

/-- The lower case of a settled text occurs in that of every text in which the text occurs. -/
theorem Settled.infix_lowercase (h : Settled v) (l r : List Char) :
    lowercase v <:+: lowercase (l ++ v ++ r) := by
  rw [lowercase_append_append, h.lowercaseWithin_eq]
  exact List.infix_append _ _ _

/-- The lower case of a text between a letter and a zero. -/
theorem lowercase_letter_zero (v : List Char) :
    lowercase (['a'] ++ v ++ ['0']) = ['a'] ++ lowercaseWithin true false v ++ ['0'] := by
  have hbehind : ['a'].foldl letterBehind false = true := by decide +kernel
  have hahead : letterAhead ['0'] = false := by decide +kernel
  have ha : ∀ a, lowercaseWithin false a ['a'] = ['a'] := by decide +kernel
  have h0 : ∀ b, lowercaseFrom b ['0'] = ['0'] := by decide +kernel
  rw [lowercase_append_append, hbehind, hahead, ha, h0]

/-- The lower case of a text between a zero and a letter. -/
theorem lowercase_zero_letter (v : List Char) :
    lowercase (['0'] ++ v ++ ['a']) = ['0'] ++ lowercaseWithin false true v ++ ['a'] := by
  have hbehind : ['0'].foldl letterBehind false = false := by decide +kernel
  have hahead : letterAhead ['a'] = true := by decide +kernel
  have h0 : ∀ a, lowercaseWithin false a ['0'] = ['0'] := by decide +kernel
  have ha : ∀ b, lowercaseFrom b ['a'] = ['a'] := by decide +kernel
  rw [lowercase_append_append, hbehind, hahead, h0, ha]

/-- The lower case of a text that is not settled does not occur in that of the text with a letter on
one side. -/
theorem exists_not_infix_of_not_settled (h : ¬Settled v) :
    ∃ c d, isBlank c = false ∧ isBlank d = false ∧
      ¬lowercase v <:+: lowercase ([c] ++ v ++ [d]) := by
  -- what occurs has no character more often than the text in which it occurs
  have hcount : ∀ {x c d : Char} {s : List Char}, x ≠ c → x ≠ d →
      s.count x < (lowercase v).count x → ¬lowercase v <:+: [c] ++ s ++ [d] := by
    intro x c d s hc hd hlt hinfix
    have hle := hinfix.sublist.count_le x
    rw [List.count_append, List.count_append, List.count_singleton, List.count_singleton] at hle
    simp [hc.symm, hd.symm] at hle
    omega
  rcases count_lowercaseWithin_behind false v with hb | hb
  · rcases count_lowercaseWithin_ahead false v with ha | ha
    · exact absurd (settledFrom_of_eq (x := none) hb ha) h
    · rw [lowercaseWithin_false false] at ha
      refine ⟨'0', 'a', by decide, by decide, ?_⟩
      rw [lowercase_zero_letter]
      exact hcount (by decide) (by decide) ha
  · rw [lowercaseWithin_false false] at hb
    refine ⟨'a', '0', by decide, by decide, ?_⟩
    rw [lowercase_letter_zero]
    exact hcount (by decide) (by decide) hb

end Dialogue.Text
