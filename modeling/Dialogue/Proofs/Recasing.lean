import Dialogue.Proofs.Answerable
import Dialogue.Proofs.Lowered
import Mathlib.Data.List.Forall2

/-!
# Answers typed in another case

The branch that an answer takes depends neither on blanks around it nor on the case of its ASCII
letters, and just as little on the case of those in the values of routes. The letters may stand
beside any others, whose own lower case depends on what stands beside them.

* `swapCase`, `Recased`: the other case of a letter, and a text with some of its letters in it;
* `LowersAlike`, `lowercaseFrom_congr`: characters that no lower case tells apart, neither theirs nor
  that of the characters beside them;
* `Retyped`, `normalizeText_of_retyped`: an answer with blanks around it and letters in the other
  case has the same normal form;
* `firstIndex?_retyped`: it takes the route in the same place, whatever the case of the values.
-/

namespace Dialogue

namespace Text

/-! ### The case of ASCII letters -/

/-- The other case of an ASCII letter; any other character is left as it is. -/
def swapCase (c : Char) : Char :=
  if c.isUpper then .ofNat (c.toNat + 32)
  else if c.isLower then .ofNat (c.toNat - 32)
  else c

/-- A text with the case of some of its ASCII letters swapped. -/
def Recased (s t : List Char) : Prop := List.Forall₂ (fun c d => d = c ∨ d = swapCase c) s t

instance (s t : List Char) : Decidable (Recased s t) :=
  inferInstanceAs (Decidable (List.Forall₂ _ s t))

/-- Two characters that have the same lower case, and are the same for the characters beside
them. -/
structure LowersAlike (c d : Char) : Prop where
  lower : lowerChar d = lowerChar c
  standing : standing d = standing c
  sigma : d = 'Σ' ↔ c = 'Σ'

theorem LowersAlike.refl (c : Char) : LowersAlike c c := ⟨rfl, rfl, Iff.rfl⟩

theorem LowersAlike.symm {c d : Char} (h : LowersAlike c d) : LowersAlike d c :=
  ⟨h.lower.symm, h.standing.symm, h.sigma.symm⟩

theorem toNat_of_isUpper {c : Char} (h : c.isUpper = true) : 65 ≤ c.toNat ∧ c.toNat ≤ 90 := by
  have hvals : 'A'.val ≤ c.val ∧ c.val ≤ 'Z'.val := of_decide_eq_true h
  simpa [UInt32.le_iff_toNat_le] using hvals

theorem toNat_of_isLower {c : Char} (h : c.isLower = true) : 97 ≤ c.toNat ∧ c.toNat ≤ 122 := by
  change (decide ('a'.val ≤ c.val) && decide (c.val ≤ 'z'.val)) = true at h
  simpa [UInt32.le_iff_toNat_le] using h

/-- A small ASCII letter is its own lower case. -/
theorem isLower_of_small {c : Char} (h : 97 ≤ c.toNat ∧ c.toNat ≤ 122) : IsLower c := by
  have hapart : ∀ t ∈ letters, t.last < 97 ∨ 122 < t.first := by decide +kernel
  refine isLower_of_not_holds fun t ht => ?_
  rw [← Bool.not_eq_true, Shift.holds_iff]
  have := hapart t ht
  omega

/-- No lower case tells a capital ASCII letter from the small one. -/
theorem lowersAlike_ascii {n : Nat} (h : n < 26) :
    LowersAlike (.ofNat (65 + n)) (.ofNat (97 + n)) := by
  have hletters : ∀ n < 26, (Char.ofNat (97 + n)).toNat = 97 + n ∧
      lowerChar (.ofNat (65 + n)) = [.ofNat (97 + n)] ∧
      standing (.ofNat (97 + n)) = standing (.ofNat (65 + n)) ∧
      Char.ofNat (65 + n) ≠ 'Σ' ∧ Char.ofNat (97 + n) ≠ 'Σ' := by
    decide +kernel
  obtain ⟨hval, hlower, hstanding, hcapital, hsmall⟩ := hletters n h
  refine ⟨?_, hstanding, iff_of_false hsmall hcapital⟩
  rw [hlower, isLower_of_small (by omega)]

/-- No lower case tells the two cases of a letter apart. -/
theorem lowersAlike_swapCase (c : Char) : LowersAlike c (swapCase c) := by
  have hof : ∀ {n}, c.toNat = n → c = .ofNat n := by
    rintro n rfl
    exact (Char.ofNat_toNat c).symm
  unfold swapCase
  split_ifs with hupper hlower
  · have hrange := toNat_of_isUpper hupper
    obtain ⟨n, hn⟩ := Nat.exists_eq_add_of_le hrange.1
    rw [hof hn, show (Char.ofNat (65 + n)).toNat + 32 = 97 + n by rw [← hof hn]; omega]
    exact lowersAlike_ascii (by omega)
  · have hrange := toNat_of_isLower hlower
    obtain ⟨n, hn⟩ := Nat.exists_eq_add_of_le hrange.1
    rw [hof hn, show (Char.ofNat (97 + n)).toNat - 32 = 65 + n by rw [← hof hn]; omega]
    exact (lowersAlike_ascii (by omega)).symm
  · exact .refl c

theorem Recased.lowersAlike {s t : List Char} (h : Recased s t) :
    List.Forall₂ LowersAlike s t := by
  refine List.Forall₂.imp ?_ h
  rintro c d (rfl | rfl)
  · exact .refl d
  · exact lowersAlike_swapCase c

/-! ### The lower case of a text -/

theorem letterAhead_congr {s t : List Char} (h : List.Forall₂ LowersAlike s t) :
    letterAhead t = letterAhead s := by
  induction h with
  | nil => rfl
  | cons hc _ ih => rw [letterAhead, letterAhead, hc.standing, ih]

/-- Texts whose characters lower alike have the same lower case. -/
theorem lowercaseFrom_congr {s t : List Char} (h : List.Forall₂ LowersAlike s t) (b : Bool) :
    lowercaseFrom b t = lowercaseFrom b s := by
  induction h generalizing b with
  | nil => rfl
  | @cons c d r u hc hr ih =>
    have hhere : lowerAt b d u = lowerAt b c r := by
      rw [lowerAt, lowerAt, letterAhead_congr hr, hc.lower]
      simp only [hc.sigma]
    have hbehind : letterBehind b d = letterBehind b c := by
      rw [letterBehind, letterBehind, hc.standing]
    rw [lowercaseFrom_cons, lowercaseFrom_cons, hhere, hbehind, ih]

theorem Recased.lowercase_eq {s t : List Char} (h : Recased s t) : lowercase t = lowercase s :=
  lowercaseFrom_congr h.lowersAlike false

end Text

open Text

/-! ### Answers -/

/-- An answer with blanks put around it, and the case of some of its ASCII letters swapped. -/
def Retyped (answer answer' : String) : Prop :=
  ∃ l s r, Blank l ∧ Blank r ∧ Recased answer.toList s ∧ answer'.toList = l ++ s ++ r

theorem normalizeText_of_retyped {answer answer' : String} (h : Retyped answer answer') :
    normalizeText answer'.toList = normalizeText answer.toList := by
  obtain ⟨l, s, r, hl, hr, hs, heq⟩ := h
  calc normalizeText answer'.toList = lowercase (strip s) := by
        rw [normalizeText, heq, strip_append hl hr]
    _ = strip (lowercase s) := (strip_lowercase s).symm
    _ = strip (lowercase answer.toList) := by rw [hs.lowercase_eq]
    _ = normalizeText answer.toList := strip_lowercase _

/-! ### Routes -/

/-- A route with the case of some ASCII letters of its value swapped. -/
structure Route.Recased (r r' : Route) : Prop where
  condition : r'.condition = r.condition
  value : Option.Rel (fun v v' => Text.Recased v.toList v'.toList) r.value r'.value
  next : r'.next = r.next

theorem Route.Recased.target_eq {r r' : Route} (h : r.Recased r') : r'.target = r.target := by
  have hvalue := h.value
  rw [Route.target, Route.target]
  generalize r.value = x, r'.value = x' at hvalue ⊢
  cases hvalue with
  | none => rfl
  | some hv => exact hv.lowercase_eq

theorem Route.Recased.fires_eq {r r' : Route} (h : r.Recased r') {answer answer' : String}
    (ha : Retyped answer answer') : r'.fires answer' = r.fires answer := by
  rw [fires, fires, test?, test?, h.condition, h.target_eq, normalizeText_of_retyped ha]

/-- **Padding and case do not change the branch.** An answer with blanks put around it and the case
of some ASCII letters swapped takes the route in the same place as the answer itself, or none as
well, also if the case of ASCII letters of the routes' values is swapped. -/
theorem firstIndex?_retyped {routes routes' : List Route} {answer answer' : String}
    (hr : List.Forall₂ Route.Recased routes routes') (ha : Retyped answer answer') :
    firstIndex? routes' answer' = firstIndex? routes answer ∧
      firstRoute? routes answer = (firstIndex? routes answer).bind (routes[·]?) ∧
      firstRoute? routes' answer' = (firstIndex? routes answer).bind (routes'[·]?) := by
  have hindex : firstIndex? routes' answer' = firstIndex? routes answer := by
    unfold firstIndex?
    induction hr with
    | nil => rfl
    | cons h _ ih => rw [List.findIdx?_cons, List.findIdx?_cons, h.fires_eq ha, ih]
  refine ⟨hindex, List.find?_eq_bind_findIdx?_getElem?, ?_⟩
  rw [← hindex]
  exact List.find?_eq_bind_findIdx?_getElem?

/-- The theorem for a letter behind a capital sigma, which keeps the sigma from being final in either
case. -/
theorem firstIndex?_retyped_greek :
    let routes : List Route := [⟨"equals", "No", "bye"⟩, ⟨"contains", "ΟΔΟΣx", "mail"⟩]
    let routes' : List Route := [⟨"equals", "nO", "bye"⟩, ⟨"contains", "ΟΔΟΣX", "mail"⟩]
    List.Forall₂ Route.Recased routes routes' ∧ Retyped "Η ΟΔΟΣ'X" " Η ΟΔΟΣ'x\n" ∧
    Retyped "ΜΕΘΟΔΟΣX" "ΜΕΘΟΔΟΣx " ∧
    firstIndex? routes' " Η ΟΔΟΣ'x\n" = firstIndex? routes "Η ΟΔΟΣ'X" ∧
    firstIndex? routes' "ΜΕΘΟΔΟΣx " = firstIndex? routes "ΜΕΘΟΔΟΣX" ∧
    firstIndex? routes "ΜΕΘΟΔΟΣX" = some 1 := by
  intro routes routes'
  have hroutes : List.Forall₂ Route.Recased routes routes' :=
    .cons ⟨rfl, .some (by decide), rfl⟩ (.cons ⟨rfl, .some (by decide), rfl⟩ .nil)
  have hroad : Retyped "Η ΟΔΟΣ'X" " Η ΟΔΟΣ'x\n" :=
    ⟨[' '], "Η ΟΔΟΣ'x".toList, ['\n'], by decide, by decide, by decide, by decide⟩
  have hmethod : Retyped "ΜΕΘΟΔΟΣX" "ΜΕΘΟΔΟΣx " :=
    ⟨[], "ΜΕΘΟΔΟΣx".toList, [' '], by decide, by decide, by decide, by decide⟩
  exact ⟨hroutes, hroad, hmethod, (firstIndex?_retyped hroutes hroad).1,
    (firstIndex?_retyped hroutes hmethod).1, by decide +kernel⟩

end Dialogue
