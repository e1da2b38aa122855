import Dialogue.Proofs.Answerable
import Dialogue.Proofs.Sigma

/-!
# Answers that contain the value of a route

A route that tests whether an answer contains its value compares the lower case of both. The lower
case of the value need not occur in that of an answer in which the value occurs: a capital sigma at
an end of the value may have another form there.

* `fires_of_infix`: a settled value is found in every answer that contains it;
* `exists_not_fires_of_not_settled`: any other value is missed in some answer that does;
* `contains_takes_iff_settled`: the routes that are taken by all answers with their value;
* `not_forall_contains_takes`: not all routes are.
-/

namespace Dialogue

open Text

namespace Route

variable {r : Route}

/-- A route that tests whether its value occurs in an answer. -/
theorem fires_contains (hr : r.test? = some .contains) (answer : String) :
    r.fires answer = true ↔ lowercase r.text <:+: lowercase (strip answer.toList) := by
  rw [fires, hr, target_eq]
  exact occursIn_iff

/-- A settled value is found in every answer that contains it. -/
theorem fires_of_infix (hr : r.test? = some .contains) (hs : Settled r.text) {answer : String}
    (h : r.text <:+: strip answer.toList) : r.fires answer = true := by
  obtain ⟨before, after, heq⟩ := h
  rw [fires_contains hr, ← heq]
  exact hs.infix_lowercase before after

/-- A value that is not settled is missed in some answer that contains it. -/
theorem exists_not_fires_of_not_settled (hr : r.test? = some .contains) (hs : ¬Settled r.text) :
    ∃ answer : String, r.text <:+: strip answer.toList ∧ r.fires answer = false := by
  obtain ⟨c, d, hc, hd, hmissed⟩ := exists_not_infix_of_not_settled hs
  have hstrip : strip ([c] ++ r.text ++ [d]) = [c] ++ r.text ++ [d] := by
    refine strip_eq_self_iff.2 ⟨?_, ?_⟩
    · rintro x ⟨⟩
      exact hc
    · intro x hx
      rw [List.getLast?_concat] at hx
      cases hx
      exact hd
  refine ⟨.ofList ([c] ++ r.text ++ [d]), ?_, ?_⟩
  · rw [String.toList_ofList, hstrip]
    exact List.infix_append _ _ _
  · rw [← Bool.not_eq_true, fires_contains hr, String.toList_ofList, hstrip]
    exact hmissed

/-- **Which values are found wherever they occur.** Every answer that contains the value of a
`contains` route, outer blanks aside, takes the route, exactly if the value settles the form of each
of its capital sigmas, whatever stands around the value. -/
theorem contains_takes_iff_settled (hr : r.test? = some .contains) :
    (∀ answer : String, r.text <:+: strip answer.toList → r.fires answer = true) ↔
      Settled r.text := by
  constructor
  · intro h
    by_contra hs
    obtain ⟨answer, hinfix, hfires⟩ := exists_not_fires_of_not_settled hr hs
    rw [h answer hinfix] at hfires
    cases hfires
  · intro hs answer
    exact fires_of_infix hr hs

/-- The theorem for three values: one without capital sigmas, one whose two sigmas stand before
letters, and one that ends with a sigma. -/
theorem contains_takes_iff_settled_greek :
    let refund : Route := ⟨"contains", "Refund", "bye"⟩
    let system : Route := ⟨"contains", "ΣΥΣΤΗΜΑ", "bye"⟩
    let towards : Route := ⟨"contains", "ΠΡΟΣ", "bye"⟩
    (∀ answer : String, refund.text <:+: strip answer.toList → refund.fires answer = true) ∧
    (∀ answer : String, system.text <:+: strip answer.toList → system.fires answer = true) ∧
    ¬∀ answer : String, towards.text <:+: strip answer.toList → towards.fires answer = true := by
  intro refund system towards
  have hrefund : refund.test? = some .contains := by decide
  have hsystem : system.test? = some .contains := by decide
  have htowards : towards.test? = some .contains := by decide
  refine ⟨(contains_takes_iff_settled hrefund).2 (settledFrom_of_not_mem (by decide) none),
    (contains_takes_iff_settled hsystem).2 (by decide +kernel), ?_⟩
  rw [contains_takes_iff_settled htowards]
  decide +kernel

/-- The offer `ΠΡΟΣΦΟΡΑ` contains `ΠΡΟΣ`, yet its lower case `προσφορα` does not contain `προς`. -/
theorem not_forall_contains_takes :
    ¬∀ (r : Route) (answer : String), r.test? = some .contains →
      r.text <:+: strip answer.toList → r.fires answer = true := by
  intro h
  have hinfix : "ΠΡΟΣ".toList <:+: strip "ΠΡΟΣΦΟΡΑ".toList := by decide +kernel
  have hfires := h ⟨"contains", "ΠΡΟΣ", "bye"⟩ "ΠΡΟΣΦΟΡΑ" (by decide) hinfix
  have hmissed : (⟨"contains", "ΠΡΟΣ", "bye"⟩ : Route).fires "ΠΡΟΣΦΟΡΑ" = false := by
    decide +kernel
  rw [hmissed] at hfires
  cases hfires

end Route

end Dialogue
