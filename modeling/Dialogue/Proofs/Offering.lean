import Dialogue.Proofs.Answerable

/-!
# Options that can be chosen

A question offers an option if it has a route for the answer that is equal to the option. The answer
is stripped before it is compared, and the value of the route is not.

* `Route.IsFor`, `Node.Offers`: a route for an answer, and an option with such a route;
* `lowercase_strip_eq_iff`: only a stripped text has the lower case of what it is when stripped;
* `Route.IsFor.fires_iff`: a route is taken by the answer that it is for if this is stripped;
* `Node.offered_taken_iff`: the offered options that some route takes;
* `Node.not_forall_offered_taken`: the others are real.
-/

namespace Dialogue

open Text

/-- The lower case of a text tells whether the text is stripped. -/
theorem Text.lowercase_strip_eq_iff {s : List Char} :
    lowercase (strip s) = lowercase s ↔ strip s = s := by
  rw [← strip_lowercase, strip_lowercase_eq_self_iff]

namespace Route

variable {r : Route} {o : String}

/-- A route for the answer that is equal to a text. -/
def IsFor (r : Route) (o : String) : Prop := r.test? = some .equals ∧ r.value = some o

instance (r : Route) (o : String) : Decidable (r.IsFor o) :=
  inferInstanceAs (Decidable (_ ∧ _))

/-- A route is taken by the answer that it is for exactly if the answer has no outer blanks. -/
theorem IsFor.fires_iff (h : r.IsFor o) : r.fires o = true ↔ strip o.toList = o.toList := by
  obtain ⟨htest, hvalue⟩ := h
  rw [fires, htest, target_eq, text, hvalue, Option.getD_some]
  dsimp only
  rw [decide_eq_true_eq, normalizeText, lowercase_strip_eq_iff]

end Route

namespace Node

variable {n : Node} {o : String}

/-- An option of a question, with a route for it. -/
structure Offers (n : Node) (o : String) : Prop where
  listed : o ∈ n.options
  routed : ∃ r ∈ n.routes, r.IsFor o

/-- **Which options can be chosen.** An option that is offered takes some route, whatever the other
routes are, if it has no outer blanks. With outer blanks it does not take the routes that are for
it, so that it takes a route exactly if another one takes it. -/
theorem offered_taken_iff (h : n.Offers o) :
    (∃ r, firstRoute? n.routes o = some r) ↔
      strip o.toList = o.toList ∨ ∃ r ∈ n.routes, ¬r.IsFor o ∧ r.fires o = true := by
  rw [exists_firstRoute?_iff]
  constructor
  · rintro ⟨r, hr, hfires⟩
    by_cases hfor : r.IsFor o
    · exact .inl (hfor.fires_iff.1 hfires)
    · exact .inr ⟨r, hr, hfor, hfires⟩
  · rintro (hstrip | ⟨r, hr, -, hfires⟩)
    · obtain ⟨r, hr, hfor⟩ := h.routed
      exact ⟨r, hr, hfor.fires_iff.2 hstrip⟩
    · exact ⟨r, hr, hfires⟩

/-- A question with an option that has outer blanks, behind one that has none. -/
def spaced : Node :=
  ⟨"ask", "Shall we write to you?", ["Yes", " No "],
    .question [⟨"contains", "please", "mail"⟩, ⟨"equals", " No ", "bye"⟩, ⟨"equals", "Yes", "mail"⟩]
      none, .empty⟩

/-- The theorem for both options of this question: only the one without outer blanks takes a
route. -/
theorem offered_taken_iff_spaced :
    spaced.Offers "Yes" ∧ (∃ r, firstRoute? spaced.routes "Yes" = some r) ∧
    spaced.Offers " No " ∧ ¬∃ r, firstRoute? spaced.routes " No " = some r := by
  have hyes : spaced.Offers "Yes" := ⟨by decide, ⟨"equals", "Yes", "mail"⟩, by decide, by decide⟩
  have hno : spaced.Offers " No " := ⟨by decide, ⟨"equals", " No ", "bye"⟩, by decide, by decide⟩
  refine ⟨hyes, (offered_taken_iff hyes).2 (.inl (by decide)), hno, ?_⟩
  rw [offered_taken_iff hno]
  decide +kernel

/-- It is not so that every option that is offered takes some route. -/
theorem not_forall_offered_taken :
    ¬∀ (n : Node) (o : String), n.Offers o → ∃ r, firstRoute? n.routes o = some r := by
  intro h
  obtain ⟨r, hr⟩ := h spaced " No "
    ⟨by decide, ⟨"equals", " No ", "bye"⟩, by decide, by decide⟩
  have hnone : firstRoute? spaced.routes " No " = none := by decide +kernel
  cases hnone.symm.trans hr

end Node

end Dialogue
