import Dialogue.Proofs.Address
import Dialogue.Proofs.Audit

/-!
# Questions that can be answered

The audit warns of a question without routes, which asks again whatever the answer is. This
module finds all nodes that do so in a flow that the audit has nothing to say about.

* `Route.canFire`, `Route.exists_fires_iff`: the routes that some answer takes, and some address
  if the question asks for one;
* `Node.canLeadOn`, `Node.exists_target_iff`: the nodes that some answer leads on from;
* `Engine.exists_answer_iff`: a node can be answered exactly if it is one of them;
* `Engine.not_forall_exists_answer`: the audit is silent about some that are not.
-/

namespace Dialogue

open Text

/-! ### Normal forms of answers -/

theorem occursIn_iff {v s : List Char} : occursIn v s = true ↔ v <:+: s := by
  induction s with
  | nil => simp [occursIn]
  | cons c r ih =>
    rw [occursIn, Bool.or_eq_true, ih, List.isPrefixOf_iff_prefix, List.infix_cons_iff]

/-- The lower case of a text is the normal form of some answer exactly if the text has no outer
blanks. -/
theorem exists_normalizeText_iff {v : List Char} :
    (∃ answer : String, normalizeText answer.toList = lowercase v) ↔ strip v = v := by
  constructor
  · rintro ⟨answer, h⟩
    rw [← strip_lowercase_eq_self_iff, ← h, normalizeText]
    exact strip_lowercase_of_strip (strip_strip _)
  · intro h
    exact ⟨.ofList v, by rw [String.toList_ofList, normalizeText, h]⟩

/-- It is the normal form of some address exactly if the text is an address. -/
theorem exists_email_normalizeText_iff {v : List Char} :
    (∃ answer, checkEmail answer = none ∧ normalizeText answer.toList = lowercase v) ↔
      isEmail v = true := by
  constructor
  · rintro ⟨answer, hc, h⟩
    rw [checkEmail_eq_none_iff] at hc
    rw [← isEmail_lowercase, ← h, normalizeText, isEmail_lowercase]
    exact hc
  · intro h
    have hv := strip_of_isEmail h
    refine ⟨.ofList v, ?_, ?_⟩
    · rw [checkEmail_eq_none_iff, String.toList_ofList, hv]
      exact h
    · rw [String.toList_ofList, normalizeText, hv]

/-- Every text occurs in the normal form of an answer: between two characters that are neither
blanks nor letters. -/
theorem exists_occursIn (v : List Char) :
    ∃ answer : String, occursIn (lowercase v) (normalizeText answer.toList) = true := by
  have hs : strip ('@' :: (v ++ ['@'])) = '@' :: (v ++ ['@']) := by
    have hat : isBlank '@' = false := by decide
    refine strip_eq_self_iff.2 ⟨?_, ?_⟩
    · rintro _ ⟨⟩
      exact hat
    · intro c hc
      rw [← List.cons_append, List.getLast?_concat] at hc
      cases hc
      exact hat
  refine ⟨.ofList ('@' :: (v ++ ['@'])), ?_⟩
  rw [String.toList_ofList, normalizeText, hs, lowercase_between (by decide) (by decide),
    occursIn_iff]
  exact ⟨['@'], '@' :: lowercase [], by simp⟩

/-- The texts that occur in the normal form of an address are those that occur in an address. -/
theorem exists_email_occursIn_iff {v : List Char} :
    (∃ answer, checkEmail answer = none ∧
      occursIn (lowercase v) (normalizeText answer.toList) = true) ↔ IsPartOfAddress v := by
  constructor
  · rintro ⟨answer, hc, h⟩
    rw [checkEmail_eq_none_iff] at hc
    rw [occursIn_iff, normalizeText] at h
    rw [← isPartOfAddress_lowercase]
    exact isPartOfAddress_of_infix ((isEmail_lowercase _).trans hc) h
  · intro h
    obtain ⟨t, ht⟩ := h.exists_isEmail
    have hs := strip_of_isEmail ht
    refine ⟨.ofList ('0' :: (v ++ '0' :: t)), ?_, ?_⟩
    · rw [checkEmail_eq_none_iff, String.toList_ofList, hs]
      exact ht
    · rw [String.toList_ofList, normalizeText, hs, lowercase_between (by decide) (by decide),
        occursIn_iff]
      exact ⟨['0'], '0' :: lowercase t, by simp⟩

/-! ### Routes -/

namespace Route

variable {r : Route}

/-- The value of a route as it stands in the document; an absent value is empty. -/
def text (r : Route) : List Char := (r.value.getD "").toList

theorem target_eq : r.target = lowercase r.text := rfl

/-- Whether some answer takes a route, which must be an address if answers are checked. -/
def canFire (checks : Bool) (r : Route) : Bool :=
  match r.test? with
  | some .equals => if checks then isEmail r.text else decide (strip r.text = r.text)
  | some .contains => !checks || decide (IsPartOfAddress r.text)
  | some .default => true
  | none => false

/-- Some answer takes a route exactly if `canFire` says so. -/
theorem exists_fires_iff {checks : Bool} :
    (∃ answer, (checks = true → checkEmail answer = none) ∧ r.fires answer = true) ↔
      r.canFire checks = true := by
  unfold fires canFire
  rw [target_eq]
  cases r.test? with
  | none => simp
  | some c =>
    cases c with
    | equals =>
      cases checks with
      | false => simpa using exists_normalizeText_iff
      | true => simpa using exists_email_normalizeText_iff
    | contains =>
      cases checks with
      | false => simpa using exists_occursIn _
      | true => simpa using exists_email_occursIn_iff
    | default => exact iff_of_true ⟨"a@b.c", fun _ => by decide, rfl⟩ rfl

end Route

/-- An answer takes some route exactly if there is one that it takes. -/
theorem exists_firstRoute?_iff {routes : List Route} {answer : String} :
    (∃ r, firstRoute? routes answer = some r) ↔ ∃ r ∈ routes, r.fires answer = true := by
  rw [← Option.isSome_iff_exists, firstRoute?, List.find?_isSome]

/-! ### Nodes -/

namespace Node

variable {n : Node}

/-- Whether some answer leads on from a node: a question needs a route that can be taken, any
other node a link. -/
def canLeadOn (n : Node) : Bool :=
  match n.body with
  | .question routes _ => routes.any (·.canFire n.checksEmail)
  | _ => (given n.next).isSome

theorem rejects_eq_false {answer : String} :
    n.rejects answer = false ↔ (n.checksEmail = true → checkEmail answer = none) := by
  rw [← Bool.not_eq_true, rejects_eq_true, not_and, not_not]

/-- No address is rejected. -/
theorem exists_rejects_eq_false (n : Node) : ∃ answer, n.rejects answer = false :=
  ⟨"a@b.c", rejects_eq_false.2 fun _ => by decide⟩

/-- If every route has a target, some answer that is not rejected has one exactly if `canLeadOn`
says so. -/
theorem exists_target_iff (hr : ∀ r ∈ n.routes, given r.next ≠ none) :
    (∃ answer target, n.rejects answer = false ∧ n.target? answer = some target) ↔
      n.canLeadOn = true := by
  obtain ⟨address, ha⟩ := n.exists_rejects_eq_false
  unfold canLeadOn target? next
  unfold routes at hr
  cases hb : n.body with
  | start next | message next | email _ _ _ next =>
    -- the link does not depend on the answer
    simp only [Option.isSome_iff_exists]
    exact ⟨fun ⟨_, target, _, ht⟩ => ⟨target, ht⟩, fun ⟨target, ht⟩ => ⟨address, target, ha, ht⟩⟩
  | ending => simp
  | question routes saveAs =>
    rw [hb] at hr
    simp only [List.any_eq_true, ← Route.exists_fires_iff, rejects_eq_false]
    constructor
    · rintro ⟨answer, target, hc, ht⟩
      obtain ⟨r, hfirst, -⟩ := Option.bind_eq_some_iff.1 ht
      have hfires := List.find?_some hfirst
      exact ⟨r, List.mem_of_find?_eq_some hfirst, answer, hc, hfires⟩
    · -- an earlier route may be taken instead, which has a target as well
      rintro ⟨r, hm, answer, hc, hfires⟩
      obtain ⟨first, hfirst⟩ := exists_firstRoute?_iff.2 ⟨r, hm, hfires⟩
      obtain ⟨target, ht⟩ :=
        Option.ne_none_iff_exists'.1 (hr first (List.mem_of_find?_eq_some hfirst))
      exact ⟨answer, target, hc, by rw [hfirst]; exact ht⟩

/-- A node that waits for an answer keeps it under a name or not at all. -/
theorem exists_capture?_of_waits (hk : n.kind = .question ∨ n.kind = .email) (answer : String) :
    ∃ captured, n.slot.capture? answer = some captured := by
  unfold kind at hk
  unfold slot
  cases hb : n.body with
  | question routes saveAs =>
    dsimp only [Slot.ofName?]
    cases given saveAs <;> exact ⟨_, rfl⟩
  | email => exact ⟨_, rfl⟩
  | _ => simp [hb, Body.kind] at hk

end Node

/-! ### Engines -/

/-- A flow that the audit has nothing to say about passes it. -/
theorem Flow.isValid_of_issues {f : Flow} (h : f.issues = []) : f.isValid = true := by
  simp [isValid, firstError?, h]

/-- A flow with two nodes that ask again whatever the answer is: a question with a route for an
answer with outer blanks, which are stripped, and an e-mail node without a link. -/
def Flow.trapped : Flow where
  enabled := true
  startNodeId := "ask"
  nodes := .ofList [
    ("ask", ⟨"ask", "Shall we write to you?", [" yes "],
      .question [⟨"equals", " yes ", "mail"⟩] none, .empty⟩),
    ("mail", ⟨"mail", "Your address?", [], .email true "email" none none, .empty⟩)]

namespace Engine

variable {e : Engine} {id : String} {n : Node}

/-- A node that waits for an answer does not ask again exactly if the answer leads on. -/
theorem exists_reply_iff (hn : e.flow.node? id = some n)
    (hk : n.kind = .question ∨ n.kind = .email) {c : Cursor} (hc : c.stepId = some id)
    {answer : Option String} :
    (∃ r, (e.process c answer).outcome = .ok r ∧ r.isReprompt = false) ↔
      ∃ target, n.rejects (answer.getD "") = false ∧ n.target? (answer.getD "") = some target := by
  have hi : e.flow.positionId? c.stepId = some id := by
    rw [Flow.positionId?, hc, given_some_of_ne (Flow.node?_eq_some.1 hn).1, Option.some_or]
  constructor
  · rintro ⟨r, hr, hre⟩
    obtain ⟨id', n', hi', hn', hr⟩ := process_eq_ok.1 hr
    cases hi.symm.trans hi'
    cases hn.symm.trans hn'
    rcases reply_eq_ok.1 hr with ⟨reason, text, options, -, rfl⟩ | ⟨target, captured, ha, ht, -⟩
    · cases hre
    · exact ⟨target, ha, ht⟩
  · rintro ⟨target, ha, ht⟩
    obtain ⟨captured, hs⟩ := Node.exists_capture?_of_waits hk (answer.getD "")
    exact ⟨_, process_eq_ok.2 ⟨id, n, hi, hn, reply_eq_ok.2 (.inr ⟨target, captured, ha, ht, hs,
      rfl⟩)⟩, rfl⟩

/-- **Where a conversation is not trapped.** In a flow that the audit has nothing to say about,
some answer to a node that waits for one is met with more than a further question exactly if the
node is a question with a route that can be taken, or an e-mail node with a link. -/
theorem exists_answer_iff (hf : e.flow.issues = []) (hn : e.flow.node? id = some n)
    (hk : n.kind = .question ∨ n.kind = .email) {c : Cursor} (hc : c.stepId = some id) :
    (∃ answer r, (e.process c answer).outcome = .ok r ∧ r.isReprompt = false) ↔
      n.canLeadOn = true := by
  have hsound : n.Sound e.flow := (Flow.isValid_iff.1 (Flow.isValid_of_issues hf)).2.2 (id, n)
    (Assoc.mem_toList_iff.2 (Flow.node?_eq_some.1 hn).2)
  rw [← Node.exists_target_iff fun r hr => (hsound.routes r hr).2]
  simp only [exists_reply_iff hn hk hc]
  exact ⟨fun ⟨answer, h⟩ => ⟨answer.getD "", h⟩, fun ⟨answer, h⟩ => ⟨some answer, h⟩⟩

/-- The theorem for the question of a flow that goes on after any answer, and for a question whose
only route waits for blanks that no answer has. -/
theorem exists_answer_iff_helpdesk :
    ((Flow.helpdesk "bye").issues = [] ∧
      ∃ answer r, ((⟨.helpdesk "bye", 20, rfl, by decide⟩ : Engine).process ⟨some "ask", .empty⟩
        answer).outcome = .ok r ∧ r.isReprompt = false) ∧
    Flow.trapped.issues = [] ∧
      ¬ ∃ answer r, ((⟨.trapped, 20, rfl, by decide⟩ : Engine).process ⟨some "ask", .empty⟩
        answer).outcome = .ok r ∧ r.isReprompt = false := by
  have hh : (Flow.helpdesk "bye").issues = [] := by decide +kernel
  have ht : Flow.trapped.issues = [] := by decide +kernel
  have hask : (Flow.helpdesk "bye").node? "ask" = some _ := rfl
  have hask' : Flow.trapped.node? "ask" = some _ := rfl
  refine ⟨⟨hh, ?_⟩, ht, ?_⟩
  · exact (exists_answer_iff (e := ⟨.helpdesk "bye", 20, rfl, by decide⟩) hh hask (.inl rfl)
      rfl).2 (by decide +kernel)
  · rw [exists_answer_iff (e := ⟨.trapped, 20, rfl, by decide⟩) ht hask' (.inl rfl) rfl]
    decide +kernel

/-- The audit has nothing to say about an e-mail node that asks again whatever the answer is. -/
theorem not_forall_exists_answer :
    ¬ ∀ (e : Engine) (id : String) (n : Node) (c : Cursor), e.flow.issues = [] →
      e.flow.node? id = some n → (n.kind = .question ∨ n.kind = .email) → c.stepId = some id →
        ∃ answer r, (e.process c answer).outcome = .ok r ∧ r.isReprompt = false := by
  intro h
  have hmail : Flow.trapped.node? "mail" = some _ := rfl
  obtain ⟨answer, hr⟩ := h ⟨.trapped, 20, rfl, by decide⟩ "mail" _ ⟨some "mail", .empty⟩
    (by decide +kernel) hmail (.inr rfl) rfl
  -- the node has no link to go on along
  obtain ⟨target, -, ht⟩ := (exists_reply_iff hmail (.inr rfl) rfl).1 hr
  cases ht

end Engine

end Dialogue
