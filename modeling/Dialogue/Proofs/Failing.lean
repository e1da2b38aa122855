import Dialogue.Proofs.Reply

/-!
# When an answer fails

An answer is replied to, unless there is no node that it is for, or unless the node holds entries
that no author is meant to write.

* `Flow.IsAt`: the node that an answer at a cursor is for;
* `Node.RefusesByEntry`: the answers that a node refuses because of a further entry;
* `Node.TakesByLink`: the answers that a start or message node takes;
* `Node.breaks_noErrorMessage`, `Node.breaks_message`, `Node.breaks_compoundKey`,
  `Node.breaks_reply`: for which entries each failure of a node comes about;
* `Engine.process_fails_iff`: each failure of an answer, and the conditions under which it comes
  about; there are no others.
-/

namespace Dialogue

/-- The node that an answer at a cursor is for. -/
def Flow.IsAt (f : Flow) (c : Cursor) (n : Node) : Prop :=
  ∃ id, f.positionId? c.stepId = some id ∧ f.node? id = some n

namespace Node

variable {n : Node} {answer : String}

/-- An answer that a node refuses though it is no e-mail node: a further entry asks for an address,
and the answer is none. -/
structure RefusesByEntry (n : Node) (answer : String) : Prop where
  kind : n.kind ≠ .email
  asks : n.extras.get? "validation" = some (.str "email")
  fails : checkEmail answer ≠ none

/-- An answer that a start or message node takes: it has a link, and if a further entry asks for an
address then the answer is one. -/
structure TakesByLink (n : Node) (answer : String) : Prop where
  link : n.IsLink
  next : given n.next ≠ none
  passes : n.extras.get? "validation" = some (.str "email") → checkEmail answer = none

theorem takesByLink_iff :
    n.TakesByLink answer ↔ n.IsLink ∧ given n.next ≠ none ∧ n.rejects answer = false := by
  constructor
  · rintro ⟨hlink, hnext, hpasses⟩
    refine ⟨hlink, hnext, ?_⟩
    rw [← Bool.not_eq_true, rejects_eq_true, checksEmail_of_ne hlink.ne.2]
    exact fun h => h.2 (hpasses h.1)
  · rintro ⟨hlink, hnext, hrejects⟩
    refine ⟨hlink, hnext, fun hasks => ?_⟩
    rw [← Bool.not_eq_true, rejects_eq_true, checksEmail_of_ne hlink.ne.2, not_and, not_not]
      at hrejects
    exact hrejects hasks

/-! ### The failures of a node -/

theorem breaks_noErrorMessage {kind : NodeKind} :
    n.Breaks answer (.noErrorMessage kind) ↔
      n.RefusesByEntry answer ∧ n.extras.get? "error_message" = none ∧ kind = n.kind := by
  constructor
  · rintro ⟨hk, hv, ha, hm⟩
    exact ⟨⟨hk, hv, ha⟩, hm, rfl⟩
  · rintro ⟨⟨hk, hv, ha⟩, hm, rfl⟩
    exact .noText hk hv ha hm

theorem breaks_message {p : Problem} {ps : List Problem} :
    n.Breaks answer (.malformed .message p ps) ↔
      n.RefusesByEntry answer ∧ (∃ j, n.extras.get? "error_message" = some j ∧
        j.truthy = true ∧ ∀ s, j ≠ .str s) ∧ p = ⟨[.key "text"], .notString⟩ ∧ ps = [] := by
  constructor
  · intro h
    cases h with
    | badText hk hv ha hm ht hj => exact ⟨⟨hk, hv, ha⟩, ⟨_, hm, ht, hj⟩, rfl, rfl⟩
  · rintro ⟨⟨hk, hv, ha⟩, ⟨j, hm, ht, hj⟩, rfl, rfl⟩
    exact .badText hk hv ha hm ht hj

theorem breaks_compoundKey {isList : Bool} :
    n.Breaks answer (.compoundKey isList) ↔
      n.TakesByLink answer ∧ ∃ j, n.extras.get? "save_as" = some j ∧ j.truthy = true ∧
        j.IsCompound isList := by
  rw [takesByLink_iff]
  constructor
  · intro h
    cases h with
    | compoundKey hk hn ha hs ht hj => exact ⟨⟨hk, hn, ha⟩, _, hs, ht, hj⟩
  · rintro ⟨⟨hk, hn, ha⟩, j, hs, ht, hj⟩
    exact .compoundKey hk hn ha hs ht hj

theorem breaks_reply {p : Problem} {ps : List Problem} :
    n.Breaks answer (.malformed .reply p ps) ↔
      n.TakesByLink answer ∧ ∃ j, n.extras.get? "save_as" = some j ∧ j.truthy = true ∧
        j.IsScalar ∧
          p = ⟨[.key "captured_data", Engine.keyStep j, .key "[key]"], .notString⟩ ∧ ps = [] := by
  rw [takesByLink_iff]
  constructor
  · intro h
    generalize hf : Failure.malformed .reply p ps = failure at h
    cases h with
    | badKey hk hn ha hs ht hj =>
      cases hf
      exact ⟨⟨hk, hn, ha⟩, _, hs, ht, hj, rfl, rfl⟩
    | _ => cases hf
  · rintro ⟨⟨hk, hn, ha⟩, j, hs, ht, hj, rfl, rfl⟩
    exact .badKey hk hn ha hs ht hj

/-- No failure of a node is for want of a node. -/
theorem Breaks.nodeId?_eq_none {failure : Failure} (h : n.Breaks answer failure) :
    (∀ id, failure ≠ .noStartNode id) ∧ ∀ id, failure ≠ .nodeNotFound id := by
  cases h <;> simp [Engine.badKey]

end Node

/-! ### The failures of an answer -/

namespace Engine

variable {e : Engine} {c : Cursor} {answer : Option String}

theorem process_eq_noStartNode {id : Option String} :
    (e.process c answer).outcome = .error (.noStartNode id) ↔
      given c.stepId = none ∧ e.flow.entry = .unresolved ∧ id = e.flow.startNodeId := by
  rw [process_eq_error, Flow.positionId?_eq_none]
  constructor
  · rintro (⟨⟨hc, hs⟩, hid⟩ | ⟨_, -, ⟨-, ⟨⟩⟩ | ⟨n, -, hb⟩⟩)
    · exact ⟨hc, hs, Failure.noStartNode.inj hid⟩
    · exact absurd rfl (hb.nodeId?_eq_none.1 id)
  · rintro ⟨hc, hs, rfl⟩
    exact .inl ⟨⟨hc, hs⟩, rfl⟩

theorem process_eq_nodeNotFound {id : String} :
    (e.process c answer).outcome = .error (.nodeNotFound id) ↔
      e.flow.positionId? c.stepId = some id ∧ e.flow.node? id = none := by
  rw [process_eq_error]
  constructor
  · rintro (⟨-, ⟨⟩⟩ | ⟨id', hi, ⟨hn, hid⟩ | ⟨n, -, hb⟩⟩)
    · cases hid
      exact ⟨hi, hn⟩
    · exact absurd rfl (hb.nodeId?_eq_none.2 id)
  · rintro ⟨hi, hn⟩
    exact .inr ⟨id, hi, .inl ⟨hn, rfl⟩⟩

/-- Every other failure is one of the node that the answer is for. -/
theorem process_eq_error_of_ne {failure : Failure} (hs : ∀ id, failure ≠ .noStartNode id)
    (hl : ∀ id, failure ≠ .nodeNotFound id) :
    (e.process c answer).outcome = .error failure ↔
      ∃ n, e.flow.IsAt c n ∧ n.Breaks (answer.getD "") failure := by
  rw [process_eq_error]
  constructor
  · rintro (⟨-, hf⟩ | ⟨id, hi, ⟨-, hf⟩ | ⟨n, hn, hb⟩⟩)
    · exact absurd hf (hs _)
    · exact absurd hf (hl _)
    · exact ⟨n, ⟨id, hi, hn⟩, hb⟩
  · rintro ⟨n, ⟨id, hi, hn⟩, hb⟩
    exact .inr ⟨id, hi, .inr ⟨n, hn, hb⟩⟩

/-- **When an answer fails.** An answer has no start to be for exactly if it is given at no place
and the flow resolves no start, and its place is lost exactly if no node is there. Else it is for a
node, and fails for want of a text exactly if the node refuses it by a further entry and has none,
or has one that is no string; and for its key exactly if a start or message node takes it and is to
keep it under a list or an object, or under a number or a truth value. Every other answer is
replied to. -/
theorem process_fails_iff (e : Engine) (c : Cursor) (answer : Option String) :
    let x := (e.process c answer).outcome
    let text := answer.getD ""
    (∀ id, x = .error (.noStartNode id) ↔
      given c.stepId = none ∧ e.flow.entry = .unresolved ∧ id = e.flow.startNodeId) ∧
    (∀ id, x = .error (.nodeNotFound id) ↔
      e.flow.positionId? c.stepId = some id ∧ e.flow.node? id = none) ∧
    (∀ kind, x = .error (.noErrorMessage kind) ↔ ∃ n, e.flow.IsAt c n ∧
      n.RefusesByEntry text ∧ n.extras.get? "error_message" = none ∧ kind = n.kind) ∧
    (∀ p ps, x = .error (.malformed .message p ps) ↔ ∃ n, e.flow.IsAt c n ∧
      n.RefusesByEntry text ∧
        (∃ j, n.extras.get? "error_message" = some j ∧ j.truthy = true ∧ ∀ s, j ≠ .str s) ∧
          p = ⟨[.key "text"], .notString⟩ ∧ ps = []) ∧
    (∀ isList, x = .error (.compoundKey isList) ↔ ∃ n, e.flow.IsAt c n ∧
      n.TakesByLink text ∧
        ∃ j, n.extras.get? "save_as" = some j ∧ j.truthy = true ∧ j.IsCompound isList) ∧
    (∀ p ps, x = .error (.malformed .reply p ps) ↔ ∃ n, e.flow.IsAt c n ∧
      n.TakesByLink text ∧
        ∃ j, n.extras.get? "save_as" = some j ∧ j.truthy = true ∧ j.IsScalar ∧
          p = ⟨[.key "captured_data", keyStep j, .key "[key]"], .notString⟩ ∧ ps = []) ∧
    ((∃ r, x = .ok r) ∨ (∃ id, x = .error (.noStartNode id)) ∨
      (∃ id, x = .error (.nodeNotFound id)) ∨ (∃ kind, x = .error (.noErrorMessage kind)) ∨
      (∃ p ps, x = .error (.malformed .message p ps)) ∨
      (∃ isList, x = .error (.compoundKey isList)) ∨
      ∃ p ps, x = .error (.malformed .reply p ps)) := by
  intro x text
  refine ⟨fun id => process_eq_noStartNode, fun id => process_eq_nodeNotFound, fun kind => ?_,
    fun p ps => ?_, fun isList => ?_, fun p ps => ?_, ?_⟩
  · rw [process_eq_error_of_ne (by simp) (by simp)]
    simp only [Node.breaks_noErrorMessage, text]
  · rw [process_eq_error_of_ne (by simp) (by simp)]
    simp only [Node.breaks_message, text]
  · rw [process_eq_error_of_ne (by simp) (by simp)]
    simp only [Node.breaks_compoundKey, text]
  · rw [process_eq_error_of_ne (by simp) (by simp)]
    simp only [Node.breaks_reply, text]
  · cases hx : x with
    | ok r => exact .inl ⟨r, rfl⟩
    | error failure =>
      rcases process_eq_error.1 hx with ⟨-, rfl⟩ | ⟨id, -, ⟨-, rfl⟩ | ⟨n, -, hb⟩⟩
      · simp
      · simp
      · cases hb <;> simp [badKey]

end Engine

end Dialogue
