import Dialogue.Proofs.Agreement
import Dialogue.Proofs.Failing
import Dialogue.Proofs.StartFindings
import Dialogue.Proofs.Trail

/-!
# The start node in an opening

A conversation opens with the node at which it starts, and an answer that is given at no place is
for this node. There is one exception: the search for a start node also finds a node under the empty
id, which is no place of a conversation.

* `Flow.entry_eq_fallback_of_empty`: only the search for a start node leads to the empty id;
* `Engine.ShowsStart`: an opening begins with a node, and answers without a place are for it;
* `Engine.showsStart_of_node?`, `Engine.begin_of_empty`, `Engine.processAt_of_empty`: what comes of
  a start node with an id, and of one without;
* `Engine.showsStart_iff`: a conversation opens with its start node exactly if the id of this node
  is not empty;
* `Engine.not_forall_showsStart`: the exception is real.
-/

namespace Dialogue

/-- A flow whose start node stands under the empty id. -/
def Flow.nameless : Flow where
  enabled := true
  startNodeId := none
  nodes := .ofList [
    ("", ⟨"", "Hello!", [], .start "bye", .empty⟩),
    ("bye", ⟨"bye", "Goodbye.", [], .ending, .empty⟩)]

/-- A start that the flow names is not the empty id, so that only the search for a start node leads
there. -/
theorem Flow.entry_eq_fallback_of_empty {f : Flow} (h : f.entry.id? = some "") :
    f.entry = .fallback "" := by
  cases he : f.entry with
  | designated id =>
    rw [he] at h
    cases h
    exact absurd rfl (entry_eq_designated.1 he).2.1
  | fallback id =>
    rw [he] at h
    cases h
    rfl
  | unresolved =>
    rw [he] at h
    cases h

/-- A walk from a node begins with the message of this node. -/
theorem Flow.head?_messages_walk {f : Flow} {budget : Nat} {start : String} {n : Node}
    (hb : 0 < budget) (hn : f.node? start = some n) :
    (f.walk budget start).messages.head? = some n.message := by
  obtain ⟨b, rfl⟩ := Nat.exists_eq_add_of_lt hb
  rw [Nat.zero_add, Walk.messages, Flow.walk, given_some_of_ne (Flow.node?_eq_some.1 hn).1,
    Flow.walkFrom_path_of_node? List.not_mem_nil hn]
  rfl

namespace Engine

variable {e : Engine} {s : String}

/-- An opening begins with the node stored under an id, and pauses at a node of the flow. Answers
that are given at no place are for that node, and so never lack one. -/
structure ShowsStart (e : Engine) (s : String) : Prop where
  opens : ∃ n x, e.flow.nodes.get? s = some n ∧ e.begin.outcome = .ok x ∧
    x.messages.head? = some ⟨n.text, n.options, some n.kind.name⟩ ∧
    ∃ id, x.stepId = some id ∧ e.flow.nodes.contains id = true
  answers : ∀ p c, p.cursor? = .ok c → given c.stepId = none → ∀ answer,
    (∃ n, e.flow.nodes.get? s = some n ∧
      (e.processAt p answer).outcome = (e.reply s n (answer.getD "")).outcome) ∧
    ∀ id, (e.processAt p answer).outcome ≠ .error (.nodeNotFound id)

/-! ### Answers without a place -/

/-- An answer that is given at no place is for the node at which a conversation starts. -/
theorem processAt_outcome_of_nowhere (hs : e.flow.entry.id? = some s) {p : Position} {c : Cursor}
    (hp : p.cursor? = .ok c) (hc : given c.stepId = none) (answer : Option String) :
    (e.processAt p answer).outcome = e.outcomeAt s (answer.getD "") := by
  have hi : e.flow.positionId? c.stepId = some s := by
    rw [Flow.positionId?, hc, hs]
    rfl
  unfold processAt
  rw [hp]
  show (e.process c answer).outcome = _
  rw [process_outcome, hi]

/-- The reply of a node never lacks a node. -/
theorem reply_ne_nodeNotFound {n : Node} (id answer id' : String) :
    (e.reply id n answer).outcome ≠ .error (.nodeNotFound id') := by
  intro h
  exact (reply_eq_error.1 h).nodeId?_eq_none.2 id' rfl

/-! ### Start nodes with an id and without -/

theorem showsStart_of_node? (hs : e.flow.entry.id? = some s) {n : Node}
    (hn : e.flow.node? s = some n) : e.ShowsStart s := by
  have hget : e.flow.nodes.get? s = some n := (Flow.node?_eq_some.1 hn).2
  constructor
  · obtain ⟨id, n', hlast⟩ := Flow.exists_walk_last (f := e.flow) e.positive (by rw [hn]; simp)
    have hcontains : e.flow.nodes.contains id = true := by
      rw [Assoc.contains, (Flow.node?_eq_some.1 (Flow.walk_last hlast).1).2]
      rfl
    exact ⟨n, e.openingAt s, hget, begin_eq_ok.2 ⟨s, hs, rfl⟩,
      Flow.head?_messages_walk e.positive hn, id, Walk.lastId_of_getLast? hlast none, hcontains⟩
  · intro p c hp hc answer
    have hx : (e.processAt p answer).outcome = (e.reply s n (answer.getD "")).outcome := by
      rw [processAt_outcome_of_nowhere hs hp hc, outcomeAt, hn]
    refine ⟨⟨n, hget, hx⟩, fun id => ?_⟩
    rw [hx]
    exact reply_ne_nodeNotFound s _ id

theorem begin_of_empty (hs : e.flow.entry.id? = some "") :
    e.begin.outcome = .ok ⟨[], none, true⟩ := by
  refine begin_eq_ok.2 ⟨"", hs, ?_⟩
  dsimp only [openingAt]
  rw [Flow.walk_empty]
  rfl

theorem processAt_of_empty (hs : e.flow.entry.id? = some "") {p : Position} {c : Cursor}
    (hp : p.cursor? = .ok c) (hc : given c.stepId = none) (answer : Option String) :
    (e.processAt p answer).outcome = .error (.nodeNotFound "") :=
  processAt_outcome_of_nowhere hs hp hc answer

/-- **A conversation opens with its start node if this has an id.** Let the start of a flow resolve
to an id. Then the opening begins with the node stored under it and pauses at a node of the flow,
and answers that are given at no place are for this node, exactly if the id is not empty. The empty
id is resolved only by the search for a start node. With it the opening says nothing, is nowhere and
has ended the flow, and every answer that is given at no place fails for want of a node. -/
theorem showsStart_iff (hs : e.entryId.outcome = .ok s) :
    (e.ShowsStart s ↔ s ≠ "") ∧
    (s = "" → e.flow.entry = .fallback "" ∧ e.begin.outcome = .ok ⟨[], none, true⟩ ∧
      ∀ p c, p.cursor? = .ok c → given c.stepId = none → ∀ answer,
        (e.processAt p answer).outcome = .error (.nodeNotFound "")) := by
  have hs : e.flow.entry.id? = some s := entryId_eq_ok.1 hs
  constructor
  · constructor
    · rintro h rfl
      obtain ⟨n, x, -, hx, hhead, -⟩ := h.opens
      cases (begin_of_empty hs).symm.trans hx
      cases hhead
    · intro hne
      have hn : e.flow.node? s ≠ none := (Flow.entry_id?_eq_some hs).resolve_left hne
      obtain ⟨n, hn⟩ := Option.ne_none_iff_exists'.1 hn
      exact showsStart_of_node? hs hn
  · rintro rfl
    exact ⟨Flow.entry_eq_fallback_of_empty hs, begin_of_empty hs,
      fun p c hp hc => processAt_of_empty hs hp hc⟩

/-- The theorem for a flow that names a start it does not have, and so starts at its start node, and
for a flow whose start node has no id. -/
theorem showsStart_iff_carousel :
    let e : Engine := ⟨{ Flow.carousel with startNodeId := "moved" }, 20, rfl, by decide⟩
    let e' : Engine := ⟨.nameless, 20, rfl, by decide⟩
    e.entryId.outcome = .ok "hello" ∧ e.ShowsStart "hello" ∧
    e'.entryId.outcome = .ok "" ∧ ¬e'.ShowsStart "" ∧ e'.begin.outcome = .ok ⟨[], none, true⟩ ∧
    ∀ p c, p.cursor? = .ok c → given c.stepId = none → ∀ answer,
      (e'.processAt p answer).outcome = .error (.nodeNotFound "") := by
  intro e e'
  have hs : e.entryId.outcome = .ok "hello" := by decide +kernel
  have hs' : e'.entryId.outcome = .ok "" := by decide +kernel
  obtain ⟨-, hbegin, hanswers⟩ := (showsStart_iff hs').2 rfl
  exact ⟨hs, (showsStart_iff hs).1.2 (by decide), hs', fun h => (showsStart_iff hs').1.1 h rfl,
    hbegin, hanswers⟩

/-- It is not so that a conversation opens with its start node whenever the start resolves. -/
theorem not_forall_showsStart :
    ¬∀ (e : Engine) (s : String), e.entryId.outcome = .ok s → e.ShowsStart s := by
  intro h
  let e : Engine := ⟨.nameless, 20, rfl, by decide⟩
  obtain ⟨n, x, -, hx, hhead, -⟩ := (h e "" (by decide +kernel)).opens
  have hbegin : e.begin.outcome = .ok ⟨[], none, true⟩ := by decide +kernel
  cases hbegin.symm.trans hx
  cases hhead

end Engine

end Dialogue
