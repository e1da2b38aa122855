import Dialogue.Proofs.Trail

/-!
# When a walk reports the end of the flow

A walk that comes to an end node, or to a node that links to no other, has come to the end of the
flow. It reports so, but for one case: at the bound on steps a link is not looked up any more, and
so one that leads nowhere is not told from one that leads on.

* `Flow.FinishesAt`: the nodes where a flow is at its end;
* `Flow.isComplete_walk_iff`: what a walk reports, by the node before its stop;
* `Engine.completes_iff`: a walk reports the end exactly at such a node, except at the bound before
  a link that leads nowhere;
* `Engine.not_completes_iff_finishesAt`: the exception is real.
-/

namespace Dialogue

/-- A node where a flow is at its end: an end node, or a start or message node whose link is absent
or names no node. -/
def Flow.FinishesAt (f : Flow) (n : Node) : Prop :=
  n.kind = .ending ∨ n.IsLink ∧ ∀ t, given n.next = some t → f.node? t = none

/-- A message with a link that leads nowhere. -/
def Flow.signpost : Flow where
  enabled := true
  startNodeId := "hello"
  nodes := .ofList [("hello", ⟨"hello", "Hello!", [], .message "gone", .empty⟩)]

theorem Node.given_next_of_ending {n : Node} (h : n.kind = .ending) : given n.next = none := by
  unfold kind at h
  unfold next
  cases hb : n.body <;> simp_all [Body.kind]

/-- A walk reports the end of the flow exactly where the flow is at its end, if there the link is
absent, or is looked up before the bound is met. -/
theorem Flow.isComplete_walk_iff {f : Flow} {budget : Nat} {start id : String} {n : Node}
    (hl : (f.walk budget start).path.getLast? = some (id, n)) :
    (f.walk budget start).isComplete = true ↔
      f.FinishesAt n ∧ (given n.next = none ∨ (f.walk budget start).path.length < budget) := by
  have hstops := (f.walk_last hl).2
  have hfits := f.walk_stopFits budget start
  have hending : n.IsLink → n.kind ≠ .ending := by
    intro hlink hk
    simp [Node.IsLink, hk] at hlink
  unfold Walk.isComplete
  cases hs : (f.walk budget start).stop with
  | ended =>
    rw [hs] at hstops
    have hk : n.kind = .ending := Node.onward_eq_ended.1 hstops
    simp [FinishesAt, hk, Node.given_next_of_ending hk]
  | deadEnd =>
    rw [hs] at hstops
    obtain ⟨hlink, hnext⟩ := Node.onward_eq_inr.1 hstops
    simp [FinishesAt, hlink, hnext]
  | missing t =>
    rw [hs] at hstops hfits
    obtain ⟨hlink, hnext⟩ := Node.onward_eq_inr.1 hstops.1
    have hlength : (f.walk budget start).path.length < budget := hfits
    simp [FinishesAt, hlink, hnext, hstops.2, hlength]
  | waiting =>
    rw [hs] at hstops
    have hlink := Node.not_isLink_of_onward hstops
    have hk : n.kind ≠ .ending := by
      rcases Node.onward_eq_waiting.1 hstops with hk | hk <;> simp [hk]
    simp [FinishesAt, hlink, hk]
  | repeated t =>
    rw [hs] at hstops hfits
    obtain ⟨hlink, hnext⟩ := Node.onward_eq_inr.1 hstops
    -- the link leads back to a node that was passed
    have hnode : f.node? t ≠ none := by
      rcases hfits with hm | hm
      · cases hm
      · obtain ⟨x, hx, rfl⟩ := List.mem_map.1 hm
        simp [(f.trailFrom_walk budget start).stored x hx]
    simp [FinishesAt, hending hlink, hnext, hnode]
  | bounded t =>
    rw [hs] at hstops hfits
    obtain ⟨hlink, hnext⟩ := Node.onward_eq_inr.1 hstops
    have hlength : (f.walk budget start).path.length = budget := hfits
    simp [hnext, hlength]

namespace Engine

variable {start : String}

/-- **When a walk reports the end of the flow.** A walk from a node reports the end exactly if the
last node that it passes is one where the flow is at its end, and this has no link, or is not the
last one that the bound allows. So the opening and every reply report. -/
theorem completes_iff (e : Engine) (hs : e.flow.node? start ≠ none) :
    let w := e.flow.walk e.maxSteps start
    ∃ id n, w.path.getLast? = some (id, n) ∧
      (w.isComplete = true ↔
        e.flow.FinishesAt n ∧ (given n.next = none ∨ w.path.length < e.maxSteps)) ∧
      ∀ messages stepId isComplete, e.Reports start messages stepId isComplete →
        messages = w.messages ∧ stepId = some id ∧ isComplete = w.isComplete := by
  intro w
  obtain ⟨id, n, hlast⟩ := Flow.exists_walk_last e.positive hs
  refine ⟨id, n, hlast, Flow.isComplete_walk_iff hlast, ?_⟩
  intro messages stepId isComplete h
  obtain ⟨rfl, rfl, before, rfl⟩ := h.eq_walk
  exact ⟨rfl, Walk.lastId_of_getLast? hlast before, rfl⟩

/-- The theorem for a message with a link that leads nowhere, at a bound of one node: the end is not
reported, while it is at a bound of two. -/
theorem completes_iff_signpost :
    let e : Engine := ⟨.signpost, 1, rfl, by decide⟩
    let w := e.flow.walk e.maxSteps "hello"
    e.flow.node? "hello" ≠ none ∧ w.isComplete = false ∧
    (e.flow.walk 2 "hello").isComplete = true ∧
    ∃ id n, w.path.getLast? = some (id, n) ∧
      (w.isComplete = true ↔
        e.flow.FinishesAt n ∧ (given n.next = none ∨ w.path.length < e.maxSteps)) ∧
      ∀ messages stepId isComplete, e.Reports "hello" messages stepId isComplete →
        messages = w.messages ∧ stepId = some id ∧ isComplete = w.isComplete := by
  intro e w
  have hs : e.flow.node? "hello" ≠ none := by decide +kernel
  exact ⟨hs, by decide +kernel, by decide +kernel, completes_iff e hs⟩

/-- It is not so that a walk reports the end wherever the flow is at its end: at the bound it does
not if there is a link, though it leads nowhere. -/
theorem not_completes_iff_finishesAt :
    ¬∀ (e : Engine) (start : String), e.flow.node? start ≠ none →
      ∀ messages stepId isComplete, e.Reports start messages stepId isComplete →
        ∃ id n, stepId = some id ∧ e.flow.node? id = some n ∧
          (isComplete = true ↔ e.flow.FinishesAt n) := by
  intro h
  let e : Engine := ⟨.signpost, 1, rfl, by decide⟩
  have hbegin : e.begin.outcome = .ok (e.openingAt "hello") :=
    begin_eq_ok.2 ⟨"hello", by decide +kernel, rfl⟩
  obtain ⟨id, n, hid, hn, hiff⟩ :=
    h e "hello" (by decide +kernel) _ _ _ (.opening (by decide +kernel) hbegin)
  have hstep : (e.openingAt "hello").stepId = some "hello" := by decide +kernel
  cases hstep.symm.trans hid
  have hends : e.flow.FinishesAt n := by
    cases hn
    exact .inr ⟨.inr rfl, fun t ht => by cases ht; decide +kernel⟩
  have hopen : (e.openingAt "hello").isComplete = false := by decide +kernel
  cases hopen.symm.trans (hiff.2 hends)

end Engine

end Dialogue
