import Dialogue.Proofs.Locality
import Dialogue.Proofs.Opening

/-!
# Beginning where an answer leads

An answer that leads to a node goes on as a conversation begins there: an engine of the same flow
that starts at this node says the same, pauses at the same place, and comes to an end as well or not.
Neither the node that was answered nor where the conversation was before makes a difference.

* `Flow.placeAt?`, `Flow.branch?`: the node that an answer is for, and where its branch leads;
* `Flow.startingAt`: a flow with another start;
* `Flow.answersAt_eq_ok`: a reply that does not ask again is the walk from where the branch leads;
* `Engine.advance_eq_openingAt`: from a node, such a walk is told like an opening;
* `Flow.begins_where_led`: the answer and the beginning compared.
-/

namespace Dialogue

namespace Flow

variable {f : Flow}

/-- The id of the node that an answer at a position is for. -/
def placeAt? (f : Flow) (p : Position) : Option String :=
  match p.cursor? with
  | .ok c => f.positionId? c.stepId
  | .error _ => none

/-- The id to which the branch leads that an answer at a position takes. -/
def branch? (f : Flow) (p : Position) (answer : Option String) : Option String :=
  ((f.placeAt? p).bind f.node?).bind fun n => n.target? (answer.getD "")

/-- A flow with another start. -/
def startingAt (f : Flow) (start : String) : Flow := { f with startNodeId := some start }

/-! ### Another start -/

@[simp] theorem walk_startingAt (start : String) (budget : Nat) (id : String) :
    (f.startingAt start).walk budget id = f.walk budget id := by
  have hsame : f.SameOn (f.startingAt start) fun _ => True :=
    ⟨fun _ _ => rfl, fun _ _ _ _ _ _ => trivial⟩
  exact (hsame.walk budget trivial).1

/-- A flow that names one of its nodes as the start begins there. -/
theorem entry_startingAt {start : String} (hne : start ≠ "")
    (h : f.nodes.contains start = true) : (f.startingAt start).entry = .designated start :=
  entry_eq_designated.2 ⟨rfl, hne, h⟩

/-- It opens as an engine of the flow itself would from there. -/
theorem begins_startingAt {maxSteps : Option Int} {e : Engine} {start : String}
    (hb : Engine.build f maxSteps = .ok e) (hne : start ≠ "")
    (h : f.nodes.contains start = true) :
    (f.startingAt start).begins maxSteps = .ok (e.openingAt start) := by
  -- the other flow has the same nodes, so its engine is built as well, with the same bound
  rcases build_cases (f := f) (g := f.startingAt start) rfl maxSteps with
    ⟨failure, hb₁, -⟩ | ⟨e₁, e', hb₁, hb', hf, hf', hm'⟩
  · cases hb.symm.trans hb₁
  · cases hb.symm.trans hb₁
    have hopening : e'.openingAt start = e.openingAt start := by
      rw [Engine.openingAt, Engine.openingAt, hf', hf, hm', walk_startingAt]
    unfold begins
    rw [hb']
    show e'.begin.outcome = _
    rw [Engine.begin_outcome, hf', entry_startingAt hne h]
    exact congrArg Except.ok hopening

/-! ### Replies that go on -/

/-- A reply that does not ask again is what the walk gives from where the branch leads. -/
theorem answersAt_eq_ok {maxSteps : Option Int} {p : Position} {answer : Option String} {r : Reply}
    (h : f.answersAt maxSteps p answer = .ok r) (hr : r.isReprompt = false) :
    ∃ e id t captured, Engine.build f maxSteps = .ok e ∧ f.placeAt? p = some id ∧
      f.branch? p answer = some t ∧ t ≠ "" ∧
        r = Engine.advance id (f.walk e.maxSteps t) captured := by
  unfold answersAt at h
  cases hb : Engine.build f maxSteps with
  | error failure =>
    rw [hb] at h
    cases h
  | ok e =>
    obtain rfl : e.flow = f := Engine.build_eq_ok hb
    rw [hb] at h
    have h : (e.processAt p answer).outcome = .ok r := h
    unfold Engine.processAt at h
    unfold branch? placeAt?
    cases hp : p.cursor? with
    | error failure =>
      rw [hp] at h
      cases h
    | ok c =>
      rw [hp] at h
      obtain ⟨id, n, hi, hn, hreply⟩ := Engine.process_eq_ok.1 h
      rcases Engine.reply_eq_ok.1 hreply with
        ⟨reason, text, options, -, rfl⟩ | ⟨t, captured, -, ht, -, rfl⟩
      · cases hr
      · have hbranch : ((e.flow.positionId? c.stepId).bind e.flow.node?).bind
            (fun n => n.target? (answer.getD "")) = some t := by
          rw [hi, Option.bind_some, hn, Option.bind_some, ht]
        exact ⟨e, id, t, captured, rfl, hi, hbranch,
          Node.ne_empty_of_mem_links (Node.mem_links_of_target? ht), rfl⟩

end Flow

/-- A walk from a node is told in a reply as it is told in an opening: the node passed last is never
the one before the walk. -/
theorem Engine.advance_eq_openingAt {e : Engine} {t : String} (h : e.flow.node? t ≠ none)
    (id : String) (captured : Assoc String String) :
    let r := advance id (e.flow.walk e.maxSteps t) captured
    e.openingAt t = ⟨r.messages, r.nextStepId, r.isComplete⟩ := by
  obtain ⟨last, n, hlast⟩ := Flow.exists_walk_last e.positive h
  dsimp only [openingAt, advance]
  rw [Walk.lastId_of_getLast? hlast, Walk.lastId_of_getLast? hlast]

namespace Flow

variable {f : Flow}

/-- **To be led to a node is to begin there.** A reply that does not ask again comes of a branch that
leads to some id. If the id names a node, then the flow that starts there begins, under the same
bound, with the messages of the reply, pauses where the reply does, and has ended if the reply has
ended the flow. If it names none, the reply says nothing and ends the flow at the node that was
answered. -/
theorem begins_where_led {maxSteps : Option Int} {p : Position} {answer : Option String}
    {r : Reply} (h : f.answersAt maxSteps p answer = .ok r) (hr : r.isReprompt = false) :
    ∃ t, f.branch? p answer = some t ∧
      (f.nodes.contains t = true →
        (f.startingAt t).begins maxSteps = .ok ⟨r.messages, r.nextStepId, r.isComplete⟩) ∧
      (f.nodes.contains t = false →
        r.messages = [] ∧ r.nextStepId = f.placeAt? p ∧ r.isComplete = true) := by
  obtain ⟨e, id, t, captured, hb, hplace, hbranch, hne, rfl⟩ := answersAt_eq_ok h hr
  obtain rfl : e.flow = f := Engine.build_eq_ok hb
  refine ⟨t, hbranch, fun hstored => ?_, fun hmissing => ?_⟩
  · have hnode : e.flow.node? t ≠ none := by
      rw [Ne, node?_eq_none_of_given (given_some_of_ne hne), hstored]
      simp
    rw [begins_startingAt hb hne hstored, Engine.advance_eq_openingAt hnode id captured]
  · have hnone : e.flow.node? t = none :=
      (node?_eq_none_of_given (given_some_of_ne hne)).2 hmissing
    obtain ⟨budget, hbudget⟩ := Nat.exists_eq_add_one_of_ne_zero e.positive.ne'
    have hwalk : e.flow.walk e.maxSteps t = ⟨[], .missing t⟩ := by
      rw [hbudget, walk_of_missing hne hnone]
    rw [hwalk, hplace]
    exact ⟨rfl, rfl, rfl⟩

/-- The theorem for a walk that comes round to the node that was answered, and for one that the bound
cuts off. -/
theorem begins_where_led_carousel :
    let f := helpdesk "hello"
    let round := carousel.answersAt none (.cursor ⟨some "tick", .empty⟩) "Go on."
    let cut := f.answersAt (some 1) (.cursor ⟨some "ask", .empty⟩) "no"
    (∃ r, round = .ok r ∧ r.isReprompt = false ∧ r.nextStepId = some "tick" ∧
      (carousel.startingAt "tock").begins none = .ok ⟨r.messages, r.nextStepId, r.isComplete⟩) ∧
    ∃ r, cut = .ok r ∧ r.isReprompt = false ∧ r.messages.length = 1 ∧
      (f.startingAt "hello").begins (some 1) = .ok ⟨r.messages, r.nextStepId, r.isComplete⟩ := by
  intro f round cut
  constructor
  · have hround : round = .ok _ := rfl
    obtain ⟨t, ht, hbegins, -⟩ := begins_where_led hround rfl
    have htock : carousel.branch? (.cursor ⟨some "tick", .empty⟩) "Go on." = some "tock" := by
      decide +kernel
    cases htock.symm.trans ht
    exact ⟨_, hround, rfl, by decide +kernel, hbegins (by decide +kernel)⟩
  · have hcut : cut = .ok _ := rfl
    obtain ⟨t, ht, hbegins, -⟩ := begins_where_led hcut rfl
    have hhello : f.branch? (.cursor ⟨some "ask", .empty⟩) "no" = some "hello" := by
      decide +kernel
    cases hhello.symm.trans ht
    exact ⟨_, hcut, rfl, by decide +kernel, hbegins (by decide +kernel)⟩

end Flow

end Dialogue
