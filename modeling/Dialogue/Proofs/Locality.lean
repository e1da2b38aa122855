import Dialogue.Engine.Conversation
import Dialogue.Proofs.Rest

/-!
# The part of a flow that a conversation can reach

A conversation depends on no more of a flow than the nodes that it can reach.

* `Flow.SameOn`: two flows with the same nodes under a set of ids that no link leaves;
* `Flow.SameOn.walkFrom`: from a link into the set both flows are walked the same way, and the
  walk stays in the set;
* `Within`: a step id that is given and in the set;
* `Engine.process_sameOn`, `Engine.within_process`: at such an id the engines of both flows reply
  the same, and lead on to such an id;
* `Conversation.run_sameOn`: hence a whole conversation is the same with both flows.
-/

namespace Dialogue

/-- Two flows are the same on a set of ids: under each of the ids both have the same node, or
none, and no link of such a node leaves the set. -/
structure Flow.SameOn (f g : Flow) (S : String → Prop) : Prop where
  nodes : ∀ id, S id → g.node? id = f.node? id
  links : ∀ id n, S id → f.node? id = some n → ∀ t ∈ n.links, S t

/-- A step id that is given, and in a set of ids. -/
def Within (S : String → Prop) (stepId : Option String) : Prop :=
  ∃ id, given stepId = some id ∧ S id

theorem within_some {S : String → Prop} {id : String} :
    Within S (some id) ↔ id ≠ "" ∧ S id := by
  constructor
  · rintro ⟨t, ht, hS⟩
    obtain ⟨he, hne⟩ := given_eq_some.1 ht
    cases he
    exact ⟨hne, hS⟩
  · rintro ⟨hne, hS⟩
    exact ⟨id, given_some_of_ne hne, hS⟩

/-! ### Walks -/

namespace Flow.SameOn

variable {f g : Flow} {S : String → Prop}

/-- From a link into the set both flows are walked the same way, and the walk stays in the set. -/
theorem walkFrom (h : f.SameOn g S) (budget : Nat) (seen : List String) {link : Option String}
    (hl : ∀ t, link = some t → S t) :
    g.walkFrom budget seen link = f.walkFrom budget seen link ∧
      ∀ x ∈ (f.walkFrom budget seen link).path, Within S (some x.1) := by
  -- by induction on the walk in `f`: each id that it looks up is in the set
  fun_induction f.walkFrom budget seen link with
  | case1 budget seen => cases budget <;> simp [Flow.walkFrom]
  | case2 => simp [Flow.walkFrom]
  | case3 budget seen id hs =>
    rw [Flow.walkFrom, if_pos hs]
    simp
  | case4 budget seen id hs hm =>
    rw [Flow.walkFrom, if_neg hs, h.nodes id (hl id rfl), hm]
    simp
  | case5 budget seen id hs n hn stop ho =>
    have hid : Within S (some id) := within_some.2 ⟨(node?_eq_some.1 hn).1, hl id rfl⟩
    rw [Flow.walkFrom, if_neg hs, h.nodes id (hl id rfl), hn]
    simp [ho, hid]
  | case6 budget seen id hs n hn next ho rest ih =>
    have hid : Within S (some id) := within_some.2 ⟨(node?_eq_some.1 hn).1, hl id rfl⟩
    obtain ⟨hrest, hpath⟩ :=
      ih fun t ht => h.links id n (hl id rfl) hn t (Node.mem_links_of_onward (ht ▸ ho))
    constructor
    · rw [Flow.walkFrom, if_neg hs, h.nodes id (hl id rfl), hn]
      simp only [ho, hrest, rest]
    · exact List.forall_mem_cons.2 ⟨hid, hpath⟩

theorem walk (h : f.SameOn g S) (budget : Nat) {id : String} (hid : S id) :
    g.walk budget id = f.walk budget id ∧
      ∀ x ∈ (f.walk budget id).path, Within S (some x.1) := by
  apply h.walkFrom
  intro t ht
  obtain ⟨he, -⟩ := given_eq_some.1 ht
  cases he
  exact hid

end Flow.SameOn

/-- A walk that stays in a set, from an id of the set, pauses there. -/
theorem Walk.within_lastId {S : String → Prop} {w : Walk} {before : Option String}
    (hw : ∀ x ∈ w.path, Within S (some x.1)) (hb : Within S before) :
    Within S (w.lastId before) := by
  unfold lastId
  cases hl : w.path.getLast? with
  | none => exact hb
  | some x => exact hw x (List.mem_of_getLast? hl)

/-! ### Replies -/

namespace Engine

variable {e e' : Engine} {S : String → Prop} {id answer : String} {c : Cursor}
  {text : Option String}

theorem goOn_sameOn (hb : e'.maxSteps = e.maxSteps) (h : e.flow.SameOn e'.flow S)
    {target : String} (ht : S target) (slot : Slot) :
    e'.goOn id target slot answer = e.goOn id target slot answer := by
  unfold goOn advanceEvents
  rw [hb, (h.walk e.maxSteps ht).1]

/-- A node whose links are in the set replies the same in both flows. -/
theorem reply_sameOn (hb : e'.maxSteps = e.maxSteps) (h : e.flow.SameOn e'.flow S) {n : Node}
    (hn : ∀ t ∈ n.links, S t) : e'.reply id n answer = e.reply id n answer := by
  unfold reply
  cases hr : n.respond answer with
  | again | noText | badText => rfl
  | onward target slot =>
    have ht : S target := hn target (Node.mem_links_of_target? (Node.respond_eq_onward.1 hr).2.1)
    exact goOn_sameOn hb h ht slot

/-- At an id of the set both flows reply the same. -/
theorem process_sameOn (hb : e'.maxSteps = e.maxSteps) (h : e.flow.SameOn e'.flow S)
    (hc : Within S c.stepId) : e'.process c text = e.process c text := by
  obtain ⟨id, hg, hid⟩ := hc
  unfold process positionId nodeAt
  rw [hg]
  -- the position is the id, with neither flow asked for its start
  simp only [Traced.bind_ok, h.nodes id hid]
  cases hn : e.flow.node? id with
  | none => rfl
  | some n =>
    simp only [Traced.bind_ok]
    rw [reply_sameOn hb h (h.links id n hid hn)]

/-- A reply at an id of the set leads on to an id of the set. -/
theorem within_process {g : Flow} (h : e.flow.SameOn g S) (hc : Within S c.stepId) {r : Reply}
    (hr : (e.process c text).outcome = .ok r) : Within S r.nextStepId := by
  obtain ⟨id, hg, hid⟩ := hc
  obtain ⟨id', n, hi, hn, hr⟩ := process_eq_ok.1 hr
  rw [Flow.positionId?, hg] at hi
  cases hi
  have hsome : Within S (some id) := within_some.2 ⟨given_ne_empty hg, hid⟩
  rcases reply_eq_ok.1 hr with
    ⟨reason, text, options, -, rfl⟩ | ⟨target, captured, -, ht, -, rfl⟩
  · exact hsome
  · have htarget : S target := h.links id n hid hn target (Node.mem_links_of_target? ht)
    exact Walk.within_lastId (h.walk e.maxSteps htarget).2 hsome

end Engine

/-! ### Conversations -/

/-- A position at an id of a set. -/
def Position.Within (S : String → Prop) (p : Position) : Prop :=
  ∃ c, p.cursor? = .ok c ∧ Dialogue.Within S c.stepId

/-- What the user says next. -/
def Ask.say (text : Option String) : Ask := ⟨none, .answer text⟩

namespace Conversation

variable {e e' : Engine} {S : String → Prop} {p : Position}

@[simp] theorem run_cons (e : Engine) (p : Position) (a : Ask) (asks : List Ask) :
    run e p (a :: asks) = (step e p a).1 :: run e (step e p a).2 asks := rfl

theorem step_say (e : Engine) (p : Position) (text : Option String) :
    step e p (.say text) =
      (answerAt e p (.answer text),
        match (answerAt e p (.answer text)).outcome with
        | .ok (_, c) => .cursor c
        | .error _ => p) := by
  unfold step
  show (match (answerAt e p (.answer text)).outcome with
    | .ok (_, c) => (answerAt e p (.answer text), Position.cursor c)
    | .error _ => (answerAt e p (.answer text), p)) = _
  cases (answerAt e p (.answer text)).outcome <;> rfl

theorem answerAt_eq_ok {text : Option String} {x : Answered × Cursor} :
    (answerAt e p (.answer text)).outcome = .ok x ↔
      ∃ r, (e.processAt p text).outcome = .ok r ∧ x = (.reply r, afterReply p r) := by
  rw [answerAt, Traced.bind_outcome_eq_ok]
  simp [eq_comm]

/-- One step of a conversation at an id of the set is the same with both flows, and leads on to an
id of the set. -/
theorem step_sameOn (hb : e'.maxSteps = e.maxSteps) (h : e.flow.SameOn e'.flow S)
    (hp : p.Within S) (text : Option String) :
    step e' p (.say text) = step e p (.say text) ∧ (step e p (.say text)).2.Within S ∧
      ∀ a c, (step e p (.say text)).1.outcome = .ok (a, c) →
        ∃ r, a = .reply r ∧ Within S r.nextStepId := by
  obtain ⟨c, hc, hin⟩ := hp
  have hat : ∀ e : Engine, e.processAt p text = e.process c text := by
    intro e
    rw [Engine.processAt, hc]
  have hsame : answerAt e' p (.answer text) = answerAt e p (.answer text) := by
    rw [answerAt, answerAt, hat, hat, Engine.process_sameOn hb h hin]
  have hreply : ∀ a c', (answerAt e p (.answer text)).outcome = .ok (a, c') →
      ∃ r, a = .reply r ∧ c' = afterReply p r ∧ Within S r.nextStepId := by
    intro a c' ho
    obtain ⟨r, hr, hx⟩ := answerAt_eq_ok.1 ho
    cases hx
    rw [hat] at hr
    exact ⟨r, rfl, rfl, Engine.within_process h hin hr⟩
  rw [step_say, step_say, hsame]
  refine ⟨rfl, ?_, ?_⟩
  · cases ho : (answerAt e p (.answer text)).outcome with
    | ok x =>
      obtain ⟨r, -, hx, hr⟩ := hreply x.1 x.2 ho
      exact ⟨x.2, rfl, hx ▸ hr⟩
    | error failure => exact ⟨c, hc, hin⟩
  · intro a c' ho
    obtain ⟨r, ha, -, hr⟩ := hreply a c' ho
    exact ⟨r, ha, hr⟩

/-- **A conversation depends only on the part of a flow that it can reach.** Of two engines with
the same bound, let the flows be the same on a set of ids that no link leaves. Then every
conversation that is held at an id of the set goes the same with both: each answer has the same
outcome and the same log, and each reply leads on to an id of the set. -/
theorem run_sameOn (hb : e'.maxSteps = e.maxSteps) (h : e.flow.SameOn e'.flow S)
    (hp : p.Within S) (texts : List (Option String)) :
    run e' p (texts.map .say) = run e p (texts.map .say) ∧
      ∀ x ∈ run e p (texts.map .say), ∀ a c, x.outcome = .ok (a, c) →
        ∃ r, a = .reply r ∧ Within S r.nextStepId := by
  -- by induction on the answers, where each step leaves the conversation in the set
  induction texts generalizing p with
  | nil => simp [run]
  | cons text texts ih =>
    obtain ⟨hstep, hnext, hreply⟩ := step_sameOn hb h hp text
    obtain ⟨hrun, hall⟩ := ih hnext
    rw [List.map_cons, run_cons, run_cons, hstep, hrun]
    exact ⟨rfl, List.forall_mem_cons.2 ⟨hreply, hall⟩⟩

/-- The theorem for two flows that part at a node from which an e-mail node leads away: at that
node an answer is refused, and another one is taken. -/
theorem run_sameOn_helpdesk :
    let e : Engine := ⟨.helpdesk "bye", 20, rfl, by decide⟩
    let e' : Engine := ⟨.helpdesk "gone", 20, rfl, by decide⟩
    let S : String → Prop := fun id => id = "mail" ∨ id = "bye"
    let p : Position := .cursor ⟨"mail", .empty⟩
    let texts : List (Option String) := ["no address", "a@b.co"]
    e'.maxSteps = e.maxSteps ∧ e.flow.SameOn e'.flow S ∧ p.Within S ∧ e.flow ≠ e'.flow ∧
    run e' p (texts.map .say) = run e p (texts.map .say) ∧
      ∀ x ∈ run e p (texts.map .say), ∀ a c, x.outcome = .ok (a, c) →
        ∃ r, a = .reply r ∧ Within S r.nextStepId := by
  intro e e' S p texts
  have h : e.flow.SameOn e'.flow S := by
    constructor
    · rintro id (rfl | rfl) <;> decide +kernel
    · rintro id n (rfl | rfl) hn <;> cases hn <;> simp [Node.links, given, S]
  have hb : e'.maxSteps = e.maxSteps := rfl
  have hp : p.Within S := ⟨_, rfl, "mail", by decide, .inl rfl⟩
  exact ⟨hb, h, hp, by decide +kernel, run_sameOn hb h hp texts⟩

end Conversation

end Dialogue
