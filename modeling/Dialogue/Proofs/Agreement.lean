import Dialogue.Engine.Position
import Dialogue.Proofs.Record
import Dialogue.Proofs.Reply
import Mathlib.Data.Option.Basic

/-!
# Flows that agree

What an engine gives depends only on the nodes that a conversation can reach.

* `Node.Alike`: two nodes that say the same and lead on alike;
* `Flow.AgreesOn`: two flows whose nodes are alike under a set of ids that no link leaves;
* `Flow.AgreesOn.walkFrom`: from such an id both flows are walked alike;
* `Engine.begin_outcome`, `Engine.process_outcome`: the outcomes of an engine, by its flow;
* `Engine.openingAt_agrees`, `Engine.outcomeAt_agrees`: engines of two such flows open alike, and
  they reply alike to an answer of which both nodes make the same;
* `Flow.enters`, `Flow.begins`, `Flow.answers`, `Flow.answersAt`: the outcomes of the engine of a
  flow;
* `Flow.mapNodes`: a flow with its nodes replaced, which begins and answers as before if the new
  nodes are like the old ones and make the same of the answer.
-/

namespace Dialogue

/-- Two nodes that say the same and lead on alike. -/
structure Node.Alike (n n' : Node) : Prop where
  kind : n'.kind = n.kind
  text : n'.text = n.text
  options : n'.options = n.options
  onward : n'.onward = n.onward

theorem Node.Alike.message {n n' : Node} (h : n.Alike n') : n'.message = n.message := by
  rw [Node.message, Node.message, h.kind, h.text, h.options]

/-- Two walks that pass the same ids, say the same and stop for the same reason. -/
structure Walk.Alike (w w' : Walk) : Prop where
  ids : w'.path.map Prod.fst = w.path.map Prod.fst
  messages : w'.messages = w.messages
  stop : w'.stop = w.stop

namespace Walk.Alike

variable {w w' : Walk}

theorem lastId (h : w.Alike w') (before : Option String) : w'.lastId before = w.lastId before := by
  rw [Walk.lastId, Walk.lastId, ← List.getLast?_map, ← List.getLast?_map, h.ids]

theorem isComplete (h : w.Alike w') : w'.isComplete = w.isComplete := by
  rw [Walk.isComplete, Walk.isComplete, h.stop]

theorem advance (h : w.Alike w') (id : String) (captured : Assoc String String) :
    Engine.advance id w' captured = Engine.advance id w captured := by
  rw [Engine.advance, Engine.advance, h.lastId, h.messages, h.isComplete]

end Walk.Alike

/-- Two flows agree on a set of ids: the ids are those of like nodes, or of none, and no link of
the first flow leaves the set. -/
structure Flow.AgreesOn (f g : Flow) (S : String → Prop) : Prop where
  nodes : ∀ id, S id → Option.Rel Node.Alike (f.node? id) (g.node? id)
  links : ∀ id n, S id → f.node? id = some n → ∀ t ∈ n.links, S t

namespace Flow.AgreesOn

variable {f g : Flow} {S : String → Prop}

theorem node?_eq_none (h : f.AgreesOn g S) {id : String} (hid : S id) (hm : f.node? id = none) :
    g.node? id = none := by
  have hr := h.nodes id hid
  rw [hm] at hr
  generalize g.node? id = m at hr ⊢
  cases hr
  rfl

theorem node?_eq_some (h : f.AgreesOn g S) {id : String} {n : Node} (hid : S id)
    (hn : f.node? id = some n) : ∃ n', g.node? id = some n' ∧ n.Alike n' := by
  have hr := h.nodes id hid
  rw [hn] at hr
  generalize g.node? id = m at hr ⊢
  cases hr with
  | some ha => exact ⟨_, rfl, ha⟩

/-- From a link into the set both flows are walked alike. -/
theorem walkFrom (h : f.AgreesOn g S) (budget : Nat) (seen : List String) {link : Option String}
    (hl : ∀ t, link = some t → S t) :
    (f.walkFrom budget seen link).Alike (g.walkFrom budget seen link) := by
  -- by induction on the walk in `f`, whose links stay in the set
  fun_induction f.walkFrom budget seen link with
  | case1 budget seen => cases budget <;> exact ⟨rfl, rfl, rfl⟩
  | case2 => exact ⟨rfl, rfl, rfl⟩
  | case3 budget seen id hs =>
    rw [Flow.walkFrom, if_pos hs]
    exact ⟨rfl, rfl, rfl⟩
  | case4 budget seen id hs hm =>
    rw [Flow.walkFrom, if_neg hs, h.node?_eq_none (hl id rfl) hm]
    exact ⟨rfl, rfl, rfl⟩
  -- the same node in both flows stops the walk, or leads on alike
  | case5 budget seen id hs n hn stop ho =>
    obtain ⟨n', hn', ha⟩ := h.node?_eq_some (hl id rfl) hn
    have hw : g.walkFrom (budget + 1) seen (some id) = ⟨[(id, n')], stop⟩ := by
      rw [Flow.walkFrom, if_neg hs, hn']
      simp only [ha.onward, ho]
    rw [hw]
    exact ⟨rfl, by simp [Walk.messages, ha.message], rfl⟩
  | case6 budget seen id hs n hn next ho rest ih =>
    obtain ⟨n', hn', ha⟩ := h.node?_eq_some (hl id rfl) hn
    have hrest := ih fun t ht => h.links id n (hl id rfl) hn t (Node.mem_links_of_onward (ht ▸ ho))
    have hw : g.walkFrom (budget + 1) seen (some id) =
        ⟨(id, n') :: (g.walkFrom budget (id :: seen) next).path,
          (g.walkFrom budget (id :: seen) next).stop⟩ := by
      rw [Flow.walkFrom, if_neg hs, hn']
      simp only [ha.onward, ho]
    rw [hw]
    refine ⟨?_, ?_, hrest.stop⟩
    · rw [List.map_cons, List.map_cons, hrest.ids]
    · rw [Walk.messages, Walk.messages, List.map_cons, List.map_cons, ha.message]
      exact congrArg _ hrest.messages

theorem walk (h : f.AgreesOn g S) (budget : Nat) {id : String} (hid : id ≠ "" → S id) :
    (f.walk budget id).Alike (g.walk budget id) := by
  refine h.walkFrom budget [] fun t ht => ?_
  obtain ⟨he, ht⟩ := given_eq_some.1 ht
  cases he
  exact hid ht

end Flow.AgreesOn

namespace Engine

variable {e e' : Engine} {S : String → Prop}

/-! ### Outcomes -/

theorem begin_outcome (e : Engine) :
    e.begin.outcome =
      match e.flow.entry.id? with
      | some id => .ok (e.openingAt id)
      | none => .error (.noStartNode e.flow.startNodeId) := by
  cases hi : e.flow.entry.id? with
  | some id => exact begin_eq_ok.2 ⟨id, hi, rfl⟩
  | none => exact begin_eq_error.2 ⟨Flow.entry_id?_eq_none.1 hi, rfl⟩

/-- The outcome of an answer to a node. -/
def outcomeAt (e : Engine) (id : String) (answer : String) : Except Failure Reply :=
  match e.flow.node? id with
  | some n => (e.reply id n answer).outcome
  | none => .error (.nodeNotFound id)

theorem process_outcome (e : Engine) (c : Cursor) (answer : Option String) :
    (e.process c answer).outcome =
      match e.flow.positionId? c.stepId with
      | some id => e.outcomeAt id (answer.getD "")
      | none => .error (.noStartNode e.flow.startNodeId) := by
  cases hi : e.flow.positionId? c.stepId with
  | none => exact process_eq_error.2 (.inl ⟨hi, rfl⟩)
  | some id =>
    dsimp only [outcomeAt]
    cases hn : e.flow.node? id with
    | none => exact process_eq_error.2 (.inr ⟨id, hi, .inl ⟨hn, rfl⟩⟩)
    | some n =>
      dsimp only
      cases hr : (e.reply id n (answer.getD "")).outcome with
      | ok r => exact process_eq_ok.2 ⟨id, n, hi, hn, hr⟩
      | error failure =>
        exact process_eq_error.2 (.inr ⟨id, hi, .inr ⟨n, hn, reply_eq_error.1 hr⟩⟩)

/-! ### Engines of flows that agree -/

theorem openingAt_agrees (hb : e'.maxSteps = e.maxSteps) (h : e.flow.AgreesOn e'.flow S)
    {id : String} (hid : id ≠ "" → S id) : e'.openingAt id = e.openingAt id := by
  have hw := h.walk e.maxSteps hid
  dsimp only [openingAt]
  rw [hb, hw.messages, hw.lastId, hw.isComplete]

/-- Two nodes reply alike to an answer of which both make the same. -/
theorem reply_agrees (hb : e'.maxSteps = e.maxSteps) (h : e.flow.AgreesOn e'.flow S)
    {id answer : String} {n n' : Node} (hk : n'.kind = n.kind)
    (hr : n'.respond answer = n.respond answer) (ht : ∀ t, n.target? answer = some t → S t) :
    (e'.reply id n' answer).outcome = (e.reply id n answer).outcome := by
  unfold reply
  rw [hr, hk]
  cases hresp : n.respond answer with
  | again | noText | badText => rfl
  | onward target slot =>
    have hw := h.walk e.maxSteps fun _ => ht target (Node.respond_eq_onward.1 hresp).2.1
    have ha := hw.advance id
    dsimp only [goOn]
    cases slot <;> simp [hb, ha]

/-- An answer at an id has the same outcome for engines of flows that agree, if both nodes make
the same of it. -/
theorem outcomeAt_agrees (hb : e'.maxSteps = e.maxSteps) (h : e.flow.AgreesOn e'.flow S)
    {id answer : String} (hid : id ≠ "" → S id)
    (hr : ∀ n n', e.flow.node? id = some n → e'.flow.node? id = some n' →
      n'.respond answer = n.respond answer) :
    e'.outcomeAt id answer = e.outcomeAt id answer := by
  unfold outcomeAt
  cases hn : e.flow.node? id with
  | none =>
    have hn' : e'.flow.node? id = none := by
      by_cases he : id = ""
      · exact if_pos he
      · exact h.node?_eq_none (hid he) hn
    rw [hn']
  | some n =>
    have hS : S id := hid (Flow.node?_eq_some.1 hn).1
    obtain ⟨n', hn', ha⟩ := h.node?_eq_some hS hn
    rw [hn']
    exact reply_agrees hb h ha.kind (hr n n' hn hn') fun t ht =>
      h.links id n hS hn t (Node.mem_links_of_target? ht)

end Engine

namespace Flow

variable {f g : Flow}

/-! ### Outcomes by the flow -/

/-- The outcome of looking for the start with the engine of a flow. -/
def enters (f : Flow) (maxSteps : Option Int) : Except Failure String :=
  (Engine.build f maxSteps).bind fun e => e.entryId.outcome

/-- The outcome of an opening with the engine of a flow. -/
def begins (f : Flow) (maxSteps : Option Int) : Except Failure Opening :=
  (Engine.build f maxSteps).bind fun e => e.begin.outcome

/-- The outcome of an answer with the engine of a flow. -/
def answers (f : Flow) (maxSteps : Option Int) (c : Cursor) (answer : Option String) :
    Except Failure Reply :=
  (Engine.build f maxSteps).bind fun e => (e.process c answer).outcome

/-- The outcome of an answer at a position with the engine of a flow. -/
def answersAt (f : Flow) (maxSteps : Option Int) (p : Position) (answer : Option String) :
    Except Failure Reply :=
  (Engine.build f maxSteps).bind fun e => (e.processAt p answer).outcome

theorem answersAt_of_cursor? {p : Position} {c : Cursor} (hp : p.cursor? = .ok c)
    (maxSteps : Option Int) (answer : Option String) :
    f.answersAt maxSteps p answer = f.answers maxSteps c answer := by
  unfold answersAt answers Engine.processAt
  rw [hp]

/-- Of two flows that both have nodes or both have none, either both engines are built, with the
same bound, or neither is, for the same reason. -/
theorem build_cases (hn : g.nodes.isEmpty = f.nodes.isEmpty) (maxSteps : Option Int) :
    (∃ failure, Engine.build f maxSteps = .error failure ∧
      Engine.build g maxSteps = .error failure) ∨
    ∃ e e' : Engine, Engine.build f maxSteps = .ok e ∧ Engine.build g maxSteps = .ok e' ∧
      e.flow = f ∧ e'.flow = g ∧ e'.maxSteps = e.maxSteps := by
  by_cases he : f.nodes.isEmpty = false
  · by_cases hp : 0 < (maxSteps.getD Engine.defaultMaxSteps).toNat
    · refine .inr ⟨⟨f, _, he, hp⟩, ⟨g, _, hn.trans he, hp⟩, ?_, ?_, rfl, rfl, rfl⟩
      · simp [Engine.build, he, hp]
      · simp [Engine.build, hn.trans he, hp]
    · refine .inl ⟨.stepBound, ?_, ?_⟩
      · simp [Engine.build, he, hp]
      · simp [Engine.build, hn.trans he, hp]
  · refine .inl ⟨.noNodes, ?_, ?_⟩
    · simp [Engine.build, he]
    · simp [Engine.build, hn, he]

/-! ### Flows whose nodes are replaced -/

/-- The flow with every node replaced. -/
def mapNodes (r : Node → Node) (f : Flow) : Flow :=
  ⟨f.enabled, f.startNodeId, f.nodes.mapValues r⟩

variable {r : Node → Node}

theorem node?_mapNodes (r : Node → Node) (f : Flow) (id : String) :
    (f.mapNodes r).node? id = (f.node? id).map r := by
  unfold node? mapNodes
  split_ifs
  · rfl
  · exact Assoc.get?_mapValues _ _ _

theorem isEmpty_mapNodes (r : Node → Node) (f : Flow) :
    (f.mapNodes r).nodes.isEmpty = f.nodes.isEmpty := by
  simp [mapNodes, Assoc.isEmpty]

theorem contains_mapNodes (r : Node → Node) (f : Flow) (id : String) :
    (f.mapNodes r).nodes.contains id = f.nodes.contains id := by
  simp [mapNodes, Assoc.contains]

theorem mapNodes_eq_self_iff {r : Node → Node} :
    f.mapNodes r = f ↔ ∀ e ∈ f.nodes.toList, r e.2 = e.2 := by
  have hl : f.mapNodes r = f ↔ (f.nodes.toList.map fun e => (e.1, r e.2)) = f.nodes.toList := by
    obtain ⟨enabled, startNodeId, nodes⟩ := f
    simp [mapNodes, Assoc.ext_iff]
  have hid : f.nodes.toList = f.nodes.toList.map id := (List.map_id _).symm
  rw [hl]
  conv_lhs => rhs; rw [hid]
  rw [List.map_inj_left]
  simp [Prod.ext_iff]

theorem entry_mapNodes (hk : ∀ n, (r n).kind = n.kind) : (f.mapNodes r).entry = f.entry := by
  -- an entry is found by the keys and the kinds of the nodes, which stay
  have hd : (f.mapNodes r).designated? = f.designated? := by
    have hc : (f.mapNodes r).nodes.contains = f.nodes.contains := funext (contains_mapNodes r f)
    unfold designated?
    rw [hc]
    rfl
  have hs : (f.mapNodes r).firstStart? = f.firstStart? := by
    simp [firstStart?, mapNodes, List.find?_map, Function.comp_def, hk]
  rw [entry, entry, hd, hs]

theorem agreesOn_mapNodes (hr : ∀ n : Node, n.Alike (r n)) :
    f.AgreesOn (f.mapNodes r) fun _ => True := by
  refine ⟨fun id _ => ?_, fun _ _ _ _ _ _ => trivial⟩
  rw [node?_mapNodes]
  cases f.node? id with
  | none => exact .none
  | some n => exact .some (hr n)

/-- Either the engines of a flow and of the flow with its nodes replaced are both built, and
agree, or neither is. -/
theorem build_mapNodes_cases (hr : ∀ n : Node, n.Alike (r n)) (f : Flow) (maxSteps : Option Int) :
    (∃ failure, Engine.build f maxSteps = .error failure ∧
      Engine.build (f.mapNodes r) maxSteps = .error failure) ∨
    ∃ e e' : Engine, Engine.build f maxSteps = .ok e ∧
      Engine.build (f.mapNodes r) maxSteps = .ok e' ∧ e.flow = f ∧ e'.flow = e.flow.mapNodes r ∧
        e'.maxSteps = e.maxSteps ∧ e.flow.AgreesOn e'.flow fun _ => True := by
  rcases build_cases (isEmpty_mapNodes r f) maxSteps with h | ⟨e, e', hb, hb', rfl, he', hm⟩
  · exact .inl h
  · exact .inr ⟨e, e', hb, hb', rfl, he', hm, he' ▸ agreesOn_mapNodes hr⟩

theorem enters_mapNodes (hr : ∀ n : Node, n.Alike (r n)) (f : Flow) (maxSteps : Option Int) :
    (f.mapNodes r).enters maxSteps = f.enters maxSteps := by
  unfold enters
  rcases build_mapNodes_cases hr f maxSteps with
    ⟨failure, hb, hb'⟩ | ⟨e, e', hb, hb', rfl, he', -, -⟩
  · rw [hb, hb']
  · rw [hb, hb']
    show e'.entryId.outcome = e.entryId.outcome
    rw [Engine.entryId, Engine.entryId, he', entry_mapNodes fun n => (hr n).kind]
    cases e.flow.entry <;> rfl

theorem begins_mapNodes (hr : ∀ n : Node, n.Alike (r n)) (f : Flow) (maxSteps : Option Int) :
    (f.mapNodes r).begins maxSteps = f.begins maxSteps := by
  unfold begins
  rcases build_mapNodes_cases hr f maxSteps with
    ⟨failure, hb, hb'⟩ | ⟨e, e', hb, hb', rfl, he', hm, ha⟩
  · rw [hb, hb']
  · rw [hb, hb']
    show e'.begin.outcome = e.begin.outcome
    rw [Engine.begin_outcome, Engine.begin_outcome, he', entry_mapNodes fun n => (hr n).kind]
    cases e.flow.entry.id? with
    | none => rfl
    | some id => exact congrArg _ (Engine.openingAt_agrees hm ha fun _ => trivial)

/-- An answer of which no node makes anything else than the node that replaces it has the outcome
that it had. -/
theorem answers_mapNodes (hr : ∀ n : Node, n.Alike (r n)) {answer : Option String}
    (h : ∀ id n, f.node? id = some n →
      (r n).respond (answer.getD "") = n.respond (answer.getD ""))
    (maxSteps : Option Int) (c : Cursor) :
    (f.mapNodes r).answers maxSteps c answer = f.answers maxSteps c answer := by
  unfold answers
  rcases build_mapNodes_cases hr f maxSteps with
    ⟨failure, hb, hb'⟩ | ⟨e, e', hb, hb', rfl, he', hm, ha⟩
  · rw [hb, hb']
  · rw [hb, hb']
    show (e'.process c answer).outcome = (e.process c answer).outcome
    rw [Engine.process_outcome, Engine.process_outcome, positionId?, positionId?, he',
      entry_mapNodes fun n => (hr n).kind]
    cases (given c.stepId).or e.flow.entry.id? with
    | none => rfl
    | some id =>
      refine Engine.outcomeAt_agrees hm ha (fun _ => trivial) fun n n' hn hn' => ?_
      rw [he', node?_mapNodes, hn] at hn'
      cases hn'
      exact h id n hn

theorem answersAt_mapNodes (hr : ∀ n : Node, n.Alike (r n)) {answer : Option String}
    (h : ∀ id n, f.node? id = some n →
      (r n).respond (answer.getD "") = n.respond (answer.getD ""))
    (maxSteps : Option Int) (p : Position) :
    (f.mapNodes r).answersAt maxSteps p answer = f.answersAt maxSteps p answer := by
  cases hp : p.cursor? with
  | ok c => rw [answersAt_of_cursor? hp, answersAt_of_cursor? hp, answers_mapNodes hr h]
  | error failure =>
    -- the position is looked at after the engine is built
    unfold answersAt Engine.processAt
    rw [hp]
    rcases build_mapNodes_cases hr f maxSteps with ⟨_, hb, hb'⟩ | ⟨_, _, hb, hb', -⟩
    · rw [hb, hb']
    · rw [hb, hb']
      rfl

end Flow

end Dialogue
