import Dialogue.Proofs.Agreement
import Dialogue.Proofs.Rest
import Mathlib.Data.List.Nodup
import Mathlib.Logic.Equiv.Basic

/-!
# Other names for the nodes

An id tells one node from another, and nothing else. If all ids of a flow are replaced, so that
different ids stay different and the empty id stays empty, then the flow says the same, keeps the same,
and stands at the renamed node wherever it stood before.

* `Renaming`: a map of ids;
* `Flow.rename`, `Walk.rename`, `Opening.rename`, `Reply.rename`, `Failure.rename`: where ids stand,
  in a flow and in what comes of it;
* `Node.onward_rename`, `Node.respond_rename`: what follows a node, and what it makes of an answer;
* `Flow.walkFrom_rename`, `Flow.entry_rename`: walks and entries of a renamed flow;
* `Engine.begin_rename`, `Engine.process_rename`: the outcomes of an engine;
* `Flow.begins_answers_rename`: both for the engine of a flow, under every bound.
-/

namespace Dialogue

/-- A map of ids that keeps different ids apart and leaves the empty one empty. -/
structure Renaming where
  toFun : String → String
  injective : Function.Injective toFun
  empty : toFun "" = ""

instance : CoeFun Renaming fun _ => String → String := ⟨Renaming.toFun⟩

namespace Renaming

theorem eq_empty_iff (r : Renaming) {id : String} : r id = "" ↔ id = "" := by
  constructor
  · intro h
    exact r.injective (h.trans r.empty.symm)
  · rintro rfl
    exact r.empty

/-- Two given ids exchanged. -/
def swap (a b : String) (ha : a ≠ "") (hb : b ≠ "") : Renaming where
  toFun := Equiv.swap a b
  injective := (Equiv.swap a b).injective
  empty := Equiv.swap_apply_of_ne_of_ne ha.symm hb.symm

end Renaming

theorem given_map_rename (r : Renaming) (s : Option String) :
    given (s.map r) = (given s).map r := by
  cases s with
  | none => rfl
  | some id =>
    by_cases h : id = ""
    · subst h
      rw [Option.map_some, r.empty]
      rfl
    · have hr : r id ≠ "" := fun he => h (r.eq_empty_iff.1 he)
      rw [Option.map_some, given_some_of_ne h, given_some_of_ne hr]
      rfl

/-! ### Tables with other keys -/

namespace Assoc

variable {κ ι α : Type}

/-- The table with every key replaced. -/
def mapKeys (g : κ → ι) (hg : Function.Injective g) (t : Assoc κ α) : Assoc ι α :=
  ⟨t.toList.map fun e => (g e.1, e.2), by
    have h : ((t.toList.map Prod.fst).map g).Nodup := List.Nodup.map hg t.nodup
    rw [List.map_map] at h ⊢
    exact h⟩

theorem lookup_map_fst [DecidableEq κ] [DecidableEq ι] {g : κ → ι} (hg : Function.Injective g)
    (l : List (κ × α)) (k : κ) : (l.map fun e => (g e.1, e.2)).lookup (g k) = l.lookup k := by
  induction l with
  | nil => rfl
  | cons e r ih =>
    obtain ⟨k', v⟩ := e
    simp only [List.map_cons, lookup_cons_eq, ih, hg.eq_iff]

@[simp] theorem get?_mapKeys [DecidableEq κ] [DecidableEq ι] {g : κ → ι}
    (hg : Function.Injective g) (t : Assoc κ α) (k : κ) :
    (t.mapKeys g hg).get? (g k) = t.get? k := lookup_map_fst hg t.toList k

end Assoc

/-! ### Where ids stand -/

/-- A route with its target renamed. -/
def Route.rename (r : Renaming) (x : Route) : Route := { x with next := x.next.map r }

/-- A body with its links renamed. -/
def Body.rename (r : Renaming) : Body → Body
  | .start next => .start (next.map r)
  | .message next => .message (next.map r)
  | .question routes saveAs => .question (routes.map (Route.rename r)) saveAs
  | .email validates saveAs errorMessage next => .email validates saveAs errorMessage (next.map r)
  | .ending => .ending

/-- A node with its id and its links renamed. -/
def Node.rename (r : Renaming) (n : Node) : Node := { n with id := r n.id, body := n.body.rename r }

/-- A flow with its start, the keys of its nodes and the nodes renamed. -/
def Flow.rename (r : Renaming) (f : Flow) : Flow where
  enabled := f.enabled
  startNodeId := f.startNodeId.map r
  nodes := (f.nodes.mapKeys r r.injective).mapValues (Node.rename r)

/-- An entry with its id renamed. -/
def Entry.rename (r : Renaming) : Entry → Entry
  | .designated id => .designated (r id)
  | .fallback id => .fallback (r id)
  | .unresolved => .unresolved

/-- A stop with its id renamed. -/
def Stop.rename (r : Renaming) : Stop → Stop
  | .waiting => .waiting
  | .ended => .ended
  | .deadEnd => .deadEnd
  | .missing id => .missing (r id)
  | .repeated id => .repeated (r id)
  | .bounded id => .bounded (r id)

/-- A walk with its nodes and its stop renamed. -/
def Walk.rename (r : Renaming) (w : Walk) : Walk :=
  ⟨w.path.map fun x => (r x.1, x.2.rename r), w.stop.rename r⟩

/-- A response with its target renamed. -/
def Response.rename (r : Renaming) : Response → Response
  | .again reason text options => .again reason text options
  | .noText => .noText
  | .badText => .badText
  | .onward target slot => .onward (r target) slot

/-- A cursor at the renamed node. -/
def Cursor.rename (r : Renaming) (c : Cursor) : Cursor := { c with stepId := c.stepId.map r }

/-- An opening that pauses at the renamed node. -/
def Opening.rename (r : Renaming) (x : Opening) : Opening := { x with stepId := x.stepId.map r }

/-- A reply that leads to the renamed node. -/
def Reply.rename (r : Renaming) (x : Reply) : Reply :=
  { x with nextStepId := x.nextStepId.map r }

/-- A failure with the node that it is about renamed. -/
def Failure.rename (r : Renaming) : Failure → Failure
  | .noStartNode id => .noStartNode (id.map r)
  | .nodeNotFound id => .nodeNotFound (r id)
  | failure => failure

/-! ### Nodes -/

namespace Node

variable (r : Renaming) (n : Node) (answer : String)

@[simp] theorem kind_rename : (n.rename r).kind = n.kind := by
  unfold kind rename
  cases n.body <;> rfl

@[simp] theorem message_rename : (n.rename r).message = n.message := by
  rw [message, message, kind_rename]
  rfl

/-- What follows a renamed node is what followed it, renamed. -/
theorem onward_rename : (n.rename r).onward = n.onward.map (Stop.rename r) (Option.map r) := by
  unfold onward rename
  cases n.body with
  | start next | message next => exact congrArg Sum.inr (given_map_rename r next)
  | question | email | ending => rfl

/-- A renamed node takes the same route. -/
theorem target?_rename : (n.rename r).target? answer = (n.target? answer).map r := by
  unfold target? rename
  cases n.body with
  | start next | message next | email _ _ _ next => exact given_map_rename r next
  | question routes saveAs =>
    have hfirst : firstRoute? (routes.map (Route.rename r)) answer =
        (firstRoute? routes answer).map (Route.rename r) := List.find?_map ..
    show (firstRoute? (routes.map (Route.rename r)) answer).bind (fun x => given x.next) =
      ((firstRoute? routes answer).bind fun x => given x.next).map r
    rw [hfirst]
    cases firstRoute? routes answer with
    | none => rfl
    | some route => exact given_map_rename r route.next
  | ending => rfl

theorem rejects_rename : (n.rename r).rejects answer = n.rejects answer := by
  unfold rejects checksEmail rename
  cases n.body <;> rfl

theorem rejection_rename : (n.rename r).rejection = n.rejection := by
  unfold rejection rename
  cases n.body <;> rfl

theorem slot_rename : (n.rename r).slot = n.slot := by
  unfold slot rename
  cases n.body <;> rfl

/-- A renamed node makes the same of an answer, with the target renamed. -/
theorem respond_rename : (n.rename r).respond answer = (n.respond answer).rename r := by
  unfold respond
  rw [rejects_rename, rejection_rename, target?_rename, slot_rename]
  split_ifs
  · rcases n.rejection_cases with ⟨text, h⟩ | h | h <;> rw [h] <;> rfl
  · cases n.target? answer <;> rfl

end Node

/-! ### Walks and entries -/

namespace Walk

variable (r : Renaming) (w : Walk)

@[simp] theorem messages_rename : (w.rename r).messages = w.messages := by
  simp [messages, rename, Function.comp_def]

@[simp] theorem isComplete_rename : (w.rename r).isComplete = w.isComplete := by
  unfold isComplete rename
  cases w.stop <;> rfl

theorem lastId_rename (before : Option String) :
    (w.rename r).lastId (before.map r) = (w.lastId before).map r := by
  unfold lastId rename
  rw [List.getLast?_map]
  cases w.path.getLast? <;> rfl

end Walk

namespace Flow

variable (r : Renaming) (f : Flow)

/-- Under a renamed id stands the renamed node, and under other ids none. -/
theorem node?_rename (id : String) : (f.rename r).node? (r id) = (f.node? id).map (Node.rename r) := by
  unfold node?
  simp only [r.eq_empty_iff]
  split_ifs
  · rfl
  · rw [rename, Assoc.get?_mapValues, Assoc.get?_mapKeys]

theorem contains_rename (id : String) : (f.rename r).nodes.contains (r id) = f.nodes.contains id := by
  rw [Assoc.contains, Assoc.contains, rename, Assoc.get?_mapValues, Assoc.get?_mapKeys,
    Option.isSome_map]

theorem isEmpty_rename : (f.rename r).nodes.isEmpty = f.nodes.isEmpty := by
  simp [rename, Assoc.isEmpty, Assoc.mapKeys]

/-- The walk in a renamed flow is the walk, renamed. -/
theorem walkFrom_rename (budget : Nat) (seen : List String) (link : Option String) :
    (f.rename r).walkFrom budget (seen.map r) (link.map r) =
      (f.walkFrom budget seen link).rename r := by
  -- by induction on the walk: an id was passed before exactly if its new name was
  have hseen : ∀ (seen : List String) (id : String), (seen.map r).contains (r id) = seen.contains id := by
    intro seen id
    rw [Bool.eq_iff_iff, List.contains_iff_mem, List.contains_iff_mem,
      List.mem_map_of_injective r.injective]
  fun_induction f.walkFrom budget seen link with
  | case1 budget seen => cases budget <;> rfl
  | case2 => rfl
  | case3 budget seen id hs =>
    rw [Option.map_some, walkFrom, if_pos ((hseen seen id).trans hs)]
    rfl
  | case4 budget seen id hs hm =>
    rw [Option.map_some, walkFrom, hseen, if_neg hs, node?_rename, hm]
    rfl
  | case5 budget seen id hs n hn stop ho =>
    rw [Option.map_some, walkFrom, hseen, if_neg hs, node?_rename, hn]
    simp only [Option.map_some, Node.onward_rename, ho]
    rfl
  | case6 budget seen id hs n hn next ho rest ih =>
    rw [Option.map_some, walkFrom, hseen, if_neg hs, node?_rename, hn]
    simp only [Option.map_some, Node.onward_rename, ho, Sum.map_inr, ← List.map_cons, ih]
    rfl

theorem walk_rename (budget : Nat) (id : String) :
    (f.rename r).walk budget (r id) = (f.walk budget id).rename r := by
  have hlink : given (some (r id)) = (given (some id)).map r := given_map_rename r (some id)
  rw [walk, walk, hlink]
  exact f.walkFrom_rename r budget [] (given (some id))

/-- A renamed flow has the same entry, renamed. -/
theorem entry_rename : (f.rename r).entry = f.entry.rename r := by
  have hdesignated : (f.rename r).designated? = f.designated?.map r := by
    show (given (f.startNodeId.map r)).filter (f.rename r).nodes.contains = f.designated?.map r
    rw [designated?, given_map_rename]
    cases given f.startNodeId with
    | none => rfl
    | some id => simp only [Option.map_some, Option.filter_some, contains_rename]; split_ifs <;> rfl
  have hfirst : (f.rename r).firstStart? = f.firstStart?.map r := by
    simp [firstStart?, rename, Assoc.mapKeys, List.find?_map, Function.comp_def]
  unfold entry
  rw [hdesignated, hfirst]
  cases f.designated? with
  | some id => rfl
  | none => cases f.firstStart? <;> rfl

theorem id?_entry_rename : (f.rename r).entry.id? = f.entry.id?.map r := by
  rw [entry_rename]
  cases f.entry <;> rfl

end Flow

/-! ### Outcomes -/

namespace Engine

variable {e e' : Engine} {r : Renaming}

/-- The opening at a renamed node is the opening, renamed. -/
theorem openingAt_rename (hf : e'.flow = e.flow.rename r) (hb : e'.maxSteps = e.maxSteps)
    (id : String) : e'.openingAt (r id) = (e.openingAt id).rename r := by
  dsimp only [openingAt]
  rw [hf, hb, Flow.walk_rename, Walk.messages_rename, Walk.isComplete_rename]
  exact congrArg (Opening.mk _ · _) (Walk.lastId_rename r _ none)

/-- A renamed node replies the same, and leads to the renamed node. -/
theorem reply_rename (hf : e'.flow = e.flow.rename r) (hb : e'.maxSteps = e.maxSteps) (id : String)
    (n : Node) (answer : String) :
    (e'.reply (r id) (n.rename r) answer).outcome =
      ((e.reply id n answer).outcome.map (Reply.rename r)).mapError (Failure.rename r) := by
  have hadvance : ∀ target captured,
      advance (r id) (e'.flow.walk e'.maxSteps (r target)) captured =
        (advance id (e.flow.walk e.maxSteps target) captured).rename r := by
    intro target captured
    unfold advance
    rw [hf, hb, Flow.walk_rename, Walk.messages_rename, Walk.isComplete_rename]
    exact congrArg (Reply.mk · _ _ _ _) (Walk.lastId_rename r _ (some id))
  unfold reply
  rw [Node.respond_rename, Node.kind_rename]
  cases n.respond answer with
  | again | noText | badText => rfl
  | onward target slot =>
    dsimp only [Response.rename, goOn]
    cases slot with
    | nothing | name => exact congrArg Except.ok (hadvance target _)
    | scalar | compound => rfl

/-- The outcome of an opening of a renamed flow is the outcome, renamed. -/
theorem begin_rename (hf : e'.flow = e.flow.rename r) (hb : e'.maxSteps = e.maxSteps) :
    e'.begin.outcome = (e.begin.outcome.map (Opening.rename r)).mapError (Failure.rename r) := by
  rw [begin_outcome, begin_outcome, hf, Flow.id?_entry_rename]
  cases e.flow.entry.id? with
  | none => rfl
  | some id => exact congrArg Except.ok (openingAt_rename hf hb id)

/-- The outcome of an answer at a renamed node is the outcome, renamed. -/
theorem process_rename (hf : e'.flow = e.flow.rename r) (hb : e'.maxSteps = e.maxSteps) (c : Cursor)
    (answer : Option String) :
    (e'.process (c.rename r) answer).outcome =
      ((e.process c answer).outcome.map (Reply.rename r)).mapError (Failure.rename r) := by
  have hposition : e'.flow.positionId? (c.rename r).stepId =
      (e.flow.positionId? c.stepId).map r := by
    unfold Flow.positionId? Cursor.rename
    rw [hf, given_map_rename, Flow.id?_entry_rename]
    cases given c.stepId <;> rfl
  rw [process_outcome, process_outcome, hposition]
  cases e.flow.positionId? c.stepId with
  | none =>
    rw [hf]
    rfl
  | some id =>
    dsimp only [Option.map_some, outcomeAt]
    rw [hf, Flow.node?_rename]
    cases e.flow.node? id with
    | none => rfl
    | some n => exact reply_rename hf hb id n (answer.getD "")

end Engine

namespace Flow

/-- **Ids are opaque.** With all its ids renamed, a flow opens and answers under every bound as it did
before: with the same messages, captured answers and reason for asking again, and coming to an end as
well or not. The position that it returns is the renamed one, and so is the node that a failure is
about. -/
theorem begins_answers_rename (r : Renaming) (f : Flow) (maxSteps : Option Int) :
    (f.rename r).begins maxSteps =
      ((f.begins maxSteps).map (Opening.rename r)).mapError (Failure.rename r) ∧
    ∀ (c : Cursor) (answer : Option String),
      (f.rename r).answers maxSteps (c.rename r) answer =
        ((f.answers maxSteps c answer).map (Reply.rename r)).mapError (Failure.rename r) := by
  unfold begins answers
  rcases build_cases (f.isEmpty_rename r) maxSteps with
    ⟨failure, hb, hb'⟩ | ⟨e, e', hb, hb', rfl, hf', hm⟩
  · -- whether an engine is built does not depend on ids
    have hfailure : failure.rename r = failure := by
      rcases Engine.build_eq_error.1 hb with ⟨-, rfl⟩ | ⟨-, -, rfl⟩ <;> rfl
    rw [hb, hb']
    constructor
    · exact congrArg Except.error hfailure.symm
    · intro c answer
      exact congrArg Except.error hfailure.symm
  · rw [hb, hb']
    exact ⟨Engine.begin_rename hf' hm, fun c answer => Engine.process_rename hf' hm c answer⟩

/-- The theorem with two ids exchanged: the flow pauses where the e-mail node stood, and the
question that stands there now leads to where it stood itself. -/
theorem begins_answers_rename_swap :
    let r : Renaming := .swap "ask" "mail" (by decide) (by decide)
    ((helpdesk "bye").rename r).begins none =
      .ok ⟨[⟨"Hello!", [], "start"⟩, ⟨"Shall we write to you?", ["yes", "no"], "question"⟩],
        "mail", false⟩ ∧
    ((helpdesk "bye").rename r).answers none ⟨"mail", .empty⟩ "yes" =
      .ok ⟨"ask", [⟨"Your address?", [], "email"⟩], false, .empty, none⟩ := by
  intro r
  have hopening : (helpdesk "bye").begins none =
      .ok ⟨[⟨"Hello!", [], "start"⟩, ⟨"Shall we write to you?", ["yes", "no"], "question"⟩],
        "ask", false⟩ := by decide +kernel
  have hreply : (helpdesk "bye").answers none ⟨"ask", .empty⟩ "yes" =
      .ok ⟨"mail", [⟨"Your address?", [], "email"⟩], false, .empty, none⟩ := by decide +kernel
  have hask : r "ask" = "mail" := by decide
  have hmail : r "mail" = "ask" := by decide
  obtain ⟨hbegins, hanswers⟩ := begins_answers_rename r (helpdesk "bye") none
  constructor
  · rw [hbegins, hopening]
    simp [Except.map, Except.mapError, Opening.rename, hask]
  · have h := hanswers ⟨"ask", .empty⟩ "yes"
    rw [hreply] at h
    simpa [Except.map, Except.mapError, Reply.rename, Cursor.rename, hask, hmail] using h

end Flow

end Dialogue
