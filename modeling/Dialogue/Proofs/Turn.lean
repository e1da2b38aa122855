import Dialogue.Proofs.Reply
import Dialogue.Service.Chat

/-!
# Turns taken apart

What comes of a turn is described by the flow, the stored state and the outcome of the engine,
and what holds of every call of a chat is carried over to its whole run.

* `Failure.reported?`: the kind under which the service reports a failure;
* `Service.start_eq_ok`, `Service.proceed_eq_ok`: the turns that come of starting a flow and of
  going on with it;
* `Service.run_stores`: the states that a turn stores;
* `Service.Fails`: the failures of a turn that belongs to the flow;
* `Service.run_eq_error`, `Service.run_error_eq_some`: those that leave the service, and those
  that it reports;
* `Service.handle_cases`: a turn without a document, with one that is no flow, and with a flow;
* `Chat.handling_eq_handle`: a call is handled by how what is stored is read, or fails before;
* `Call.IsOn`: the calls with one flow that leave the stored state to the chat;
* `Chat.Upholds`: what every turn of a flow keeps of the stored states, and promises;
* `Chat.Upholds.run`: it holds in every run of calls with the flow.
-/

namespace Dialogue

/-! ### Reported failures -/

/-- The kind under which the service reports a failure; the other failures leave it. -/
def Failure.reported? (failure : Failure) : Option String :=
  if failure.isDefinition then some "invalid_definition" else failure.flowKind?

@[simp] theorem Failure.reported?_noNodes :
    Failure.noNodes.reported? = some "invalid_definition" := rfl

@[simp] theorem Failure.reported?_noStartNode (id : Option String) :
    (Failure.noStartNode id).reported? = some "no_start_node" := rfl

/-- An answer that breaks a node gives a failure that is not reported. -/
theorem Node.Breaks.reported? {n : Node} {answer : String} {failure : Failure}
    (h : n.Breaks answer failure) : failure.reported? = none := by
  cases h <;> rfl

namespace Service

variable {s : Service} {e : Engine} {state : State}

theorem failed_eq_ok {action : String} {failure : Failure} {events : List Event} {turn : Turn} :
    (failed action failure events).outcome = .ok turn ↔
      ∃ kind, failure.reported? = some kind ∧ turn = errorTurn (some action) kind := by
  unfold failed Failure.reported?
  split_ifs with hd
  · simp [eq_comm]
  · cases failure.flowKind? <;> simp [eq_comm]

theorem failed_eq_error {action : String} {failure failure' : Failure} {events : List Event} :
    (failed action failure events).outcome = .error failure' ↔
      failure.reported? = none ∧ failure' = failure := by
  unfold failed Failure.reported?
  split_ifs with hd
  · simp
  · cases failure.flowKind? <;> simp [eq_comm]

@[simp] theorem failed_events (action : String) (failure : Failure) (events : List Event) :
    (failed action failure events).events = events := by
  unfold failed
  split_ifs with hd
  · rfl
  · cases failure.flowKind? <;> rfl

/-! ### Starting and going on -/

/-- The turn that a reply gives. -/
def replyTurn (s : Service) (state : State) (r : Reply) : Turn :=
  if r.isReprompt then againTurn state r else s.onwardTurn state r

@[simp] theorem replyTurn_error (s : Service) (state : State) (r : Reply) :
    (s.replyTurn state r).error = none := by
  unfold replyTurn
  split_ifs <;> rfl

theorem replied_outcome (s : Service) (state : State) (r : Reply) (events : List Event) :
    (s.replied state r events).outcome = .ok (s.replyTurn state r) := by
  unfold replied replyTurn Reply.isReprompt
  cases r.reason <;> rfl

theorem start_eq_ok {turn : Turn} :
    (start e).outcome = .ok turn ↔
      (∃ x, e.begin.outcome = .ok x ∧ turn = startTurn x) ∨
      ∃ failure kind, e.begin.outcome = .error failure ∧ failure.reported? = some kind ∧
        turn = errorTurn (some "start") kind := by
  unfold start
  cases hb : e.begin.outcome with
  | ok x =>
    have hs : (started x e.begin.events).outcome = .ok (startTurn x) := rfl
    simpa [hb, hs] using eq_comm
  | error failure => simp [hb, failed_eq_ok]

theorem start_eq_error {failure : Failure} :
    (start e).outcome = .error failure ↔
      e.begin.outcome = .error failure ∧ failure.reported? = none := by
  unfold start
  cases hb : e.begin.outcome with
  | ok x => simp [hb, started]
  | error failure' =>
    simp only [hb, failed_eq_error, Except.error.injEq]
    constructor
    · rintro ⟨h, rfl⟩
      exact ⟨rfl, h⟩
    · rintro ⟨rfl, h⟩
      exact ⟨h, rfl⟩

@[simp] theorem start_events : (start e).events = e.begin.events := by
  unfold start
  cases hb : e.begin.outcome <;> simp [hb, started]

theorem proceed_eq_ok {message : Option String} {turn : Turn} :
    (s.proceed e state message).outcome = .ok turn ↔
      (∃ r, (e.process state.cursor message).outcome = .ok r ∧ turn = s.replyTurn state r) ∨
      ∃ failure kind, (e.process state.cursor message).outcome = .error failure ∧
        failure.reported? = some kind ∧ turn = errorTurn (some "continue") kind := by
  unfold proceed
  cases hp : (e.process state.cursor message).outcome with
  | ok r => simpa [hp, replied_outcome] using eq_comm
  | error failure => simp [hp, failed_eq_ok]

theorem proceed_eq_error {message : Option String} {failure : Failure} :
    (s.proceed e state message).outcome = .error failure ↔
      (e.process state.cursor message).outcome = .error failure ∧ failure.reported? = none := by
  unfold proceed
  cases hp : (e.process state.cursor message).outcome with
  | ok r => simp [hp, replied_outcome]
  | error failure' =>
    simp only [hp, failed_eq_error, Except.error.injEq]
    constructor
    · rintro ⟨h, rfl⟩
      exact ⟨rfl, h⟩
    · rintro ⟨rfl, h⟩
      exact ⟨h, rfl⟩

@[simp] theorem proceed_events {message : Option String} :
    (s.proceed e state message).events = (e.process state.cursor message).events := by
  unfold proceed
  cases hp : (e.process state.cursor message).outcome with
  | ok r => cases hr : r.reason <;> simp [hp, replied, hr]
  | error failure => simp [hp]

/-! ### Turns of a flow -/

variable {f : Flow} {stored : Stored} {held : Option State} {message trigger : Option String}
  {count : Int}

/-- The state that a turn goes on with; none if it starts the flow. -/
def continued (s : Service) (held : Option State) (trigger : Option String) : Option State :=
  if trigger = some s.trigger then none else held

theorem held_of_continued (h : s.continued held trigger = some state) : held = some state := by
  unfold continued at h
  split_ifs at h
  exact h

theorem run_cases (s : Service) (f : Flow) (held : Option State) (message trigger : Option String) :
    (∃ failure action, Engine.build f s.maxSteps = .error failure ∧
      s.run f held message trigger = failed action failure []) ∨
    (∃ e, Engine.build f s.maxSteps = .ok e ∧ s.continued held trigger = none ∧
      s.run f held message trigger = start e) ∨
    ∃ e state, Engine.build f s.maxSteps = .ok e ∧ s.continued held trigger = some state ∧
      s.run f held message trigger = s.proceed e state message := by
  have hcontinued : (if trigger = some s.trigger then none else held) = s.continued held trigger :=
    rfl
  unfold run
  rw [hcontinued]
  cases hb : Engine.build f s.maxSteps with
  | error failure =>
    cases hc : s.continued held trigger with
    | none => exact .inl ⟨failure, "start", rfl, rfl⟩
    | some state => exact .inl ⟨failure, "continue", rfl, rfl⟩
  | ok e =>
    cases hc : s.continued held trigger with
    | none => exact .inr (.inl ⟨e, rfl, rfl, rfl⟩)
    | some state => exact .inr (.inr ⟨e, state, rfl, rfl, rfl⟩)

/-- A turn that stores a state has started the flow, or got a reply to the answer. -/
theorem run_stores {turn : Turn} {next : State}
    (ht : (s.run f held message trigger).outcome = .ok turn) (hs : turn.state = some next) :
    (∃ e x, Engine.build f s.maxSteps = .ok e ∧ e.begin.outcome = .ok x ∧
      next = ⟨x.stepId, x.isComplete, .empty⟩) ∨
    ∃ e state r, Engine.build f s.maxSteps = .ok e ∧ s.continued held trigger = some state ∧
      (e.process state.cursor message).outcome = .ok r ∧
        (s.replyTurn state r).state = some next := by
  rcases s.run_cases f held message trigger with
    ⟨failure, action, -, hrun⟩ | ⟨e, hb, -, hrun⟩ | ⟨e, state, hb, hst, hrun⟩
  · rw [hrun] at ht
    obtain ⟨kind, -, rfl⟩ := failed_eq_ok.1 ht
    cases hs
  · rw [hrun] at ht
    rcases start_eq_ok.1 ht with ⟨x, hx, rfl⟩ | ⟨_, _, -, -, rfl⟩
    · cases hs
      exact .inl ⟨e, x, hb, hx, rfl⟩
    · cases hs
  · rw [hrun] at ht
    rcases proceed_eq_ok.1 ht with ⟨r, hr, rfl⟩ | ⟨_, _, -, -, rfl⟩
    · exact .inr ⟨e, state, r, hb, hst, hr, hs⟩
    · cases hs

/-- The failures of a turn that belongs to the flow. -/
inductive Fails (s : Service) (f : Flow) (held : Option State) (message trigger : Option String) :
    Failure → Prop
  | unbuilt {failure : Failure} (hb : Engine.build f s.maxSteps = .error failure) :
      Fails s f held message trigger failure
  | noStart {e : Engine} (hb : Engine.build f s.maxSteps = .ok e)
      (hc : ∀ state, s.continued held trigger = some state → given state.stepId = none)
      (hu : f.entry = .unresolved) :
      Fails s f held message trigger (.noStartNode f.startNodeId)
  | lost {e : Engine} {state : State} {id : String} (hb : Engine.build f s.maxSteps = .ok e)
      (hc : s.continued held trigger = some state) (hi : f.positionId? state.stepId = some id)
      (hn : f.node? id = none) :
      Fails s f held message trigger (.nodeNotFound id)
  | breaks {e : Engine} {state : State} {id : String} {n : Node} {failure : Failure}
      (hb : Engine.build f s.maxSteps = .ok e) (hc : s.continued held trigger = some state)
      (hi : f.positionId? state.stepId = some id) (hn : f.node? id = some n)
      (h : n.Breaks (message.getD "") failure) :
      Fails s f held message trigger failure

theorem fails_iff_of_unbuilt {failure failure' : Failure}
    (hb : Engine.build f s.maxSteps = .error failure') :
    s.Fails f held message trigger failure ↔ failure = failure' := by
  constructor
  · intro h
    cases h with
    | unbuilt hb' => exact (Except.error.inj (hb.symm.trans hb')).symm
    -- all other failures are those of an engine
    | noStart hb' | lost hb' | breaks hb' => cases hb.symm.trans hb'
  · rintro rfl
    exact .unbuilt hb

theorem fails_iff_of_start {failure : Failure} (hb : Engine.build f s.maxSteps = .ok e)
    (hc : s.continued held trigger = none) :
    s.Fails f held message trigger failure ↔ e.begin.outcome = .error failure := by
  rw [Engine.begin_eq_error, Engine.build_eq_ok hb]
  constructor
  · intro h
    cases h with
    | unbuilt hb' => cases hb.symm.trans hb'
    | noStart _ _ hu => exact ⟨hu, rfl⟩
    | lost _ hc' | breaks _ hc' => cases hc.symm.trans hc'
  · rintro ⟨hu, rfl⟩
    exact .noStart hb (by simp [hc]) hu

theorem fails_iff_of_proceed {failure : Failure} (hb : Engine.build f s.maxSteps = .ok e)
    (hc : s.continued held trigger = some state) :
    s.Fails f held message trigger failure ↔
      (e.process state.cursor message).outcome = .error failure := by
  rw [Engine.process_eq_error, Engine.build_eq_ok hb]
  constructor
  · intro h
    cases h with
    | unbuilt hb' => cases hb.symm.trans hb'
    | noStart _ hs hu => exact .inl ⟨Flow.positionId?_eq_none.2 ⟨hs state hc, hu⟩, rfl⟩
    | lost _ hc' hi hn =>
      cases hc.symm.trans hc'
      exact .inr ⟨_, hi, .inl ⟨hn, rfl⟩⟩
    | breaks _ hc' hi hn h =>
      cases hc.symm.trans hc'
      exact .inr ⟨_, hi, .inr ⟨_, hn, h⟩⟩
  · rintro (⟨hi, rfl⟩ | ⟨id, hi, ⟨hn, rfl⟩ | ⟨n, hn, h⟩⟩)
    · obtain ⟨hg, hu⟩ := Flow.positionId?_eq_none.1 hi
      refine .noStart hb (fun state' hc' => ?_) hu
      cases hc.symm.trans hc'
      exact hg
    · exact .lost hb hc hi hn
    · exact .breaks hb hc hi hn h

/-- A turn of a flow fails with what is not reported of its failures. -/
theorem run_eq_error {failure : Failure} :
    (s.run f held message trigger).outcome = .error failure ↔
      s.Fails f held message trigger failure ∧ failure.reported? = none := by
  rcases s.run_cases f held message trigger with
    ⟨failure', action, hb, hrun⟩ | ⟨e, hb, hc, hrun⟩ | ⟨e, state, hb, hc, hrun⟩
  · rw [hrun, failed_eq_error, fails_iff_of_unbuilt hb]
    constructor
    · rintro ⟨h, rfl⟩
      exact ⟨rfl, h⟩
    · rintro ⟨rfl, h⟩
      exact ⟨h, rfl⟩
  · rw [hrun, start_eq_error, fails_iff_of_start hb hc]
  · rw [hrun, proceed_eq_error, fails_iff_of_proceed hb hc]

/-- A turn of a flow with an error reports one of its failures. -/
theorem run_error_eq_some {kind : String} :
    (∃ turn, (s.run f held message trigger).outcome = .ok turn ∧ turn.error = some kind) ↔
      ∃ failure, s.Fails f held message trigger failure ∧ failure.reported? = some kind := by
  rcases s.run_cases f held message trigger with
    ⟨failure', action, hb, hrun⟩ | ⟨e, hb, hc, hrun⟩ | ⟨e, state, hb, hc, hrun⟩
  · simp only [hrun, failed_eq_ok, fails_iff_of_unbuilt hb]
    constructor
    · rintro ⟨_, ⟨kind', hk, rfl⟩, ⟨⟩⟩
      exact ⟨failure', rfl, hk⟩
    · rintro ⟨_, rfl, hk⟩
      exact ⟨_, ⟨kind, hk, rfl⟩, rfl⟩
  · simp only [hrun, start_eq_ok, fails_iff_of_start hb hc]
    constructor
    · rintro ⟨turn, ⟨x, -, rfl⟩ | ⟨failure, kind', hf, hk, rfl⟩, h⟩
      · cases h
      · cases h
        exact ⟨failure, hf, hk⟩
    · rintro ⟨failure, hf, hk⟩
      exact ⟨_, .inr ⟨failure, kind, hf, hk, rfl⟩, rfl⟩
  · simp only [hrun, proceed_eq_ok, fails_iff_of_proceed hb hc]
    constructor
    · rintro ⟨turn, ⟨r, -, rfl⟩ | ⟨failure, kind', hf, hk, rfl⟩, h⟩
      · rw [replyTurn_error] at h
        cases h
      · cases h
        exact ⟨failure, hf, hk⟩
    · rintro ⟨failure, hf, hk⟩
      exact ⟨_, .inr ⟨failure, kind, hf, hk, rfl⟩, rfl⟩

/-- A turn that belongs to a flow goes on with a state only if the flow has not ended there. -/
theorem not_complete_of_applies (ha : s.applies held trigger count = true)
    (hc : s.continued held trigger = some state) : state.isComplete = false := by
  unfold continued at hc
  unfold applies at ha
  split_ifs at hc with ht
  simpa [ht, hc] using ha

theorem leftAlone_eq_ok {reason : String} {turn : Turn} :
    (leftAlone reason).outcome = .ok turn ↔ turn = .unhandled := by
  simp [leftAlone, eq_comm]

theorem handleFlow_cases (s : Service) (f : Flow) (stored : Stored)
    (message trigger : Option String) (count : Int) :
    (f.enabled = false ∧
      s.handleFlow f stored message trigger count = leftAlone "disabled") ∨
    (f.enabled = true ∧ ∃ p ps, stored.read = .invalid p ps ∧
      (s.handleFlow f stored message trigger count).outcome =
        .ok (errorTurn none "invalid_state") ∧
      (s.handleFlow f stored message trigger count).events = []) ∨
    (f.enabled = true ∧ ∃ held, stored.read = .valid held ∧
      s.applies held trigger count = false ∧
      s.handleFlow f stored message trigger count = leftAlone "skipped") ∨
    (f.enabled = true ∧ ∃ held, stored.read = .valid held ∧
      s.applies held trigger count = true ∧
      s.handleFlow f stored message trigger count = s.run f held message trigger) := by
  unfold handleFlow
  cases he : f.enabled with
  | false => exact .inl ⟨rfl, rfl⟩
  | true =>
    refine .inr ?_
    cases hr : stored.read with
    | invalid p ps => exact .inl ⟨rfl, p, ps, rfl, rfl, rfl⟩
    | valid held =>
      refine .inr ?_
      cases ha : s.applies held trigger count with
      | false => exact .inl ⟨rfl, held, rfl, ha, by simp [ha]⟩
      | true => exact .inr ⟨rfl, held, rfl, ha, by simp [ha]⟩

/-- A document that is no flow leaves the service exactly if its fault is not reported. -/
theorem unusable_eq_error {fault : DocumentFault} {failure : Failure} :
    (unusable fault).outcome = .error failure ↔
      (Failure.document fault).isDefinition = false ∧ failure = .document fault := by
  unfold unusable
  cases hx : (Failure.document fault).isDefinition <;> simp [hx, eq_comm]

theorem unusable_eq_ok {fault : DocumentFault} {turn : Turn} :
    (unusable fault).outcome = .ok turn ↔
      (Failure.document fault).isDefinition = true ∧
        turn = errorTurn none "invalid_definition" := by
  unfold unusable
  cases hx : (Failure.document fault).isDefinition <;> simp [hx, eq_comm]

/-- A turn without a document is handed back, one with a document that is no flow comes of its
fault, and any other is a turn with the flow. -/
theorem handle_cases (s : Service) (document : Option Document) (stored : Stored)
    (message trigger : Option String) (count : Int) (depth : Nat) :
    (Document.given? document = none ∧
      s.handle document stored message trigger count depth = ⟨.ok .unhandled, [], [], []⟩) ∨
    (∃ d fault, Document.given? document = some d ∧ Flow.ofDocument d depth = .error fault ∧
      s.handle document stored message trigger count depth = unusable fault) ∨
    (∃ d f, document = some d ∧ Flow.ofDocument d depth = .ok f ∧
      s.handle document stored message trigger count depth =
        s.handleFlow f stored message trigger count) := by
  unfold handle
  cases hd : Document.given? document with
  | none => exact .inl ⟨rfl, rfl⟩
  | some d =>
    refine .inr ?_
    cases hf : Flow.ofDocument d depth with
    | error fault => exact .inl ⟨d, fault, rfl, hf, by simp [hf]⟩
    | ok f => exact .inr ⟨d, f, (Document.given?_eq_some.1 hd).1, hf, by simp [hf]⟩

theorem handle_of_ok {d : Document} {depth : Nat} (hf : Flow.ofDocument d depth = .ok f) :
    s.handle (some d) stored message trigger count depth =
      s.handleFlow f stored message trigger count := by
  simp only [handle, Document.given?_of_ok hf, hf]

end Service

/-! ### Calls -/

/-- What is read beforehand is what is read otherwise. -/
theorem Stored.read_of_typed? {stored stored' : Stored} (h : stored.typed? = .ok stored') :
    stored'.read = stored.read := by
  cases stored with
  | nothing => cases h
  | state x =>
    cases h
    rfl
  | json j =>
    change state <$> Position.ofChecked .state (State.read j) = .ok stored' at h
    cases hr : State.read j with
    | valid x =>
      have hj : j ≠ .null := by
        rintro rfl
        cases hr
      rw [hr] at h
      cases h
      rw [read_json hj, hr]
      rfl
    | invalid p ps =>
      rw [hr] at h
      cases h

/-- A turn depends on what is stored only by how it is read. -/
theorem Service.handle_congr (s : Service) {stored stored' : Stored}
    (h : stored'.read = stored.read) (document : Option Document)
    (message trigger : Option String) (count : Int) (depth : Nat) :
    s.handle document stored' message trigger count depth =
      s.handle document stored message trigger count depth := by
  unfold handle handleFlow
  rw [h]

/-- A call is handled with the document that was prepared for it, or fails before. -/
theorem Chat.handling_eq_handle (s : Service) (stored : Stored) (count : Int) (call : Call) :
    (∃ document, call.prepared = .ok document ∧ handling s stored count call =
      s.handle document stored call.message call.trigger count call.depth) ∨
    ∃ failure, handling s stored count call = ⟨.error failure, [], [], []⟩ := by
  unfold handling
  cases call.prepared with
  | error failure => exact .inr ⟨failure, rfl⟩
  | ok document =>
    cases call.typed with
    | false => exact .inl ⟨document, rfl, rfl⟩
    | true =>
      cases ht : stored.typed? with
      | error failure => exact .inr ⟨failure, rfl⟩
      | ok stored' =>
        -- what was read beforehand is read again, with the same result
        exact .inl ⟨document, rfl, s.handle_congr (Stored.read_of_typed? ht) _ _ _ _ _⟩

/-! ### Chats with one flow -/

/-- What is stored is nothing, or a state with a property. -/
def Stored.Keeps (P : State → Prop) : Stored → Prop
  | .nothing => True
  | .state x => P x
  | .json _ => False

@[simp] theorem Stored.keeps_state {P : State → Prop} {x : State} :
    (Stored.state x).Keeps P ↔ P x := Iff.rfl

@[simp] theorem Stored.not_keeps_json {P : State → Prop} {j : Json} :
    ¬(Stored.json j).Keeps P := id

theorem Stored.Keeps.read {P : State → Prop} {stored : Stored} (h : stored.Keeps P) :
    ∃ held, stored.read = .valid held ∧ ∀ state, held = some state → P state := by
  cases stored with
  | nothing => exact ⟨none, rfl, by simp⟩
  | state x => exact ⟨some x, rfl, by rintro _ ⟨⟩; exact h⟩
  | json j => exact h.elim

theorem Stored.Keeps.storedAfter {P : State → Prop} {stored : Stored} (h : stored.Keeps P)
    {outcome : Except Failure Turn}
    (ho : ∀ turn state, outcome = .ok turn → turn.state = some state → P state) :
    (Chat.storedAfter stored outcome).Keeps P := by
  cases outcome with
  | error failure => exact h
  | ok turn =>
    dsimp only [Chat.storedAfter]
    cases ht : turn.state with
    | none => exact h
    | some state => exact ho turn state rfl ht

/-- A call with the flow `f`, in whatever form it is given, that leaves the stored state to the
chat. -/
structure Call.IsOn (f : Flow) (call : Call) : Prop where
  document : ∃ d, call.document = some d ∧ Flow.ofDocument d call.depth = .ok f
  stored : call.stored = none

/-- The call that says something in a chat with a flow. -/
def Call.say (f : Flow) (message : String) (trigger : Option String) : Call :=
  ⟨some (.flow f), false, none, none, message, trigger, false, Json.usualDepth⟩

theorem Call.say_isOn (f : Flow) (message : String) (trigger : Option String) :
    (Call.say f message trigger).IsOn f :=
  ⟨⟨.flow f, rfl, rfl⟩, rfl⟩

namespace Chat

variable {s : Service} {f : Flow} {c : Chat} {call : Call} {P : State → Prop}
  {Q : Except Failure Turn → List Event → Prop}

/-- A call with a flow is handled with it, or fails before. -/
theorem handling_of_isOn (hcall : call.IsOn f) (stored : Stored) (count : Int) :
    handling s stored count call = s.handleFlow f stored call.message call.trigger count ∨
      ∃ failure, handling s stored count call = ⟨.error failure, [], [], []⟩ := by
  obtain ⟨d, hd, hf⟩ := hcall.document
  have hp : ∃ d', call.prepared = .ok (some d') ∧ Flow.ofDocument d' call.depth = .ok f := by
    unfold Call.prepared
    split_ifs
    · exact ⟨.flow f, by simp [hd, hf], rfl⟩
    · exact ⟨d, by rw [hd], hf⟩
  obtain ⟨d', hp, hf'⟩ := hp
  refine (handling_eq_handle s stored count call).imp_left ?_
  rintro ⟨document, hp', hh⟩
  cases hp.symm.trans hp'
  rw [hh, Service.handle_of_ok hf']

/-- Every turn of a flow keeps `P` of the states that it stores, and promises `Q` of its outcome
and events; so does a turn that does nothing. -/
structure Upholds (s : Service) (f : Flow) (P : State → Prop)
    (Q : Except Failure Turn → List Event → Prop) : Prop where
  quiet : ∀ outcome, (∀ turn, outcome = .ok turn → turn = .unhandled) → Q outcome []
  promises : ∀ held message trigger, (∀ state, held = some state → P state) →
    (∀ state, s.continued held trigger = some state → state.isComplete = false) →
      Q (s.run f held message trigger).outcome (s.run f held message trigger).events
  keeps : ∀ held message trigger, (∀ state, held = some state → P state) →
    (∀ state, s.continued held trigger = some state → state.isComplete = false) →
      ∀ turn state, (s.run f held message trigger).outcome = .ok turn →
        turn.state = some state → P state

/-- What every turn of a flow keeps and promises, every call with that flow does. -/
theorem Upholds.step (h : Upholds s f P Q) (hcall : call.IsOn f) (hc : c.stored.Keeps P) :
    (Chat.step s c call).2.stored.Keeps P ∧
      Q (Chat.step s c call).1.outcome (Chat.step s c call).1.events := by
  have hstored : call.stored.getD c.stored = c.stored := by
    rw [hcall.stored]
    rfl
  simp only [Chat.step, hstored]
  generalize call.messageCount.getD c.messageCount = count
  -- what is stored afterwards is the state of the turn, or else what was stored before
  suffices hx : ∀ x : Handling, x = handling s c.stored count call →
      Q x.outcome x.events ∧ ∀ turn state, x.outcome = .ok turn → turn.state = some state →
        P state by
    obtain ⟨hq, hp⟩ := hx _ rfl
    exact ⟨hc.storedAfter hp, hq⟩
  have alone : ∀ reason, Q (Service.leftAlone reason).outcome (Service.leftAlone reason).events ∧
      ∀ turn state, (Service.leftAlone reason).outcome = .ok turn → turn.state = some state →
        P state := by
    intro reason
    refine ⟨h.quiet _ fun turn => Service.leftAlone_eq_ok.1, fun turn state ht hs => ?_⟩
    cases Service.leftAlone_eq_ok.1 ht
    cases hs
  rintro x rfl
  rcases handling_of_isOn (s := s) hcall c.stored count with hh | ⟨failure, hh⟩
  · rw [hh]
    obtain ⟨held, hr, hheld⟩ := hc.read
    rcases s.handleFlow_cases f c.stored call.message call.trigger count with
      ⟨-, hl⟩ | ⟨-, p, ps, hi, -⟩ | ⟨-, _, -, -, hl⟩ | ⟨-, held', hr', ha, hl⟩
    · rw [hl]
      exact alone _
    · -- what a chat stores can always be read
      rw [hr] at hi
      cases hi
    · rw [hl]
      exact alone _
    · cases hr.symm.trans hr'
      rw [hl]
      have hi : ∀ state, s.continued held call.trigger = some state → state.isComplete = false :=
        fun state => Service.not_complete_of_applies ha
      exact ⟨h.promises held _ _ hheld hi, h.keeps held _ _ hheld hi⟩
  · -- the call failed before it came to a turn
    rw [hh]
    exact ⟨h.quiet _ (by simp), by simp⟩

/-- What every turn of a flow keeps and promises holds in every run of calls with it. -/
theorem Upholds.run (h : Upholds s f P Q) {calls : List Call}
    (hcalls : ∀ call ∈ calls, call.IsOn f) (hc : c.stored.Keeps P) :
    ∀ x ∈ Chat.run s c calls, x.2.stored.Keeps P ∧ Q x.1.outcome x.1.events := by
  induction calls generalizing c with
  | nil => simp [Chat.run]
  | cons call rest ih =>
    obtain ⟨hcall, hrest⟩ := List.forall_mem_cons.1 hcalls
    have hstep := h.step hcall hc
    intro x hx
    rw [Chat.run, List.mem_cons] at hx
    rcases hx with rfl | hx
    · exact hstep
    · exact ih hrest hstep.1 x hx

end Chat

end Dialogue
