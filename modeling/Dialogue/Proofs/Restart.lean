import Dialogue.Proofs.Agreement
import Dialogue.Proofs.Escape
import Dialogue.Proofs.Rest

/-!
# Restarting a flow

A turn with the trigger of the service starts its flow from the beginning. The stored state has no
say in it, but it must be one that can be read.

* `Service.firstTurn?`: the turn that starts a flow, or that reports why it cannot be started;
* `Service.run_eq_ok_of_start`: a turn of a flow with no state to go on with comes to this turn;
* `Stored.isReadable`: whether what is stored can be read;
* `Service.handle_trigger`: with the trigger an enabled flow starts with its first turn whatever
  readable state is stored, and a state that cannot be read keeps it from starting.
-/

namespace Dialogue

/-- Whether what is stored can be read: it is nothing, or a state. -/
def Stored.isReadable (stored : Stored) : Bool := stored.read.value?.isSome

namespace Service

variable {s : Service} {f : Flow} {turn : Turn}

/-! ### The first turn of a flow -/

/-- The turn that comes of opening a flow: that of the opening, or that which reports why there is
none. -/
def openingTurn? : Except Failure Opening → Option Turn
  | .ok x => some (startTurn x)
  | .error failure => failure.reported?.map (errorTurn (some "start"))

/-- The turn that starts a flow. -/
def firstTurn? (s : Service) (f : Flow) : Option Turn := openingTurn? (f.begins s.maxSteps)

theorem openingTurn?_action {outcome : Except Failure Opening}
    (h : openingTurn? outcome = some turn) : turn.action = some "start" := by
  cases outcome with
  | ok x =>
    cases h
    rfl
  | error failure =>
    obtain ⟨kind, -, rfl⟩ := Option.map_eq_some_iff.1 h
    rfl

/-- With a positive bound every flow has a first turn: it lacks an opening only if it has no nodes
or no start, and both are reported. -/
theorem exists_firstTurn (hs : ∀ m, s.maxSteps = some m → 1 ≤ m) (f : Flow) :
    ∃ turn, s.firstTurn? f = some turn := by
  unfold firstTurn? Flow.begins
  cases hb : Engine.build f s.maxSteps with
  | error failure =>
    obtain ⟨-, rfl⟩ := (build_eq_error_of_positive hs).1 hb
    exact ⟨_, rfl⟩
  | ok e =>
    show ∃ turn, openingTurn? e.begin.outcome = some turn
    cases ho : e.begin.outcome with
    | ok x => exact ⟨_, rfl⟩
    | error failure =>
      obtain ⟨-, rfl⟩ := Engine.begin_eq_error.1 ho
      exact ⟨_, rfl⟩

theorem failed_start_eq_ok {failure : Failure} {events : List Event} :
    (failed "start" failure events).outcome = .ok turn ↔
      openingTurn? (.error failure) = some turn := by
  rw [failed_eq_ok, openingTurn?, Option.map_eq_some_iff]
  exact exists_congr fun _ => and_congr_right fun _ => eq_comm

theorem start_eq_ok_iff {e : Engine} :
    (start e).outcome = .ok turn ↔ openingTurn? e.begin.outcome = some turn := by
  unfold start
  cases ho : e.begin.outcome with
  | ok x => simp [ho, started, openingTurn?]
  | error failure =>
    simp only [ho]
    exact failed_start_eq_ok

/-- A turn of a flow with no state to go on with comes to the first turn of the flow, whatever the
user says. -/
theorem run_eq_ok_of_start {held : Option State} {message trigger : Option String}
    (hc : s.continued held trigger = none) :
    (s.run f held message trigger).outcome = .ok turn ↔ s.firstTurn? f = some turn := by
  unfold continued at hc
  unfold run firstTurn? Flow.begins
  rw [hc]
  cases Engine.build f s.maxSteps with
  | error failure => exact failed_start_eq_ok
  | ok e => exact start_eq_ok_iff

/-! ### Turns with the trigger -/

/-- A turn with the trigger always belongs to the flow. -/
theorem applies_trigger (held : Option State) (count : Int) :
    s.applies held (some s.trigger) count = true :=
  if_pos rfl

/-- With the trigger there is no state to go on with. -/
theorem continued_trigger (held : Option State) : s.continued held (some s.trigger) = none :=
  if_pos rfl

/-- **The trigger restarts a flow from whatever state can be read.** With a positive bound on
steps, every turn with the trigger and an enabled flow is the first turn of the flow, the same
whatever readable state is stored, whatever the user says and however many messages there are. If
what is stored cannot be read, then every such turn reports this instead. -/
theorem handle_trigger (hs : ∀ m, s.maxSteps = some m → 1 ≤ m) {d : Document} {depth : Nat}
    (hf : Flow.ofDocument d depth = .ok f) (he : f.enabled = true) :
    ∃ turn, s.firstTurn? f = some turn ∧ turn.action = some "start" ∧
      ∀ stored message count,
        (s.handle (some d) stored message (some s.trigger) count depth).outcome =
          .ok (if stored.isReadable then turn else errorTurn none "invalid_state") := by
  obtain ⟨turn, hturn⟩ := exists_firstTurn hs f
  refine ⟨turn, hturn, openingTurn?_action hturn, ?_⟩
  intro stored message count
  rw [handle_of_ok hf]
  unfold Stored.isReadable
  rcases s.handleFlow_cases f stored message (some s.trigger) count with
    ⟨hd, -⟩ | ⟨-, p, ps, hr, ho, -⟩ | ⟨-, held, -, ha, -⟩ | ⟨-, held, hr, -, hl⟩
  · cases he.symm.trans hd
  · rw [ho, hr]
    rfl
  · -- with the trigger no turn is skipped
    cases (applies_trigger held count).symm.trans ha
  · rw [hl, hr]
    exact (run_eq_ok_of_start (continued_trigger held)).2 hturn

/-- A stored state that cannot be read, for one of its answers is no text. -/
def unreadableState : Stored :=
  .json (.obj [("currentStepId", .str "ask"), ("isComplete", .bool false),
    ("data", .obj [("visits", .int 3)])])

/-- The theorem for a flow that has ended, for one that is stored as it is written, and for a
state that cannot be read. -/
theorem handle_trigger_helpdesk :
    let s := make none none none
    let d : Document := .flow (.helpdesk "bye")
    let ended : Stored := .state ⟨"bye", true, .ofList [("email", "a@b.co")]⟩
    let asked : Stored := .json (.obj [("current_step_id", .str "ask")])
    let depth := Json.usualDepth
    (∀ m, s.maxSteps = some m → 1 ≤ m) ∧ Flow.ofDocument d depth = .ok (.helpdesk "bye") ∧
    (Flow.helpdesk "bye").enabled = true ∧
    ∃ turn, s.firstTurn? (.helpdesk "bye") = some turn ∧ turn.action = some "start" ∧
      (s.handle (some d) ended "no" (some s.trigger) 9 depth).outcome = .ok turn ∧
      (s.handle (some d) asked none (some s.trigger) 0 depth).outcome = .ok turn ∧
      (s.handle (some d) unreadableState "yes" (some s.trigger) 1 depth).outcome =
        .ok (errorTurn none "invalid_state") := by
  intro s d ended asked depth
  have hs : ∀ m, s.maxSteps = some m → 1 ≤ m := by simp [s, make]
  have hd : Flow.ofDocument d depth = .ok (.helpdesk "bye") := rfl
  obtain ⟨turn, hturn, hstart, h⟩ := handle_trigger hs hd rfl
  exact ⟨hs, rfl, rfl, turn, hturn, hstart, h ended _ _, h asked _ _, h unreadableState _ _⟩

/-- It is not so that the trigger restarts a flow whatever is stored. -/
theorem not_handle_trigger_same :
    ¬∀ (s : Service) (d : Document) (f : Flow), (∀ m, s.maxSteps = some m → 1 ≤ m) →
      Flow.ofDocument d Json.usualDepth = .ok f → f.enabled = true →
      ∀ (stored stored' : Stored) (message message' : Option String) (count count' : Int),
        (s.handle (some d) stored message (some s.trigger) count Json.usualDepth).outcome =
          (s.handle (some d) stored' message' (some s.trigger) count' Json.usualDepth).outcome := by
  intro h
  have hs : ∀ m, (make none none none).maxSteps = some m → 1 ≤ m := by simp [make]
  have hx := h (make none none none) (.flow (.helpdesk "bye")) (.helpdesk "bye") hs rfl rfl
    unreadableState .nothing "" "" 1 1
  revert hx
  decide +kernel

end Service

end Dialogue
