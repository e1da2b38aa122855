import Dialogue.Proofs.Turn

/-!
# What leaves the turn service

The service reports what it expects to go wrong, as a turn that is not handled and has an error.
All else leaves it.

* `Service.handleFlow_eq_error`, `Service.handleFlow_error_eq_some`: the failures of a turn with
  a flow, as they leave the service and as they are reported;
* `Service.Escapes`: the failures that leave the service, those of a document with too long an
  integer or too deep a nesting, and those of an answer that breaks its node;
* `Service.Reports`: what the service reports;
* `Service.handle_outcome`: a turn fails exactly with the former, and has an error exactly for the
  latter.
-/

namespace Dialogue

/-! ### Faults of documents -/

theorem Failure.not_isDefinition_document {fault : DocumentFault} :
    (Failure.document fault).isDefinition = false ↔
      (∃ digits, fault = .longInteger digits) ∨ ∃ isList, fault = .tooDeep isList := by
  cases fault <;> simp [isDefinition]

namespace Service

variable {s : Service} {f : Flow} {document : Option Document} {stored : Stored}
  {held : Option State} {message trigger : Option String} {count : Int} {depth : Nat}
  {turn : Turn} {failure : Failure} {kind : String}

/-! ### Turns that go on with a state -/

theorem continued_eq_some {state : State} :
    s.continued held trigger = some state ↔ trigger ≠ some s.trigger ∧ held = some state := by
  unfold continued
  split_ifs with ht <;> simp [ht]

/-- A turn goes on with a state exactly if it belongs to a flow that is not restarted and has not
ended there. -/
theorem applies_and_continued {state : State} :
    s.applies held trigger count = true ∧ s.continued held trigger = some state ↔
      trigger ≠ some s.trigger ∧ held = some state ∧ state.isComplete = false := by
  rw [continued_eq_some]
  unfold applies
  constructor
  · rintro ⟨ha, ht, rfl⟩
    exact ⟨ht, rfl, by simpa [ht] using ha⟩
  · rintro ⟨ht, rfl, hc⟩
    exact ⟨by simp [ht, hc], ht, rfl⟩

/-! ### Turns with an error -/

theorem run_turn_of_error (ht : (s.run f held message trigger).outcome = .ok turn)
    (he : turn.error = some kind) : ∃ action, turn = errorTurn action kind := by
  rcases s.run_cases f held message trigger with
    ⟨failure, action, -, hrun⟩ | ⟨e, -, -, hrun⟩ | ⟨e, state, -, -, hrun⟩
  · rw [hrun] at ht
    obtain ⟨kind', -, rfl⟩ := failed_eq_ok.1 ht
    cases he
    exact ⟨_, rfl⟩
  · rw [hrun] at ht
    rcases start_eq_ok.1 ht with ⟨x, -, rfl⟩ | ⟨_, kind', -, -, rfl⟩
    · cases he
    · cases he
      exact ⟨_, rfl⟩
  · rw [hrun] at ht
    rcases proceed_eq_ok.1 ht with ⟨r, -, rfl⟩ | ⟨_, kind', -, -, rfl⟩
    · rw [replyTurn_error] at he
      cases he
    · cases he
      exact ⟨_, rfl⟩

theorem handleFlow_turn_of_error
    (ht : (s.handleFlow f stored message trigger count).outcome = .ok turn)
    (he : turn.error = some kind) : ∃ action, turn = errorTurn action kind := by
  rcases s.handleFlow_cases f stored message trigger count with
    ⟨-, hl⟩ | ⟨-, p, ps, -, hl, -⟩ | ⟨-, _, -, -, hl⟩ | ⟨-, _, -, -, hl⟩
  · rw [hl] at ht
    cases ht
    cases he
  · rw [hl] at ht
    cases ht
    cases he
    exact ⟨_, rfl⟩
  · rw [hl] at ht
    cases ht
    cases he
  · rw [hl] at ht
    exact run_turn_of_error ht he

theorem handleFlow_eq_error :
    (s.handleFlow f stored message trigger count).outcome = .error failure ↔
      f.enabled = true ∧ ∃ held, stored.read = .valid held ∧
        s.applies held trigger count = true ∧ s.Fails f held message trigger failure ∧
          failure.reported? = none := by
  unfold handleFlow
  cases f.enabled with
  | false => simp [leftAlone]
  | true =>
    cases stored.read with
    | invalid p ps => simp
    | valid held => cases ha : s.applies held trigger count <;> simp [ha, leftAlone, run_eq_error]

theorem handleFlow_error_eq_some :
    (∃ turn, (s.handleFlow f stored message trigger count).outcome = .ok turn ∧
        turn.error = some kind) ↔
      f.enabled = true ∧
        (((∃ p ps, stored.read = .invalid p ps) ∧ kind = "invalid_state") ∨
          ∃ held, stored.read = .valid held ∧ s.applies held trigger count = true ∧
            ∃ failure, s.Fails f held message trigger failure ∧
              failure.reported? = some kind) := by
  unfold handleFlow
  cases f.enabled with
  | false => simp [leftAlone, Turn.unhandled]
  | true =>
    cases stored.read with
    | invalid p ps => simpa [errorTurn] using eq_comm
    | valid held =>
      cases ha : s.applies held trigger count with
      | false => simp [ha, leftAlone, Turn.unhandled]
      | true => simp [ha, run_error_eq_some]

/-! ### Turns with a document -/

theorem handle_of_fault {d : Document} {fault : DocumentFault} (hn : d ≠ .value .null)
    (hf : Flow.ofDocument d depth = .error fault) :
    s.handle (some d) stored message trigger count depth = unusable fault := by
  have hd : Document.given? (some d) = some d := Document.given?_eq_some.2 ⟨rfl, hn⟩
  simp only [handle, hd, hf]

/-- A fault that is not reported leaves the service, for null has another fault. -/
theorem handle_of_unreported {d : Document} {fault : DocumentFault}
    (hf : Flow.ofDocument d depth = .error fault)
    (hx : (Failure.document fault).isDefinition = false) :
    (s.handle (some d) stored message trigger count depth).outcome = .error (.document fault) := by
  have hn : d ≠ .value .null := by
    rintro rfl
    cases hf
    cases hx
  rw [handle_of_fault hn hf, unusable_eq_error]
  exact ⟨hx, rfl⟩

/-! ### What leaves the service, and what it reports -/

/-- The failures that leave the service: those of a document with too long an integer or too deep
a nesting, and those of an answer that breaks the node it is for. -/
inductive Escapes (s : Service) (document : Option Document) (stored : Stored)
    (message trigger : Option String) (depth : Nat) : Failure → Prop
  | longInteger {d : Document} {digits : Nat} (hd : document = some d)
      (hf : Flow.ofDocument d depth = .error (.longInteger digits)) :
      Escapes s document stored message trigger depth (.document (.longInteger digits))
  | tooDeep {d : Document} {isList : Bool} (hd : document = some d)
      (hf : Flow.ofDocument d depth = .error (.tooDeep isList)) :
      Escapes s document stored message trigger depth (.document (.tooDeep isList))
  | breaks {d : Document} {f : Flow} {state : State} {id : String} {n : Node} {failure : Failure}
      (hd : document = some d) (hf : Flow.ofDocument d depth = .ok f) (he : f.enabled = true)
      (hs : stored.read = .valid (some state)) (hc : state.isComplete = false)
      (ht : trigger ≠ some s.trigger) (hi : f.positionId? state.stepId = some id)
      (hn : f.node? id = some n) (h : n.Breaks (message.getD "") failure) :
      Escapes s document stored message trigger depth failure

/-- What the service reports, under the kind of the error: a document other than null that is no
flow, a stored state that is none, a flow without nodes, a flow without a start where one is
needed, and a position that is no node. -/
inductive Reports (s : Service) (document : Option Document) (stored : Stored)
    (trigger : Option String) (count : Int) (depth : Nat) : String → Prop
  | document {d : Document} {fault : DocumentFault} (hd : document = some d)
      (hn : d ≠ .value .null) (hf : Flow.ofDocument d depth = .error fault)
      (hx : (Failure.document fault).isDefinition = true) :
      Reports s document stored trigger count depth "invalid_definition"
  | state {d : Document} {f : Flow} {p : Problem} {ps : List Problem} (hd : document = some d)
      (hf : Flow.ofDocument d depth = .ok f) (he : f.enabled = true)
      (hs : stored.read = .invalid p ps) :
      Reports s document stored trigger count depth "invalid_state"
  | noNodes {d : Document} {f : Flow} {held : Option State} (hd : document = some d)
      (hf : Flow.ofDocument d depth = .ok f) (he : f.enabled = true)
      (hs : stored.read = .valid held) (ha : s.applies held trigger count = true)
      (hn : f.nodes.isEmpty = true) :
      Reports s document stored trigger count depth "invalid_definition"
  | noStart {d : Document} {f : Flow} {held : Option State} (hd : document = some d)
      (hf : Flow.ofDocument d depth = .ok f) (he : f.enabled = true)
      (hs : stored.read = .valid held) (ha : s.applies held trigger count = true)
      (hn : f.nodes.isEmpty = false)
      (hc : ∀ state, s.continued held trigger = some state → given state.stepId = none)
      (hu : f.entry = .unresolved) :
      Reports s document stored trigger count depth "no_start_node"
  | lost {d : Document} {f : Flow} {held : Option State} {state : State} {id : String}
      (hd : document = some d) (hf : Flow.ofDocument d depth = .ok f) (he : f.enabled = true)
      (hs : stored.read = .valid held) (ha : s.applies held trigger count = true)
      (hn : f.nodes.isEmpty = false) (hc : s.continued held trigger = some state)
      (hi : f.positionId? state.stepId = some id) (hl : f.node? id = none) :
      Reports s document stored trigger count depth "node_not_found"

/-- With a positive bound, an engine is built of every flow that has nodes. -/
theorem build_of_positive (hs : ∀ m, s.maxSteps = some m → 1 ≤ m)
    (hn : f.nodes.isEmpty = false) : ∃ e, Engine.build f s.maxSteps = .ok e := by
  have hm : 1 ≤ s.maxSteps.getD Engine.defaultMaxSteps := by
    cases hb : s.maxSteps with
    | none => decide
    | some m => exact hs m hb
  have hp : (s.maxSteps.getD Engine.defaultMaxSteps).toNat ≠ 0 := by omega
  cases hb : Engine.build f s.maxSteps with
  | ok e => exact ⟨e, rfl⟩
  | error failure =>
    rcases Engine.build_eq_error.1 hb with ⟨he, -⟩ | ⟨-, h0, -⟩
    · cases hn.symm.trans he
    · exact absurd h0 hp

theorem build_eq_error_of_positive (hs : ∀ m, s.maxSteps = some m → 1 ≤ m) :
    Engine.build f s.maxSteps = .error failure ↔
      f.nodes.isEmpty = true ∧ failure = .noNodes := by
  cases hn : f.nodes.isEmpty with
  | true =>
    rw [Engine.build_eq_error]
    simp [hn]
  | false =>
    obtain ⟨e, he⟩ := build_of_positive hs hn
    simp [he]

theorem nodes_of_build {e : Engine} (h : Engine.build f s.maxSteps = .ok e) :
    f.nodes.isEmpty = false := by
  have hn := e.nonempty
  rwa [Engine.build_eq_ok h] at hn

/-- A turn fails exactly with what leaves the service. -/
theorem handle_eq_error (hs : ∀ m, s.maxSteps = some m → 1 ≤ m) :
    (s.handle document stored message trigger count depth).outcome = .error failure ↔
      s.Escapes document stored message trigger depth failure := by
  constructor
  · intro h
    rcases s.handle_cases document stored message trigger count depth with
      ⟨-, hh⟩ | ⟨d, fault, hd, hf, hh⟩ | ⟨d, f, hd, hf, hh⟩
    · rw [hh] at h
      cases h
    · rw [hh] at h
      obtain ⟨hx, rfl⟩ := unusable_eq_error.1 h
      have hd' := (Document.given?_eq_some.1 hd).1
      rcases Failure.not_isDefinition_document.1 hx with ⟨digits, rfl⟩ | ⟨isList, rfl⟩
      · exact .longInteger hd' hf
      · exact .tooDeep hd' hf
    · rw [hh, handleFlow_eq_error] at h
      obtain ⟨he, held, hst, ha, hfail, hk⟩ := h
      -- of the failures of a flow only an answer that breaks its node is not reported
      cases hfail with
      | unbuilt hb =>
        obtain ⟨-, rfl⟩ := (build_eq_error_of_positive hs).1 hb
        cases hk
      | noStart => cases hk
      | lost => cases hk
      | breaks _ hc hi hn hbr =>
        obtain ⟨ht, rfl, hi'⟩ := applies_and_continued.1 ⟨ha, hc⟩
        exact .breaks hd hf he hst hi' ht hi hn hbr
  · intro h
    cases h with
    | longInteger hd hf =>
      rw [hd]
      exact handle_of_unreported hf rfl
    | tooDeep hd hf =>
      rw [hd]
      exact handle_of_unreported hf rfl
    | breaks hd hf he hst hi ht hpos hn hbr =>
      obtain ⟨ha, hc⟩ := applies_and_continued.2 ⟨ht, rfl, hi⟩
      obtain ⟨e, hb⟩ := build_of_positive hs (Flow.isEmpty_of_node? hn)
      rw [hd, handle_of_ok hf, handleFlow_eq_error]
      exact ⟨he, _, hst, ha, .breaks hb hc hpos hn hbr, hbr.reported?⟩

/-- What a turn of a flow that applies fails with is reported under its kind. -/
theorem handle_of_fails {d : Document} (hd : document = some d)
    (hf : Flow.ofDocument d depth = .ok f) (he : f.enabled = true)
    (hst : stored.read = .valid held) (ha : s.applies held trigger count = true)
    (h : s.Fails f held message trigger failure) (hk : failure.reported? = some kind) :
    ∃ turn, (s.handle document stored message trigger count depth).outcome = .ok turn ∧
      turn.error = some kind := by
  rw [hd, handle_of_ok hf, handleFlow_error_eq_some]
  exact ⟨he, .inr ⟨held, hst, ha, failure, h, hk⟩⟩

/-- A turn has an error exactly for what the service reports. -/
theorem handle_error_eq_some (hs : ∀ m, s.maxSteps = some m → 1 ≤ m) :
    (∃ turn, (s.handle document stored message trigger count depth).outcome = .ok turn ∧
        turn.error = some kind) ↔ s.Reports document stored trigger count depth kind := by
  constructor
  · intro h
    rcases s.handle_cases document stored message trigger count depth with
      ⟨-, hh⟩ | ⟨d, fault, hd, hf, hh⟩ | ⟨d, f, hd, hf, hh⟩
    · rw [hh] at h
      obtain ⟨turn, ⟨⟩, ⟨⟩⟩ := h
    · rw [hh] at h
      obtain ⟨turn, ht, hk⟩ := h
      obtain ⟨hx, rfl⟩ := unusable_eq_ok.1 ht
      cases hk
      obtain ⟨hd', hn⟩ := Document.given?_eq_some.1 hd
      exact .document hd' hn hf hx
    · rw [hh, handleFlow_error_eq_some] at h
      obtain ⟨he, h⟩ := h
      rcases h with ⟨⟨p, ps, hst⟩, rfl⟩ | ⟨held, hst, ha, failure, hfail, hk⟩
      · exact .state hd hf he hst
      · cases hfail with
        | unbuilt hb =>
          obtain ⟨hn, rfl⟩ := (build_eq_error_of_positive hs).1 hb
          cases hk
          exact .noNodes hd hf he hst ha hn
        | noStart hb hc hu =>
          cases hk
          exact .noStart hd hf he hst ha (nodes_of_build hb) hc hu
        | lost hb hc hi hn =>
          cases hk
          exact .lost hd hf he hst ha (nodes_of_build hb) hc hi hn
        | breaks _ _ _ _ hbr => cases hbr.reported?.symm.trans hk
  · intro h
    cases h with
    | document hd hn hf hx =>
      rw [hd, handle_of_fault hn hf]
      exact ⟨_, unusable_eq_ok.2 ⟨hx, rfl⟩, rfl⟩
    | state hd hf he hst =>
      rw [hd, handle_of_ok hf, handleFlow_error_eq_some]
      exact ⟨he, .inl ⟨⟨_, _, hst⟩, rfl⟩⟩
    | noNodes hd hf he hst ha hn =>
      have hb := (build_eq_error_of_positive hs).2 ⟨hn, rfl⟩
      exact handle_of_fails hd hf he hst ha (.unbuilt hb) rfl
    | noStart hd hf he hst ha hn hc hu =>
      obtain ⟨e, hb⟩ := build_of_positive hs hn
      exact handle_of_fails hd hf he hst ha (.noStart hb hc hu) rfl
    | lost hd hf he hst ha hn hc hi hl =>
      obtain ⟨e, hb⟩ := build_of_positive hs hn
      exact handle_of_fails hd hf he hst ha (.lost hb hc hi hl) rfl

theorem handle_turn_of_error
    (ht : (s.handle document stored message trigger count depth).outcome = .ok turn)
    (he : turn.error = some kind) : ∃ action, turn = errorTurn action kind := by
  rcases s.handle_cases document stored message trigger count depth with
    ⟨-, hh⟩ | ⟨d, fault, -, -, hh⟩ | ⟨d, f, -, -, hh⟩
  · rw [hh] at ht
    cases ht
    cases he
  · rw [hh] at ht
    obtain ⟨-, rfl⟩ := unusable_eq_ok.1 ht
    cases he
    exact ⟨none, rfl⟩
  · rw [hh] at ht
    exact handleFlow_turn_of_error ht he

/-- **What a turn can come to.** With a positive bound on steps a turn fails exactly with what
leaves the service, it has an error exactly for what the service reports, and a turn with an error
is not handled, says nothing and stores nothing. So it is however deep a document may be nested. -/
theorem handle_outcome {s : Service} (hs : ∀ m, s.maxSteps = some m → 1 ≤ m)
    (document : Option Document) (stored : Stored) (message trigger : Option String)
    (count : Int) (depth : Nat) :
    (∀ failure, (s.handle document stored message trigger count depth).outcome = .error failure ↔
      s.Escapes document stored message trigger depth failure) ∧
    (∀ kind, (∃ turn, (s.handle document stored message trigger count depth).outcome = .ok turn ∧
        turn.error = some kind) ↔ s.Reports document stored trigger count depth kind) ∧
    ∀ turn, (s.handle document stored message trigger count depth).outcome = .ok turn →
      turn.error ≠ none → turn.handled = false ∧ turn.messages = [] ∧ turn.state = none := by
  refine ⟨fun failure => handle_eq_error hs, fun kind => handle_error_eq_some hs, ?_⟩
  intro turn ht he
  obtain ⟨kind, hk⟩ := Option.ne_none_iff_exists'.1 he
  obtain ⟨action, rfl⟩ := handle_turn_of_error ht hk
  exact ⟨rfl, rfl, rfl⟩

/-- A flow with a question that asks for an address by a further entry, and has no text for an
answer that is none. -/
def strictFlow : Flow where
  enabled := true
  startNodeId := "ask"
  nodes := .ofList [
    ("ask", ⟨"ask", "Your address?", [], .question [⟨"default", none, "bye"⟩] none,
      .ofList [("validation", .str "email")]⟩),
    ("bye", ⟨"bye", "Goodbye.", [], .ending, .empty⟩)]

/-- An answer to the question that is no address leaves the service. -/
theorem strictFlow_escapes (depth : Nat) :
    (make none none none).Escapes (some (.flow strictFlow)) (.state ⟨"ask", false, .empty⟩)
      "x" none depth (.noErrorMessage .question) := by
  have hn : ∃ n, strictFlow.node? "ask" = some n ∧ n.Breaks "x" (.noErrorMessage .question) :=
    ⟨_, rfl, .noText (by decide) rfl (by decide) rfl⟩
  obtain ⟨n, hn, hb⟩ := hn
  exact .breaks rfl rfl rfl rfl rfl (by simp) (by decide) hn hb

/-- The theorem for an answer that leaves the service, and for a document that is reported. -/
theorem handle_outcome_strictFlow :
    (∀ m, (make none none none).maxSteps = some m → 1 ≤ m) ∧
    ((make none none none).handle (some (.flow strictFlow)) (.state ⟨"ask", false, .empty⟩)
      "x" none 1 Json.usualDepth).outcome = .error (.noErrorMessage .question) ∧
    ∃ turn, ((make none none none).handle (some (.value (.arr []))) .nothing "x" none 1
      Json.usualDepth).outcome = .ok turn ∧ turn.error = some "invalid_definition" := by
  have hs : ∀ m, (make none none none).maxSteps = some m → 1 ≤ m := by simp [make]
  exact ⟨hs, ((handle_outcome hs _ _ _ _ _ _).1 _).2 (strictFlow_escapes _),
    ((handle_outcome hs _ _ _ _ _ _).2.1 _).2 (.document rfl (by decide) rfl rfl)⟩

/-- It is not so that every turn is returned. -/
theorem handle_not_total :
    ¬∀ s : Service, (∀ m, s.maxSteps = some m → 1 ≤ m) → ∀ (document : Option Document)
      (stored : Stored) (message trigger : Option String) (count : Int),
      ∃ turn, (s.handle document stored message trigger count Json.usualDepth).outcome =
        .ok turn := by
  intro h
  have hs : ∀ m, (make none none none).maxSteps = some m → 1 ≤ m := by simp [make]
  have he : ((make none none none).handle (some (.flow strictFlow)) (.state ⟨"ask", false, .empty⟩)
      "x" none 1 Json.usualDepth).outcome = .error (.noErrorMessage .question) :=
    (handle_eq_error hs).2 (strictFlow_escapes _)
  obtain ⟨turn, ht⟩ := h _ hs (some (.flow strictFlow)) (.state ⟨"ask", false, .empty⟩) "x" none 1
  cases he.symm.trans ht

end Service

end Dialogue
