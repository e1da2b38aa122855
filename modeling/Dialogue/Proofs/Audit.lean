import Dialogue.Flow.Audit
import Dialogue.Proofs.Rest

/-!
# What a passed audit is worth

An audit looks at every link that the engine can follow, and takes the same links as given.

* `Flow.forall_routeFindings`, `Flow.forall_linkFindings`: what is said of a route and of a link,
  and when;
* `Node.Sound`: what the audit demands of a node;
* `Flow.nodeFindings_clean`: the findings about a node hold no error exactly if it is sound;
* `Flow.isValid_iff`: a flow passes the audit exactly if it has nodes, a start, and sound nodes
  only;
* `Flow.closed_of_isValid`: then every link leads to a node;
* `Flow.runs_of_isValid`: hence no chat with the flow reports an error, and no walk meets a
  missing node.
-/

namespace Dialogue

/-- None of the findings is an error. -/
def Clean (l : List Finding) : Prop := ∀ x ∈ l, x.severity ≠ .error

@[simp] theorem clean_nil : Clean [] := by simp [Clean]

@[simp] theorem clean_cons {x : Finding} {l : List Finding} :
    Clean (x :: l) ↔ x.severity ≠ .error ∧ Clean l := List.forall_mem_cons

@[simp] theorem clean_append {l l' : List Finding} : Clean (l ++ l') ↔ Clean l ∧ Clean l' :=
  List.forall_mem_append

theorem clean_flatMap {α : Type} {l : List α} {g : α → List Finding} :
    Clean (l.flatMap g) ↔ ∀ a ∈ l, Clean (g a) := List.forall_mem_flatMap

/-- What the audit demands of a node: every link leads to a key, every route has a known
condition and a target, and only questions and ends may have an entry `routes`. -/
structure Node.Sound (f : Flow) (n : Node) : Prop where
  links : ∀ t ∈ n.links, f.nodes.contains t = true
  routes : ∀ r ∈ n.routes, r.test? ≠ none ∧ given r.next ≠ none
  extras : n.kind ≠ .question → n.kind ≠ .ending → n.extras.contains "routes" = false

theorem Node.sound_iff {f : Flow} {n : Node} :
    n.Sound f ↔ (∀ t ∈ n.links, f.nodes.contains t = true) ∧
      (∀ r ∈ n.routes, r.test? ≠ none ∧ given r.next ≠ none) ∧
        (n.kind ≠ .question → n.kind ≠ .ending → n.extras.contains "routes" = false) :=
  ⟨fun h => ⟨h.links, h.routes, h.extras⟩, fun ⟨hl, hr, he⟩ => ⟨hl, hr, he⟩⟩

namespace Flow

variable {f : Flow}

/-! ### Nodes -/

theorem forall_mem_ite {p : Finding → Prop} {c : Prop} [Decidable c] {x : Finding} :
    (∀ y ∈ (if c then [x] else []), p y) ↔ (c → p x) := by
  by_cases hc : c <;> simp [hc]

/-- What there is to say of a route, and when. -/
theorem forall_routeFindings {p : Finding → Prop} {index : Nat} {isLast : Bool} {r : Route} :
    (∀ x ∈ f.routeFindings index isLast r, p x) ↔
      (r.test? = none → p (.unknownCondition index r.condition)) ∧
      (r.test? = some .default ∧ isLast = false → p (.defaultNotLast index)) ∧
      (given r.next = none → p (.routeWithoutTarget index)) ∧
      ∀ t, given r.next = some t → f.nodes.contains t = false → p (.danglingRoute index t) := by
  rw [routeFindings, List.forall_mem_append, List.forall_mem_append, forall_mem_ite,
    forall_mem_ite, and_assoc]
  refine and_congr_right fun _ => and_congr_right fun _ => ?_
  cases given r.next with
  | none => simp
  | some t => by_cases ht : f.nodes.contains t = true <;> simp [ht]

/-- What there is to say of a node that continues with one link, and when. -/
theorem forall_linkFindings {p : Finding → Prop} {n : Node} :
    (∀ x ∈ f.linkFindings n, p x) ↔
      (n.extras.contains "routes" = true → p (.routesNotAllowed n.kind)) ∧
      ∀ t, given n.next = some t → f.nodes.contains t = false → p (.danglingNext t) := by
  rw [linkFindings, List.forall_mem_append, forall_mem_ite]
  refine and_congr_right fun _ => ?_
  cases given n.next with
  | none => simp
  | some t => by_cases ht : f.nodes.contains t = true <;> simp [ht]

theorem routeFindings_clean {index : Nat} {isLast : Bool} {r : Route} :
    Clean (f.routeFindings index isLast r) ↔
      (r.test? ≠ none ∧ given r.next ≠ none) ∧
        ∀ t, given r.next = some t → f.nodes.contains t = true := by
  rw [Clean, forall_routeFindings]
  simp [Finding.severity, and_assoc]

theorem routesFindings_clean {index : Nat} {routes : List Route} :
    Clean (f.routesFindings index routes) ↔
      ∀ r ∈ routes, (r.test? ≠ none ∧ given r.next ≠ none) ∧
        ∀ t, given r.next = some t → f.nodes.contains t = true := by
  induction routes generalizing index with
  | nil => simp [routesFindings]
  | cons r rs ih =>
    rw [routesFindings, clean_append, routeFindings_clean, ih, List.forall_mem_cons]

theorem linkFindings_clean {n : Node} :
    Clean (f.linkFindings n) ↔
      n.extras.contains "routes" = false ∧
        ∀ t, given n.next = some t → f.nodes.contains t = true := by
  rw [Clean, forall_linkFindings]
  simp [Finding.severity]

/-- The findings about a node hold no error exactly if it is sound. -/
theorem nodeFindings_clean {n : Node} : Clean (f.nodeFindings n) ↔ n.Sound f := by
  rw [Node.sound_iff]
  unfold nodeFindings Node.links Node.routes Node.kind
  cases hb : n.body with
  | start next | message next | email validates saveAs errorMessage next =>
    have hn : n.next = next := by rw [Node.next, hb]
    simp only [linkFindings_clean, hn, Body.kind]
    simp [and_comm]
  | question routes saveAs =>
    have hi : Clean (if n.extras.contains "next" then [.nextIgnored] else []) := by
      split_ifs <;> simp [Finding.severity]
    have hr : Clean (if routes.isEmpty then [.noRoutes] else []) := by
      split_ifs <;> simp [Finding.severity]
    simp only [clean_append, hi, hr, true_and, routesFindings_clean, Body.kind]
    -- the links of a question are the targets of its routes
    constructor
    · intro h
      refine ⟨fun t ht => ?_, fun r hm => (h r hm).1, by simp⟩
      obtain ⟨r, hm, ht⟩ := List.mem_filterMap.1 ht
      exact (h r hm).2 t ht
    · rintro ⟨hl, hr, -⟩ r hm
      exact ⟨hr r hm, fun t ht => hl t (List.mem_filterMap.2 ⟨r, hm, ht⟩)⟩
  | ending =>
    have he : Clean (if n.extras.contains "next" || n.extras.contains "routes" then
        [.endHasSuccessor] else []) := by
      split_ifs <;> simp [Finding.severity]
    rw [iff_true_intro he]
    simp [Body.kind]

/-! ### Flows -/

theorem hasStart_eq_false : f.hasStart = false ↔ f.firstStart? = none := by
  simp [hasStart, firstStart?, Assoc.values]

theorem entry_eq_unresolved :
    f.entry = .unresolved ↔ f.designated? = none ∧ f.firstStart? = none := by
  unfold entry
  cases f.designated? <;> cases f.firstStart? <;> simp

/-- The findings about the start hold no error exactly if there is one. -/
theorem startFindings_clean : Clean f.startFindings ↔ f.entry ≠ .unresolved := by
  rw [Ne, entry_eq_unresolved, ← hasStart_eq_false]
  unfold startFindings designated?
  cases hg : given f.startNodeId with
  | none => cases f.hasStart <;> simp [Finding.severity]
  | some id =>
    by_cases hc : f.nodes.contains id = true
    · simp [hc, Option.filter]
    · cases f.hasStart <;> simp [hc, Option.filter, Finding.severity]

theorem isValid_iff_clean : f.isValid = true ↔ Clean (f.issues.map (·.finding)) := by
  unfold isValid firstError? Clean
  simp

theorem findings_of_issues :
    f.issues.map (·.finding) =
      if f.nodes.isEmpty then [.emptyFlow]
      else f.startFindings ++ f.nodes.toList.flatMap fun e => f.nodeFindings e.2 := by
  unfold issues
  split_ifs
  · rfl
  · simp [List.map_flatMap, Function.comp_def]

/-- A flow passes the audit exactly if it has nodes, a start, and sound nodes only. -/
theorem isValid_iff :
    f.isValid = true ↔
      f.nodes.isEmpty = false ∧ f.entry ≠ .unresolved ∧ ∀ e ∈ f.nodes.toList, e.2.Sound f := by
  rw [isValid_iff_clean, findings_of_issues]
  cases f.nodes.isEmpty with
  | true => simp [Finding.severity]
  | false => simp [startFindings_clean, clean_flatMap, nodeFindings_clean]

/-- A flow that passes the audit has no dangling links. -/
theorem closed_of_isValid (h : f.isValid = true) : f.Closed := by
  intro id n hn t ht hm
  have hs : n.Sound f :=
    (isValid_iff.1 h).2.2 (id, n) (Assoc.mem_toList_iff.2 (node?_eq_some.1 hn).2)
  have hg : given (some t) = some t := given_some_of_ne (Node.ne_empty_of_mem_links ht)
  rw [node?_eq_none_of_given hg, hs.links t ht] at hm
  cases hm

end Flow

/-! ### Engines and chats -/

namespace Engine

variable {e : Engine}

/-- Without dangling links no opening meets a missing node. -/
theorem missingLink_not_mem_begin (hf : e.flow.Closed) (id : String) (prev : Option String) :
    Event.missingLink id prev ∉ e.begin.events := by
  intro h
  obtain ⟨start, hs, hw⟩ := missingLink_mem_begin h
  exact hf.walk_stop_ne_missing (Flow.entry_id?_eq_some hs) id hw

/-- Without dangling links no answer meets a missing node. -/
theorem missingLink_not_mem_process (hf : e.flow.Closed) (c : Cursor) (answer : Option String)
    (id : String) (prev : Option String) :
    Event.missingLink id prev ∉ (e.process c answer).events := by
  intro h
  obtain ⟨source, n, target, hn, ht, hw⟩ := missingLink_mem_process h
  have hm : e.flow.node? target ≠ none := hf source n hn target (Node.mem_links_of_target? ht)
  exact hf.walk_stop_ne_missing (.inr hm) id hw

end Engine

/-- A turn of a flow without dangling links meets no missing node. -/
theorem Service.missingLink_not_mem_run {s : Service} {f : Flow} (hf : f.Closed)
    (held : Option State) (message trigger : Option String) (id : String)
    (prev : Option String) : Event.missingLink id prev ∉ (s.run f held message trigger).events := by
  rcases s.run_cases f held message trigger with
    ⟨failure, action, -, hrun⟩ | ⟨e, hb, -, hrun⟩ | ⟨e, state, hb, -, hrun⟩
  · simp [hrun]
  · rw [hrun, start_events]
    exact Engine.missingLink_not_mem_begin (Engine.build_eq_ok hb ▸ hf) id prev
  · rw [hrun, proceed_events]
    exact Engine.missingLink_not_mem_process (Engine.build_eq_ok hb ▸ hf) _ _ id prev

/-- With a flow that passes the audit no turn has an error, and none meets a missing node. -/
theorem Chat.upholds_of_isValid (s : Service) {f : Flow} (hf : f.isValid = true) :
    Upholds s f (State.RestsIn f) fun outcome events =>
      (∀ turn, outcome = .ok turn → turn.error = none) ∧
        ∀ id prev, Event.missingLink id prev ∉ events where
  quiet := by
    intro outcome hq
    refine ⟨fun turn ht => ?_, by simp⟩
    rw [hq turn ht]
    rfl
  promises := by
    intro held message trigger hheld hi
    have hc : f.Closed := Flow.closed_of_isValid hf
    refine ⟨fun turn ht => ?_, s.missingLink_not_mem_run hc held message trigger⟩
    cases he : turn.error with
    | none => rfl
    | some kind =>
      -- only a flow without nodes or without a start gives a turn with an error
      obtain ⟨hn, hu, -⟩ := Flow.isValid_iff.1 hf
      obtain ⟨failure, hfail, hk⟩ := Service.run_error_eq_some.1 ⟨turn, ht, he⟩
      rcases hfail.of_restsIn hheld hi hk with ⟨-, hn'⟩ | ⟨-, hu'⟩
      · cases hn.symm.trans hn'
      · exact absurd hu' hu
  keeps := by
    intro held message trigger hheld hi turn state ht
    exact Service.turn_restsIn hheld hi ht

/-- **A flow that passes the audit runs without errors.** In a chat with it that starts with
nothing stored no turn has an error, and neither a turn of such a chat nor an answer at any cursor
meets a missing node. -/
theorem Flow.runs_of_isValid {f : Flow} (hf : f.isValid = true) :
    (∀ (s : Service) (calls : List Call), (∀ call ∈ calls, call.IsOn f) →
      ∀ x ∈ Chat.run s (.initial .nothing) calls,
        (∀ turn, x.1.outcome = .ok turn → turn.error = none) ∧
          ∀ id prev, Event.missingLink id prev ∉ x.1.events) ∧
    ∀ e : Engine, e.flow = f → ∀ (c : Cursor) (answer : Option String) (id : String)
      (prev : Option String), Event.missingLink id prev ∉ (e.process c answer).events := by
  constructor
  · intro s calls hcalls x hx
    have hnothing : (Chat.initial .nothing).stored.Keeps (State.RestsIn f) := trivial
    exact ((Chat.upholds_of_isValid s hf).run hcalls hnothing x hx).2
  · rintro e rfl
    exact Engine.missingLink_not_mem_process (closed_of_isValid hf)

/-- The theorem for a flow that passes the audit: in a chat that is restarted and goes on to the
e-mail node, and for answers to an engine of the flow. -/
theorem Flow.runs_of_isValid_helpdesk :
    (helpdesk "bye").isValid = true ∧
    (∀ x ∈ Chat.run (.make none none none) (.initial .nothing)
        [.say (helpdesk "bye") "hi" none, .say (helpdesk "bye") "hi" "init_flow",
          .say (helpdesk "bye") "yes" none],
      (∀ turn, x.1.outcome = .ok turn → turn.error = none) ∧
        ∀ id prev, Event.missingLink id prev ∉ x.1.events) ∧
    ∀ (c : Cursor) (answer : Option String) (id : String) (prev : Option String),
      Event.missingLink id prev ∉
        ((⟨helpdesk "bye", 20, rfl, by decide⟩ : Engine).process c answer).events := by
  have hv : (helpdesk "bye").isValid = true := by decide +kernel
  refine ⟨hv, (runs_of_isValid hv).1 _ _ ?_, (runs_of_isValid hv).2 _ rfl⟩
  simp [Call.say_isOn]

end Dialogue
