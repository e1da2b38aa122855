import Dialogue.Engine.Basic
import Dialogue.Proofs.Walk
import Mathlib.Tactic.ByContra

/-!
# What comes of an answer

Every outcome of the engine is described by what the flow holds, without its events.

* `Traced.bind_outcome_eq_ok`, `Traced.bind_outcome_eq_error`, `Traced.mem_events_bind`: a chain
  of steps taken apart;
* `Flow.positionId?`: the node that an answer is for;
* `Slot.capture?`: what is kept of an answer;
* `Node.Breaks`: the answers that a node can neither take nor refuse;
* `Engine.begin_eq_ok`, `Engine.begin_eq_error`: the outcomes of an opening;
* `Engine.process_eq_ok`, `Engine.process_eq_error`: the outcomes of an answer.
-/

namespace Dialogue

open Text

/-! ### Chains of steps -/

namespace Traced

variable {α β : Type}

theorem bind_outcome_eq_ok {x : Traced α} {f : α → Traced β} {b : β} :
    (x >>= f).outcome = .ok b ↔ ∃ a, x.outcome = .ok a ∧ (f a).outcome = .ok b := by
  obtain ⟨outcome, events⟩ := x
  cases outcome <;> simp

theorem bind_outcome_eq_error {x : Traced α} {f : α → Traced β} {e : Failure} :
    (x >>= f).outcome = .error e ↔
      x.outcome = .error e ∨ ∃ a, x.outcome = .ok a ∧ (f a).outcome = .error e := by
  obtain ⟨outcome, events⟩ := x
  cases outcome <;> simp

theorem mem_events_bind {x : Traced α} {f : α → Traced β} {ev : Event} :
    ev ∈ (x >>= f).events ↔
      ev ∈ x.events ∨ ∃ a, x.outcome = .ok a ∧ ev ∈ (f a).events := by
  obtain ⟨outcome, events⟩ := x
  cases outcome <;> simp

end Traced

/-! ### Engines of a flow -/

namespace Engine

theorem build_eq_ok {f : Flow} {maxSteps : Option Int} {e : Engine}
    (h : build f maxSteps = .ok e) : e.flow = f := by
  dsimp only [build] at h
  split_ifs at h
  cases h
  rfl

theorem build_eq_error {f : Flow} {maxSteps : Option Int} {failure : Failure} :
    build f maxSteps = .error failure ↔
      (f.nodes.isEmpty = true ∧ failure = .noNodes) ∨
      (f.nodes.isEmpty = false ∧ (maxSteps.getD defaultMaxSteps).toNat = 0 ∧
        failure = .stepBound) := by
  dsimp only [build]
  split_ifs with hn hp
  · have h0 : (maxSteps.getD defaultMaxSteps).toNat ≠ 0 := by omega
    simp [hn, h0]
  · have h0 : (maxSteps.getD defaultMaxSteps).toNat = 0 := by omega
    simp [hn, h0, eq_comm]
  · simp [hn, eq_comm]

end Engine

/-! ### Positions -/

/-- The id of the node that an answer is for: that of the cursor, or else the entry. -/
def Flow.positionId? (f : Flow) (stepId : Option String) : Option String :=
  (given stepId).or f.entry.id?

theorem Flow.entry_id?_eq_none {f : Flow} : f.entry.id? = none ↔ f.entry = .unresolved := by
  cases f.entry <;> simp [Entry.id?]

theorem Flow.positionId?_eq_none {f : Flow} {stepId : Option String} :
    f.positionId? stepId = none ↔ given stepId = none ∧ f.entry = .unresolved := by
  rw [Flow.positionId?, Option.or_eq_none_iff, Flow.entry_id?_eq_none]

namespace Engine

variable {e : Engine}

theorem entryId_eq_ok {id : String} :
    e.entryId.outcome = .ok id ↔ e.flow.entry.id? = some id := by
  unfold entryId
  cases e.flow.entry <;> simp [Entry.id?]

theorem entryId_eq_error {failure : Failure} :
    e.entryId.outcome = .error failure ↔
      e.flow.entry = .unresolved ∧ failure = .noStartNode e.flow.startNodeId := by
  unfold entryId
  cases e.flow.entry <;> simp [eq_comm]

theorem positionId_eq_ok {c : Cursor} {id : String} :
    (e.positionId c).outcome = .ok id ↔ e.flow.positionId? c.stepId = some id := by
  unfold positionId Flow.positionId?
  cases given c.stepId with
  | none => simpa using entryId_eq_ok
  | some id' => simp

theorem positionId_eq_error {c : Cursor} {failure : Failure} :
    (e.positionId c).outcome = .error failure ↔
      e.flow.positionId? c.stepId = none ∧ failure = .noStartNode e.flow.startNodeId := by
  unfold positionId
  rw [Flow.positionId?_eq_none]
  cases given c.stepId with
  | none => simpa using entryId_eq_error
  | some id' => simp

theorem nodeAt_eq_ok {id : String} {n : Node} :
    (e.nodeAt id).outcome = .ok n ↔ e.flow.node? id = some n := by
  unfold nodeAt
  cases e.flow.node? id <;> simp

theorem nodeAt_eq_error {id : String} {failure : Failure} :
    (e.nodeAt id).outcome = .error failure ↔
      e.flow.node? id = none ∧ failure = .nodeNotFound id := by
  unfold nodeAt
  cases e.flow.node? id <;> simp [eq_comm]

/-! ### Openings -/

/-- The opening that starts at an id. -/
def openingAt (e : Engine) (id : String) : Opening :=
  let w := e.flow.walk e.maxSteps id
  ⟨w.messages, w.lastId none, w.isComplete⟩

theorem begin_eq_ok {x : Opening} :
    e.begin.outcome = .ok x ↔ ∃ id, e.flow.entry.id? = some id ∧ x = e.openingAt id := by
  simp only [begin, Traced.bind_outcome_eq_ok, entryId_eq_ok]
  simp [openAt, openingAt, eq_comm]

theorem begin_eq_error {failure : Failure} :
    e.begin.outcome = .error failure ↔
      e.flow.entry = .unresolved ∧ failure = .noStartNode e.flow.startNodeId := by
  simp only [begin, Traced.bind_outcome_eq_error, entryId_eq_error]
  simp [openAt]

end Engine

/-! ### Responses -/

namespace Node

variable {n : Node} {answer : String}

/-- Only nodes that are no e-mail nodes can lack a usable text for an answer that they reject. -/
theorem checksEmail_of_ne (hk : n.kind ≠ .email) :
    n.checksEmail = true ↔ n.extras.get? "validation" = some (.str "email") := by
  unfold kind at hk
  unfold checksEmail
  cases hb : n.body <;> simp_all [Body.kind]

theorem rejects_eq_true :
    n.rejects answer = true ↔ n.checksEmail = true ∧ checkEmail answer ≠ none := by
  rw [rejects, Bool.and_eq_true, Option.isSome_iff_ne_none]

/-- What the further entry `error_message` says for an answer that is refused. -/
def refusal : Option Json → Response
  | none => .noText
  | some j =>
    if j.truthy then
      match j with
      | .str s => .again .validationFailed s []
      | _ => .badText
    else .again .validationFailed invalidEmailText []

theorem refusal_eq_noText {entry : Option Json} : refusal entry = .noText ↔ entry = none := by
  cases entry with
  | none => simp [refusal]
  | some j =>
    by_cases ht : j.truthy = true
    · cases j <;> simp [refusal, ht]
    · simp [refusal, ht]

theorem refusal_eq_badText {entry : Option Json} :
    refusal entry = .badText ↔ ∃ j, entry = some j ∧ j.truthy = true ∧ ∀ s, j ≠ .str s := by
  cases entry with
  | none => simp [refusal]
  | some j =>
    by_cases ht : j.truthy = true
    · cases j <;> simp [refusal, ht]
    · simp [refusal, ht]

/-- Outside of e-mail nodes a further entry says what an answer is refused with. -/
theorem rejection_of_ne (hk : n.kind ≠ .email) :
    n.rejection = refusal (n.extras.get? "error_message") := by
  unfold kind at hk
  unfold rejection
  cases hb : n.body with
  | email => simp [hb, Body.kind] at hk
  | _ => rfl

theorem rejection_of_email {validates : Bool} {saveAs : String} {errorMessage next : Option String}
    (hb : n.body = .email validates saveAs errorMessage next) :
    n.rejection = .again .validationFailed ((given errorMessage).getD invalidEmailText) [] := by
  rw [rejection, hb]

/-- An answer that is refused is asked for again, if it can be. -/
theorem rejection_cases (n : Node) :
    (∃ text, n.rejection = .again .validationFailed text []) ∨ n.rejection = .noText ∨
      n.rejection = .badText := by
  unfold rejection
  cases n.body with
  | email => exact .inl ⟨_, rfl⟩
  | _ =>
    cases n.extras.get? "error_message" with
    | none => exact .inr (.inl rfl)
    | some j =>
      by_cases ht : j.truthy = true
      · cases j <;> simp [ht]
      · simp [ht]

theorem rejection_eq_noText :
    n.rejection = .noText ↔ n.kind ≠ .email ∧ n.extras.get? "error_message" = none := by
  by_cases hk : n.kind = .email
  · unfold kind at hk
    cases hb : n.body with
    | email => simp [rejection_of_email hb, hb, kind, Body.kind]
    | _ => simp [hb, Body.kind] at hk
  · rw [rejection_of_ne hk, refusal_eq_noText]
    simp [hk]

theorem rejection_eq_badText :
    n.rejection = .badText ↔ n.kind ≠ .email ∧
      ∃ j, n.extras.get? "error_message" = some j ∧ j.truthy = true ∧ ∀ s, j ≠ .str s := by
  by_cases hk : n.kind = .email
  · unfold kind at hk
    cases hb : n.body with
    | email => simp [rejection_of_email hb, hb, kind, Body.kind]
    | _ => simp [hb, Body.kind] at hk
  · rw [rejection_of_ne hk, refusal_eq_badText]
    simp [hk]

theorem rejection_ne_onward {target : String} {slot : Slot} :
    n.rejection ≠ .onward target slot := by
  rcases n.rejection_cases with ⟨text, h⟩ | h | h <;> simp [h]

theorem respond_eq_onward {target : String} {slot : Slot} :
    n.respond answer = .onward target slot ↔
      n.rejects answer = false ∧ n.target? answer = some target ∧ n.slot = slot := by
  unfold respond
  cases n.rejects answer with
  | true => simpa using rejection_ne_onward
  | false => cases n.target? answer <;> simp

/-- An answer that is no address is met with the rejection of the node. -/
theorem respond_of_rejects (h : n.rejects answer = true) : n.respond answer = n.rejection :=
  if_pos h

/-- A response that neither goes on nor misses a route is that to an answer that is no address. -/
theorem respond_eq_iff_of_ne {x : Response} (ho : ∀ target slot, x ≠ .onward target slot)
    (ha : ∀ text options, x ≠ .again .noRouteMatched text options) :
    n.respond answer = x ↔ n.rejects answer = true ∧ n.rejection = x := by
  constructor
  · rintro rfl
    have hr : n.rejects answer = true := by
      by_contra hr
      rw [Bool.not_eq_true] at hr
      unfold respond at ho ha
      cases ht : n.target? answer <;> simp_all
    exact ⟨hr, (respond_of_rejects hr).symm⟩
  · rintro ⟨hr, rfl⟩
    exact respond_of_rejects hr

theorem respond_eq_noText :
    n.respond answer = .noText ↔ n.kind ≠ .email ∧
      n.extras.get? "validation" = some (.str "email") ∧ checkEmail answer ≠ none ∧
        n.extras.get? "error_message" = none := by
  rw [respond_eq_iff_of_ne (by simp) (by simp), rejection_eq_noText, rejects_eq_true]
  constructor
  · rintro ⟨⟨hc, ha⟩, hk, hm⟩
    exact ⟨hk, (checksEmail_of_ne hk).1 hc, ha, hm⟩
  · rintro ⟨hk, hv, ha, hm⟩
    exact ⟨⟨(checksEmail_of_ne hk).2 hv, ha⟩, hk, hm⟩

theorem respond_eq_badText :
    n.respond answer = .badText ↔ n.kind ≠ .email ∧
      n.extras.get? "validation" = some (.str "email") ∧ checkEmail answer ≠ none ∧
        ∃ j, n.extras.get? "error_message" = some j ∧ j.truthy = true ∧ ∀ s, j ≠ .str s := by
  rw [respond_eq_iff_of_ne (by simp) (by simp), rejection_eq_badText, rejects_eq_true]
  constructor
  · rintro ⟨⟨hc, ha⟩, hk, hm⟩
    exact ⟨hk, (checksEmail_of_ne hk).1 hc, ha, hm⟩
  · rintro ⟨hk, hv, ha, hm⟩
    exact ⟨⟨(checksEmail_of_ne hk).2 hv, ha⟩, hk, hm⟩

end Node

/-! ### Kept answers -/

/-- A value that is neither a text nor made of parts. -/
def Json.IsScalar : Json → Prop
  | .null | .bool _ | .int _ | .float _ => True
  | .str _ | .arr _ | .obj _ => False

/-- A list, or else an object. -/
def Json.IsCompound (isList : Bool) : Json → Prop
  | .arr _ => isList = true
  | .obj _ => isList = false
  | _ => False

/-- What is kept of an answer, if its slot has a name or there is none. -/
def Slot.capture? (answer : String) : Slot → Option (Assoc String String)
  | .nothing => some .empty
  | .name key => some (.ofList [(key, stripString answer)])
  | .scalar _ | .compound _ => none

theorem Slot.ofEntry_eq_scalar {j key : Json} :
    Slot.ofEntry j = .scalar key ↔ j.truthy = true ∧ j.IsScalar ∧ j = key := by
  unfold Slot.ofEntry
  split_ifs with ht
  · cases j <;> simp [Json.IsScalar, ht]
  · simp [ht]

theorem Slot.ofEntry_eq_compound {j : Json} {isList : Bool} :
    Slot.ofEntry j = .compound isList ↔ j.truthy = true ∧ j.IsCompound isList := by
  unfold Slot.ofEntry
  split_ifs with ht
  · cases j <;> cases isList <;> simp [Json.IsCompound, ht]
  · simp [ht]

namespace Node

variable {n : Node} {answer : String}

theorem slot_eq_scalar {key : Json} :
    n.slot = .scalar key ↔ (n.kind ≠ .question ∧ n.kind ≠ .email) ∧
      n.extras.get? "save_as" = some key ∧ key.truthy = true ∧ key.IsScalar := by
  unfold slot kind
  cases n.body with
  | question _ saveAs => simp only [Slot.ofName?, Body.kind]; cases given saveAs <;> simp
  | email => simp [Body.kind]
  | _ =>
    cases n.extras.get? "save_as" with
    | none => simp [Body.kind]
    | some j =>
      simp only [Body.kind, Slot.ofEntry_eq_scalar, Option.some.injEq]
      constructor
      · rintro ⟨ht, hj, rfl⟩
        exact ⟨by simp, rfl, ht, hj⟩
      · rintro ⟨-, rfl, ht, hj⟩
        exact ⟨ht, hj, rfl⟩

theorem slot_eq_compound {isList : Bool} :
    n.slot = .compound isList ↔ (n.kind ≠ .question ∧ n.kind ≠ .email) ∧
      ∃ j, n.extras.get? "save_as" = some j ∧ j.truthy = true ∧ j.IsCompound isList := by
  unfold slot kind
  cases n.body with
  | question _ saveAs => simp only [Slot.ofName?, Body.kind]; cases given saveAs <;> simp
  | email => simp [Body.kind]
  | _ =>
    cases n.extras.get? "save_as" with
    | none => simp [Body.kind]
    | some j => simp [Body.kind, Slot.ofEntry_eq_compound]

theorem mem_links_of_target? {target : String} (h : n.target? answer = some target) :
    target ∈ n.links := by
  unfold target? at h
  unfold links
  cases hb : n.body with
  | question routes saveAs =>
    simp only [hb, Option.bind_eq_some_iff] at h
    obtain ⟨r, hr, h⟩ := h
    exact List.mem_filterMap.2 ⟨r, List.mem_of_find?_eq_some hr, h⟩
  | ending => simp [hb] at h
  | _ => simpa [hb] using h

/-- A node with one link that asks for no address. -/
def IsLink (n : Node) : Prop := n.kind = .start ∨ n.kind = .message

/-- Of the nodes that neither branch nor ask for an address, only start and message nodes lead
on, along their link. -/
theorem target?_eq_some_of_ne {target : String} (hq : n.kind ≠ .question ∧ n.kind ≠ .email) :
    n.target? answer = some target ↔ n.IsLink ∧ given n.next = some target := by
  unfold IsLink kind at *
  unfold target? next
  cases hb : n.body <;> simp_all [Body.kind]

theorem IsLink.ne (h : n.IsLink) : n.kind ≠ .question ∧ n.kind ≠ .email := by
  rcases h with h | h <;> simp [h]

/-- A link node takes an answer, unless it rejects it or has no link. -/
theorem IsLink.respond (h : n.IsLink) (hn : given n.next ≠ none) (ha : n.rejects answer = false) :
    ∃ target, n.respond answer = .onward target n.slot := by
  obtain ⟨target, ht⟩ := Option.ne_none_iff_exists'.1 hn
  exact ⟨target, respond_eq_onward.2 ⟨ha, (target?_eq_some_of_ne h.ne).2 ⟨h, ht⟩, rfl⟩⟩

/-- The answers that a node can neither take nor refuse, and the failure that they give: an
answer that is to be refused for want of a text, and an answer that is to be kept under an entry
that is no name. -/
inductive Breaks (n : Node) (answer : String) : Failure → Prop
  | noText (hk : n.kind ≠ .email) (hv : n.extras.get? "validation" = some (.str "email"))
      (ha : checkEmail answer ≠ none) (hm : n.extras.get? "error_message" = none) :
      Breaks n answer (.noErrorMessage n.kind)
  | badText {j : Json} (hk : n.kind ≠ .email)
      (hv : n.extras.get? "validation" = some (.str "email")) (ha : checkEmail answer ≠ none)
      (hm : n.extras.get? "error_message" = some j) (ht : j.truthy = true)
      (hj : ∀ s, j ≠ .str s) :
      Breaks n answer (.malformed .message ⟨[.key "text"], .notString⟩ [])
  | compoundKey {j : Json} {isList : Bool} (hk : n.IsLink)
      (hn : given n.next ≠ none) (ha : n.rejects answer = false)
      (hs : n.extras.get? "save_as" = some j) (ht : j.truthy = true) (hj : j.IsCompound isList) :
      Breaks n answer (.compoundKey isList)
  | badKey {j : Json} (hk : n.IsLink)
      (hn : given n.next ≠ none) (ha : n.rejects answer = false)
      (hs : n.extras.get? "save_as" = some j) (ht : j.truthy = true) (hj : j.IsScalar) :
      Breaks n answer (Engine.badKey j)

end Node

/-! ### Replies -/

namespace Engine

variable {e : Engine}

theorem goOn_eq_ok {id target answer : String} {slot : Slot} {r : Reply} :
    (e.goOn id target slot answer).outcome = .ok r ↔
      ∃ captured, slot.capture? answer = some captured ∧
        r = advance id (e.flow.walk e.maxSteps target) captured := by
  unfold goOn
  cases slot <;> simp [Slot.capture?, eq_comm]

theorem goOn_eq_error {id target answer : String} {slot : Slot} {failure : Failure} :
    (e.goOn id target slot answer).outcome = .error failure ↔
      (∃ key, slot = .scalar key ∧ failure = badKey key) ∨
        ∃ isList, slot = .compound isList ∧ failure = .compoundKey isList := by
  unfold goOn
  cases slot <;> simp [eq_comm]

/-- A node asks again, or the conversation goes on with a walk from the target of the answer. -/
theorem reply_eq_ok {id answer : String} {n : Node} {r : Reply} :
    (e.reply id n answer).outcome = .ok r ↔
      (∃ reason text options, n.respond answer = .again reason text options ∧
        r = again id reason text options) ∨
      ∃ target captured, n.rejects answer = false ∧ n.target? answer = some target ∧
        n.slot.capture? answer = some captured ∧
        r = advance id (e.flow.walk e.maxSteps target) captured := by
  -- an answer that is taken is responded to by going on
  have taken : ∀ {target}, n.rejects answer = false → n.target? answer = some target →
      n.respond answer = .onward target n.slot := fun ha ht =>
    Node.respond_eq_onward.2 ⟨ha, ht, rfl⟩
  unfold reply
  cases hr : n.respond answer with
  | again reason text options =>
    constructor
    · intro h
      cases h
      exact .inl ⟨reason, text, options, rfl, rfl⟩
    · rintro (⟨_, _, _, h, rfl⟩ | ⟨target, captured, ha, ht, -⟩)
      · cases h
        rfl
      · cases hr.symm.trans (taken ha ht)
  | noText =>
    simp only [reduceCtorEq, false_and, exists_false, false_or, false_iff]
    rintro ⟨target, captured, ha, ht, -⟩
    cases hr.symm.trans (taken ha ht)
  | badText =>
    simp only [reduceCtorEq, false_and, exists_false, false_or, false_iff]
    rintro ⟨target, captured, ha, ht, -⟩
    cases hr.symm.trans (taken ha ht)
  | onward target slot =>
    obtain ⟨ha, ht, hs⟩ := Node.respond_eq_onward.1 hr
    simp [goOn_eq_ok, ha, ht, hs]

/-- An answer to a node fails exactly if it breaks the node. -/
theorem reply_eq_error {id answer : String} {n : Node} {failure : Failure} :
    (e.reply id n answer).outcome = .error failure ↔ n.Breaks answer failure := by
  unfold reply
  constructor
  · intro h
    cases hr : n.respond answer with
    | again => simp [hr] at h
    -- the answer is to be refused for want of a text
    | noText =>
      obtain ⟨hk, hv, ha, hm⟩ := Node.respond_eq_noText.1 hr
      simp only [hr, Except.error.injEq] at h
      exact h ▸ .noText hk hv ha hm
    | badText =>
      obtain ⟨hk, hv, ha, j, hm, ht, hj⟩ := Node.respond_eq_badText.1 hr
      simp only [hr, Except.error.injEq] at h
      exact h ▸ .badText hk hv ha hm ht hj
    -- the answer is taken, and is to be kept under an entry that is no name
    | onward target slot =>
      obtain ⟨ha, htg, hsl⟩ := Node.respond_eq_onward.1 hr
      rw [hr] at h
      rcases goOn_eq_error.1 h with ⟨key, rfl, rfl⟩ | ⟨isList, rfl, rfl⟩
      · obtain ⟨hq, hs, ht, hj⟩ := Node.slot_eq_scalar.1 hsl
        obtain ⟨hk, hn⟩ := (Node.target?_eq_some_of_ne hq).1 htg
        exact .badKey hk (by simp [hn]) ha hs ht hj
      · obtain ⟨hq, j, hs, ht, hj⟩ := Node.slot_eq_compound.1 hsl
        obtain ⟨hk, hn⟩ := (Node.target?_eq_some_of_ne hq).1 htg
        exact .compoundKey hk (by simp [hn]) ha hs ht hj
  · intro h
    cases h with
    | noText hk hv ha hm => rw [Node.respond_eq_noText.2 ⟨hk, hv, ha, hm⟩]
    | badText hk hv ha hm ht hj => rw [Node.respond_eq_badText.2 ⟨hk, hv, ha, _, hm, ht, hj⟩]
    | compoundKey hk hn ha hs ht hj =>
      obtain ⟨target, hr⟩ := hk.respond hn ha
      rw [hr, Node.slot_eq_compound.2 ⟨hk.ne, _, hs, ht, hj⟩]
      exact goOn_eq_error.2 (.inr ⟨_, rfl, rfl⟩)
    | badKey hk hn ha hs ht hj =>
      obtain ⟨target, hr⟩ := hk.respond hn ha
      rw [hr, Node.slot_eq_scalar.2 ⟨hk.ne, hs, ht, hj⟩]
      exact goOn_eq_error.2 (.inl ⟨_, rfl, rfl⟩)

/-! ### Answers at a cursor -/

theorem process_eq_ok {c : Cursor} {answer : Option String} {r : Reply} :
    (e.process c answer).outcome = .ok r ↔
      ∃ id n, e.flow.positionId? c.stepId = some id ∧ e.flow.node? id = some n ∧
        (e.reply id n (answer.getD "")).outcome = .ok r := by
  simp only [process, Traced.bind_outcome_eq_ok, positionId_eq_ok, nodeAt_eq_ok]
  constructor
  · rintro ⟨id, hi, n, hn, hr⟩
    exact ⟨id, n, hi, hn, hr⟩
  · rintro ⟨id, n, hi, hn, hr⟩
    exact ⟨id, hi, n, hn, hr⟩

/-- An answer fails if there is no node that it is for, or if it breaks that node. -/
theorem process_eq_error {c : Cursor} {answer : Option String} {failure : Failure} :
    (e.process c answer).outcome = .error failure ↔
      (e.flow.positionId? c.stepId = none ∧ failure = .noStartNode e.flow.startNodeId) ∨
      ∃ id, e.flow.positionId? c.stepId = some id ∧
        ((e.flow.node? id = none ∧ failure = .nodeNotFound id) ∨
          ∃ n, e.flow.node? id = some n ∧ n.Breaks (answer.getD "") failure) := by
  simp only [process, Traced.bind_outcome_eq_error, positionId_eq_ok, positionId_eq_error,
    nodeAt_eq_ok, nodeAt_eq_error, reply_eq_error]

/-! ### Missing links in the log -/

theorem missingLink_mem_begin {id : String} {prev : Option String}
    (h : Event.missingLink id prev ∈ e.begin.events) :
    ∃ start, e.flow.entry.id? = some start ∧
      (e.flow.walk e.maxSteps start).stop = .missing id := by
  rw [begin, Traced.mem_events_bind] at h
  rcases h with h | ⟨start, hs, h⟩
  · unfold entryId at h
    cases he : e.flow.entry <;> simp [he] at h
  · simp only [openAt, List.mem_append, List.mem_singleton, reduceCtorEq, or_false] at h
    exact ⟨start, entryId_eq_ok.1 hs, (Walk.missingLink_mem_events.1 h).1⟩

theorem missingLink_mem_goOn {source target answer id : String} {slot : Slot}
    {prev : Option String}
    (h : Event.missingLink id prev ∈ (e.goOn source target slot answer).events) :
    (e.flow.walk e.maxSteps target).stop = .missing id := by
  have hw : Event.missingLink id prev ∈
      (e.flow.walk e.maxSteps target).events e.maxSteps (some source) := by
    unfold goOn at h
    cases slot <;> simp [advanceEvents] at h <;> exact h
  exact (Walk.missingLink_mem_events.1 hw).1

theorem missingLink_mem_reply {source answer id : String} {n : Node} {prev : Option String}
    (h : Event.missingLink id prev ∈ (e.reply source n answer).events) :
    ∃ target, n.target? answer = some target ∧
      (e.flow.walk e.maxSteps target).stop = .missing id := by
  unfold reply at h
  cases hr : n.respond answer with
  | onward target slot =>
    rw [hr] at h
    exact ⟨target, (Node.respond_eq_onward.1 hr).2.1, missingLink_mem_goOn h⟩
  | _ => simp [hr] at h

/-- A missing link is noted after an answer only if the walk from its target met one. -/
theorem missingLink_mem_process {c : Cursor} {answer : Option String} {id : String}
    {prev : Option String} (h : Event.missingLink id prev ∈ (e.process c answer).events) :
    ∃ source n target, e.flow.node? source = some n ∧
      n.target? (answer.getD "") = some target ∧
        (e.flow.walk e.maxSteps target).stop = .missing id := by
  simp only [process, Traced.mem_events_bind] at h
  -- only the reply notes missing links
  rcases h with h | ⟨source, -, h | ⟨n, hn, h⟩⟩
  · unfold positionId entryId at h
    cases hg : given c.stepId <;> cases he : e.flow.entry <;> simp [hg, he] at h
  · unfold nodeAt at h
    cases hn : e.flow.node? source <;> simp [hn] at h
  · obtain ⟨target, ht, hw⟩ := missingLink_mem_reply h
    exact ⟨source, n, target, nodeAt_eq_ok.1 hn, ht, hw⟩

end Engine

end Dialogue
