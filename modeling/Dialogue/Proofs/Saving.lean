import Dialogue.Proofs.Agreement
import Dialogue.Proofs.Reload

/-!
# What saving a flow keeps

* `Node.alike_reloaded`: a node that is written and read again says the same and leads on alike;
* `Node.KeepsAnswers`: the nodes that make the same of every answer then;
* `Engine.reply_reloaded_iff`: exactly with those nodes all replies are the same;
* `Flow.reload_iff`: a saved flow is read again exactly if its nodes keep their shape; its
  conversations begin as before, and go on as before exactly if its nodes keep their answers.
-/

namespace Dialogue

namespace Node

variable {n : Node} {answer : String}

/-! ### Nodes that were read again -/

/-- The body of a node that is read again: a question without a name and an e-mail node may be
lent a text, and the address is checked; any other body is the same. -/
theorem body_reloaded_cases (n : Node) :
    (∃ routes, n.body = .question routes none ∧ n.reloaded.body = .question routes n.lent?) ∨
    (∃ validates saveAs errorMessage next, n.body = .email validates saveAs errorMessage next ∧
      n.reloaded.body = .email true saveAs (errorMessage.or n.lent?) next) ∨
    (n.kind ≠ .email ∧ n.body.open? = none ∧ n.reloaded.body = n.body) := by
  have hr : n.reloaded.body = n.body.reloaded n.lent? := rfl
  unfold kind
  rw [hr]
  generalize n.lent? = lent
  cases n.body with
  | question routes saveAs =>
    cases saveAs with
    | none => exact .inl ⟨routes, rfl, rfl⟩
    | some s => exact .inr (.inr ⟨by simp [Body.kind], rfl, rfl⟩)
  | email validates saveAs errorMessage next =>
    refine .inr (.inl ⟨validates, saveAs, errorMessage, next, rfl, ?_⟩)
    cases errorMessage <;> rfl
  | start | message | ending => exact .inr (.inr ⟨by simp [Body.kind], rfl, rfl⟩)

theorem body_reloaded_of_question {routes : List Route} (hb : n.body = .question routes none) :
    n.reloaded.body = .question routes n.lent? := by
  show n.body.reloaded n.lent? = .question routes n.lent?
  rw [hb]
  rfl

theorem body_reloaded_of_email {validates : Bool} {saveAs : String}
    {errorMessage next : Option String} (hb : n.body = .email validates saveAs errorMessage next) :
    n.reloaded.body = .email true saveAs (errorMessage.or n.lent?) next := by
  show n.body.reloaded n.lent? = .email true saveAs (errorMessage.or n.lent?) next
  rw [hb]
  cases errorMessage <;> rfl

theorem exists_of_kind_email (hk : n.kind = .email) :
    ∃ validates saveAs errorMessage next, n.body = .email validates saveAs errorMessage next := by
  unfold kind at hk
  cases hb : n.body with
  | email validates saveAs errorMessage next => exact ⟨validates, saveAs, errorMessage, next, rfl⟩
  | _ =>
    rw [hb] at hk
    cases hk

@[simp] theorem kind_reloaded (n : Node) : n.reloaded.kind = n.kind := by
  rw [kind, kind]
  rcases n.body_reloaded_cases with ⟨_, hb, hr⟩ | ⟨_, _, _, _, hb, hr⟩ | ⟨-, -, hr⟩
  · rw [hb, hr]
    rfl
  · rw [hb, hr]
    rfl
  · rw [hr]

/-- A node that is read again says the same and leads on alike. -/
theorem alike_reloaded (n : Node) : n.Alike n.reloaded := by
  refine ⟨n.kind_reloaded, rfl, rfl, ?_⟩
  rw [onward, onward]
  rcases n.body_reloaded_cases with ⟨_, hb, hr⟩ | ⟨_, _, _, _, hb, hr⟩ | ⟨-, -, hr⟩
  · rw [hb, hr]
  · rw [hb, hr]
  · rw [hr]

@[simp] theorem target?_reloaded (n : Node) (answer : String) :
    n.reloaded.target? answer = n.target? answer := by
  rw [target?, target?]
  rcases n.body_reloaded_cases with ⟨_, hb, hr⟩ | ⟨_, _, _, _, hb, hr⟩ | ⟨-, -, hr⟩
  · rw [hb, hr]
  · rw [hb, hr]
  · rw [hr]

/-- A further entry is kept unless it is null or stands under the other key of the open field. -/
theorem get?_extras_reloaded (n : Node) (k : String) :
    n.reloaded.extras.get? k =
      if n.body.open?.map Field.snake = some k then none
      else (n.extras.get? k).filter (· != .null) := by
  have hr : n.reloaded.extras =
      n.kept.filter fun k _ => decide (n.body.open?.map Field.snake ≠ some k) := rfl
  rw [hr, Assoc.get?_filter, kept, Assoc.get?_filter]
  split_ifs with h <;> cases (n.extras.get? k).filter (· != .null) <;> simp [h]

@[simp] theorem get?_validation_reloaded (n : Node) :
    n.reloaded.extras.get? "validation" = some (.str "email") ↔
      n.extras.get? "validation" = some (.str "email") := by
  have ho : n.body.open?.map Field.snake ≠ some "validation" := by
    unfold Body.open?
    split <;> decide
  rw [get?_extras_reloaded, if_neg ho, Option.filter_eq_some_iff]
  exact and_iff_left (by decide)

/-! ### What is made of an answer -/

/-- A node without further entries keeps its shape. -/
theorem KeepsShape.of_extras_empty (h : n.extras = .empty) : n.KeepsShape := by
  simp [KeepsShape, h]

theorem checksEmail_reloaded_iff :
    n.reloaded.checksEmail = n.checksEmail ↔
      ∀ validates saveAs errorMessage next,
        n.body = .email validates saveAs errorMessage next → validates = true := by
  by_cases hk : n.kind = .email
  · obtain ⟨validates, saveAs, errorMessage, next, hb⟩ := exists_of_kind_email hk
    have hc : n.reloaded.checksEmail = n.checksEmail ↔ validates = true := by
      simp [checksEmail, hb, body_reloaded_of_email hb, eq_comm]
    rw [hc]
    refine ⟨?_, fun h => h _ _ _ _ hb⟩
    rintro hv _ _ _ _ he
    cases hb.symm.trans he
    exact hv
  · have hc : n.reloaded.checksEmail = n.checksEmail := by
      rw [Bool.eq_iff_iff, checksEmail_of_ne hk, checksEmail_of_ne (n.kind_reloaded ▸ hk),
        get?_validation_reloaded]
    refine iff_of_true hc fun validates saveAs errorMessage next hb => ?_
    exact absurd (kind_of_body hb) hk

/-- Outside of e-mail nodes the text for a refused answer is lost exactly if it was null. -/
theorem rejection_reloaded_iff_of_ne (hk : n.kind ≠ .email) :
    n.reloaded.rejection = n.rejection ↔ n.extras.get? "error_message" ≠ some .null := by
  have ho : n.body.open?.map Field.snake ≠ some "error_message" := by
    unfold kind at hk
    unfold Body.open?
    split
    · decide
    · simp_all [Body.kind]
    · decide
  rw [rejection_of_ne hk, rejection_of_ne (n.kind_reloaded ▸ hk), get?_extras_reloaded, if_neg ho]
  cases n.extras.get? "error_message" with
  | none => simp
  | some j => cases j <;> simp [refusal, Option.filter, Json.truthy]

/-- In an e-mail node without a text for refused answers a further entry takes its place. -/
theorem rejection_reloaded_iff_of_email {validates : Bool} {saveAs : String}
    {errorMessage next : Option String} (hb : n.body = .email validates saveAs errorMessage next) :
    n.reloaded.rejection = n.rejection ↔ (errorMessage = none →
      ∀ s, n.extras.get? "error_message" = some (.str s) → s = "" ∨ s = invalidEmailText) := by
  rw [rejection_of_email hb, rejection_of_email (body_reloaded_of_email hb)]
  cases errorMessage with
  | some m => simp
  | none =>
    rw [lent?_of_email hb]
    cases n.extras.get? "error_message" with
    | none => simp
    | some j =>
      cases j with
      | str s =>
        by_cases hs : s = ""
        · simp [hs, Json.asText?]
        · simp [hs, given_some_of_ne hs, Json.asText?]
      | _ => simp [Json.asText?]

/-- Outside of questions and e-mail nodes a further entry says where answers are kept. -/
theorem slot_of_ne (hk : ¬(n.kind = .question ∨ n.kind = .email)) :
    n.slot = ((n.extras.get? "save_as").map Slot.ofEntry).getD .nothing := by
  unfold kind at hk
  unfold slot
  cases hb : n.body with
  | question | email => simp [hb, Body.kind] at hk
  | start | message | ending => cases n.extras.get? "save_as" <;> rfl

/-- Only a question without a name keeps its answers elsewhere. -/
theorem slot_reloaded (h : ∀ routes, n.body ≠ .question routes none) :
    n.reloaded.slot = n.slot := by
  rcases n.body_reloaded_cases with ⟨_, hb, -⟩ | ⟨_, _, _, _, hb, hr⟩ | ⟨-, ho, hr⟩
  · exact absurd hb (h _)
  · rw [slot, slot, hb, hr]
  · by_cases hk : n.kind = .question ∨ n.kind = .email
    · rw [slot, slot, hr]
      unfold kind at hk
      cases hn : n.body with
      | question | email => rfl
      | start | message | ending => simp [hn, Body.kind] at hk
    · have hs : n.reloaded.extras.get? "save_as" =
          (n.extras.get? "save_as").filter (· != .null) := by
        rw [get?_extras_reloaded, ho]
        rfl
      rw [slot_of_ne hk, slot_of_ne (n.kind_reloaded ▸ hk), hs]
      cases n.extras.get? "save_as" with
      | none => rfl
      | some j => cases j <;> rfl

theorem slot_reloaded_of_question {routes : List Route} (hb : n.body = .question routes none) :
    n.slot = .nothing ∧ n.reloaded.slot = .ofName? n.lent? := by
  rw [slot, slot, hb, body_reloaded_of_question hb]
  exact ⟨rfl, rfl⟩

/-- The nodes that make the same of every answer when they are written and read again: an e-mail
address is checked, and its further entry `error_message` says nothing new; no other node that
checks addresses has null there; and the further entry `save_as` of a question that keeps no
answers is empty, unless no answer is taken. -/
structure KeepsAnswers (n : Node) : Prop where
  checked : ∀ validates saveAs errorMessage next,
    n.body = .email validates saveAs errorMessage next → validates = true
  text : ∀ validates saveAs next, n.body = .email validates saveAs none next →
    ∀ s, n.extras.get? "error_message" = some (.str s) → s = "" ∨ s = invalidEmailText
  refusal : n.kind ≠ .email → n.extras.get? "validation" = some (.str "email") →
    n.extras.get? "error_message" ≠ some .null
  name : ∀ routes, n.body = .question routes none →
    ∀ s, n.extras.get? "save_as" = some (.str s) →
      s = "" ∨ ∀ answer, n.rejects answer = false → n.target? answer = none

/-- A node without further entries keeps its answers, if it checks the address that it asks for. -/
theorem KeepsAnswers.of_extras_empty (h : n.extras = .empty)
    (hc : n.kind = .email → n.checksEmail = true) : n.KeepsAnswers := by
  refine ⟨?_, by simp [h], by simp [h], by simp [h]⟩
  intro validates saveAs errorMessage next hb
  simpa [checksEmail, hb] using hc (kind_of_body hb)

/-- A node that keeps its answers makes the same of every answer when it is read again. -/
theorem KeepsAnswers.respond_reloaded (h : n.KeepsAnswers) (answer : String) :
    n.reloaded.respond answer = n.respond answer := by
  have hc : n.reloaded.checksEmail = n.checksEmail := checksEmail_reloaded_iff.2 h.checked
  have hrej : n.reloaded.rejects answer = n.rejects answer := by rw [rejects, rejects, hc]
  unfold respond
  rw [hrej, target?_reloaded]
  cases hr : n.rejects answer with
  | true =>
    -- the answer is no address, and the text it is refused with stays
    have he : n.checksEmail = true := (rejects_eq_true.1 hr).1
    show n.reloaded.rejection = n.rejection
    by_cases hk : n.kind = .email
    · obtain ⟨validates, saveAs, errorMessage, next, hb⟩ := exists_of_kind_email hk
      exact (rejection_reloaded_iff_of_email hb).2 fun hm => h.text _ _ _ (hm ▸ hb)
    · exact (rejection_reloaded_iff_of_ne hk).2 (h.refusal hk ((checksEmail_of_ne hk).1 he))
  | false =>
    cases ht : n.target? answer with
    | none => rfl
    | some target =>
      -- the answer is taken, and is kept where it was before
      show Response.onward target n.reloaded.slot = .onward target n.slot
      by_cases hq : ∃ routes, n.body = .question routes none
      · obtain ⟨routes, hb⟩ := hq
        obtain ⟨hs, hs'⟩ := slot_reloaded_of_question hb
        have hl : given n.lent? = none := by
          rw [lent?_of_question hb]
          cases hg : n.extras.get? "save_as" with
          | none => rfl
          | some j =>
            cases j with
            | str s =>
              rcases h.name routes hb s hg with rfl | hna
              · rfl
              · cases ht.symm.trans (hna answer hr)
            | _ => rfl
        rw [hs, hs', Slot.ofName?, hl]
      · rw [slot_reloaded fun routes hb => hq ⟨routes, hb⟩]

end Node

/-! ### Replies -/

/-- Whether an outcome is that of an answer that is no address. -/
def isRejection : Except Failure Reply → Bool
  | .ok r => decide (r.reason = some .validationFailed)
  | .error (.noErrorMessage _) => true
  | .error (.malformed .message _ _) => true
  | .error _ => false

namespace Engine

variable {e e' : Engine}

/-- The outcome of an answer tells whether it was rejected. -/
theorem isRejection_reply (e : Engine) (id : String) (n : Node) (answer : String) :
    isRejection (e.reply id n answer).outcome = n.rejects answer := by
  unfold reply Node.respond
  cases n.rejects answer with
  | true =>
    rcases n.rejection_cases with ⟨text, h⟩ | h | h <;> simp [h, isRejection, again]
  | false =>
    cases n.target? answer with
    | none => simp [isRejection, again]
    | some target => cases n.slot <;> simp [goOn, isRejection, advance, badKey]

/-- The outcome of a rejected answer tells the rejection. -/
theorem rejection_of_outcome {id answer : String} {n n' : Node} (hn : n.rejects answer = true)
    (hn' : n'.rejects answer = true)
    (h : (e'.reply id n' answer).outcome = (e.reply id n answer).outcome) :
    n'.rejection = n.rejection := by
  unfold reply at h
  rw [Node.respond_of_rejects hn, Node.respond_of_rejects hn'] at h
  rcases n.rejection_cases with ⟨text, hr⟩ | hr | hr <;>
    rcases n'.rejection_cases with ⟨text', hr'⟩ | hr' | hr' <;>
      simp_all [again]

section Reloaded

/-! A node all whose replies stay as they are when it is written and read again. -/

variable {id : String} {n : Node}
  (hr : ∀ answer, (e'.reply id n.reloaded answer).outcome = (e.reply id n answer).outcome)

include hr

/-- The same answers are rejected. -/
theorem rejects_reloaded_of_reply (answer : String) :
    n.reloaded.rejects answer = n.rejects answer := by
  rw [← isRejection_reply e' id, ← isRejection_reply e id, hr]

/-- The check of addresses stays as it is, and what is said to an answer that is none. -/
theorem rejection_reloaded_of_reply :
    n.reloaded.checksEmail = n.checksEmail ∧
      (n.checksEmail = true → n.reloaded.rejection = n.rejection) := by
  -- the empty answer is no address, so it tells whether addresses are checked
  have hempty : ∀ m : Node, m.rejects "" = m.checksEmail := by
    intro m
    have hc : (checkEmail "").isSome = true := by decide
    rw [Node.rejects, hc, Bool.and_true]
  have hrej : n.reloaded.rejects "" = n.rejects "" := rejects_reloaded_of_reply hr ""
  constructor
  · rw [← hempty, ← hempty, hrej]
  · intro hn
    have hn' : n.rejects "" = true := (hempty n).trans hn
    exact rejection_of_outcome hn' (hrej.trans hn') (hr "")

/-- If the node is a question that is lent a name, then it takes no answer. -/
theorem target?_eq_none_of_reply {routes : List Route} (hb : n.body = .question routes none)
    {s : String} (hs : n.extras.get? "save_as" = some (.str s)) (hne : s ≠ "") {answer : String}
    (ha : n.rejects answer = false) : n.target? answer = none := by
  by_contra ht
  obtain ⟨target, ht⟩ := Option.ne_none_iff_exists'.1 ht
  obtain ⟨hslot, hslot'⟩ := Node.slot_reloaded_of_question hb
  have hlent : n.lent? = some s := by
    rw [Node.lent?_of_question hb, hs]
    rfl
  rw [hlent, Slot.ofName?, given_some_of_ne hne] at hslot'
  -- the first reply keeps nothing, the second one keeps the answer
  have h₁ : (e.reply id n answer).outcome =
      .ok (advance id (e.flow.walk e.maxSteps target) .empty) :=
    reply_eq_ok.2 (.inr ⟨target, .empty, ha, ht, by rw [hslot]; rfl, rfl⟩)
  have h₂ : (e'.reply id n.reloaded answer).outcome =
      .ok (advance id (e'.flow.walk e'.maxSteps target)
        (.ofList [(s, Text.stripString answer)])) :=
    reply_eq_ok.2 (.inr ⟨target, _, (rejects_reloaded_of_reply hr answer).trans ha,
      (n.target?_reloaded answer).trans ht, by rw [hslot']; rfl, rfl⟩)
  have hcaptured : Assoc.ofList [(s, Text.stripString answer)] = .empty :=
    congrArg Reply.captured (Except.ok.inj (h₂.symm.trans ((hr answer).trans h₁)))
  cases congrArg Assoc.toList hcaptured

/-- The node keeps its answers. -/
theorem keepsAnswers_of_reply : n.KeepsAnswers := by
  obtain ⟨hc, hrejection⟩ := rejection_reloaded_of_reply hr
  have checked := Node.checksEmail_reloaded_iff.1 hc
  refine ⟨checked, ?_, ?_, ?_⟩
  · intro validates saveAs next hb
    have hv : n.checksEmail = true := by
      simpa [Node.checksEmail, hb] using checked _ _ _ _ hb
    exact (Node.rejection_reloaded_iff_of_email hb).1 (hrejection hv) rfl
  · intro hk hv
    have hn : n.checksEmail = true := (Node.checksEmail_of_ne hk).2 hv
    exact (Node.rejection_reloaded_iff_of_ne hk).1 (hrejection hn)
  · intro routes hb s hs
    refine or_iff_not_imp_left.2 fun hne answer ha => ?_
    exact target?_eq_none_of_reply hr hb hs hne ha

end Reloaded

/-- **What saving a node keeps.** The replies at a node stay as they are when it is written and
read again exactly if it keeps its answers. -/
theorem reply_reloaded_iff (hb : e'.maxSteps = e.maxSteps)
    (h : e.flow.AgreesOn e'.flow fun _ => True) (id : String) {n : Node} :
    (∀ answer, (e'.reply id n.reloaded answer).outcome = (e.reply id n answer).outcome) ↔
      n.KeepsAnswers := by
  constructor
  · exact keepsAnswers_of_reply
  · intro hk answer
    exact reply_agrees hb h n.kind_reloaded (hk.respond_reloaded answer) fun _ _ => trivial

end Engine

namespace Flow

variable {f : Flow}

/-! ### Flows -/

theorem reloaded_eq_mapNodes (f : Flow) : f.reloaded = f.mapNodes Node.reloaded := rfl

theorem begins_reloaded (f : Flow) (maxSteps : Option Int) :
    f.reloaded.begins maxSteps = f.begins maxSteps :=
  f.begins_mapNodes Node.alike_reloaded maxSteps

/-- If all answers stay as they are, then the nodes keep them. -/
theorem keepsAnswers_of_answers
    (h : ∀ maxSteps c answer, f.reloaded.answers maxSteps c answer = f.answers maxSteps c answer)
    {id : String} {n : Node} (hn : f.node? id = some n) : n.KeepsAnswers := by
  have hid : id ≠ "" := (node?_eq_some.1 hn).1
  rcases build_mapNodes_cases Node.alike_reloaded f none with
    ⟨failure, hb, -⟩ | ⟨e, e', hb, hb', rfl, he', hm, ha⟩
  · -- the flow has a node, and there is no bound of zero
    rcases Engine.build_eq_error.1 hb with ⟨he, -⟩ | ⟨-, h0, -⟩
    · cases (isEmpty_of_node? hn).symm.trans he
    · cases h0
  · have hn' : e'.flow.node? id = some n.reloaded := by
      rw [he', node?_mapNodes, hn]
      rfl
    refine (Engine.reply_reloaded_iff hm ha id).1 fun answer => ?_
    have hp : (e'.process ⟨some id, .empty⟩ answer).outcome =
        (e.process ⟨some id, .empty⟩ answer).outcome := by
      simpa only [answers, reloaded_eq_mapNodes, hb, hb', Except.bind] using
        h none ⟨some id, .empty⟩ answer
    simpa [Engine.process_outcome, positionId?, given_some_of_ne hid, Engine.outcomeAt, hn, hn']
      using hp

/-- If the nodes keep their answers, then all answers stay as they are. -/
theorem answers_reloaded (h : ∀ id n, f.node? id = some n → n.KeepsAnswers)
    (maxSteps : Option Int) (c : Cursor) (answer : Option String) :
    f.reloaded.answers maxSteps c answer = f.answers maxSteps c answer :=
  answers_mapNodes Node.alike_reloaded (fun id n hn => (h id n hn).respond_reloaded _) maxSteps c

/-- The answers to a flow stay as they are when it is written and read again exactly if its nodes
keep them. The node under the empty id is never reached. -/
theorem answers_reloaded_iff :
    (∀ maxSteps c answer, f.reloaded.answers maxSteps c answer = f.answers maxSteps c answer) ↔
      ∀ e ∈ f.nodes.toList, e.1 ≠ "" → e.2.KeepsAnswers := by
  constructor
  · rintro h ⟨id, n⟩ hm hid
    exact keepsAnswers_of_answers h (node?_eq_some.2 ⟨hid, Assoc.mem_toList_iff.1 hm⟩)
  · intro h maxSteps c answer
    refine answers_reloaded (fun id n hn => ?_) maxSteps c answer
    obtain ⟨hid, hg⟩ := node?_eq_some.1 hn
    exact h (id, n) (Assoc.mem_toList_iff.2 hg) hid

/-- **What saving a flow keeps.** For a flow `f` that was read from a document, what it is saved
as is read again exactly if its nodes keep their shape. The conversations with the flow `g` that
is read then begin as those with `f` do, and they go on as those do exactly if the nodes of `f`
keep their answers. How deep a document may be nested for either reader does not matter. -/
theorem reload_iff {d : Document} {depth : Nat} {f : Flow} (hd : ∀ f', d ≠ .flow f')
    (h : ofDocument d depth = .ok f) (depth' : Nat) :
    ((∃ g, ofDocument (.value f.document) depth' = .ok g) ↔
      ∀ e ∈ f.nodes.toList, e.2.KeepsShape) ∧
    ∀ g, ofDocument (.value f.document) depth' = .ok g →
      (∀ maxSteps, g.begins maxSteps = f.begins maxSteps) ∧
      ((∀ maxSteps c answer, g.answers maxSteps c answer = f.answers maxSteps c answer) ↔
        ∀ e ∈ f.nodes.toList, e.1 ≠ "" → e.2.KeepsAnswers) := by
  have ht : f.Tidy := tidy_of_ofDocument hd h
  constructor
  · constructor
    · rintro ⟨g, hg⟩
      exact (ht.ofDocument_document.1 hg).1
    · exact fun hk => ⟨f.reloaded, ht.ofDocument_document.2 ⟨hk, rfl⟩⟩
  · intro g hg
    obtain ⟨-, rfl⟩ := ht.ofDocument_document.1 hg
    exact ⟨f.begins_reloaded, answers_reloaded_iff⟩

/-- The document of a flow that asks for an address, with what it holds under `validation`. -/
def mailbox (validation : Json) : Document :=
  .value (.obj [("startNodeId", .str "mail"), ("nodes", .obj [
    ("mail", .obj [("type", .str "email"), ("text", .str "Your address?"),
      ("validation", validation), ("next", .str "bye")]),
    ("bye", .obj [("type", .str "end"), ("text", .str "Goodbye.")])])])

/-- The flow of that document. -/
def mailboxFlow (validates : Bool) : Flow where
  enabled := true
  startNodeId := "mail"
  nodes := .ofList [
    ("mail", ⟨"mail", "Your address?", [], .email validates "email" none "bye", .empty⟩),
    ("bye", ⟨"bye", "Goodbye.", [], .ending, .empty⟩)]

/-- The theorem for a flow whose nodes keep their shape and their answers. -/
theorem reload_iff_mailbox :
    (∀ f', mailbox (.str "email") ≠ .flow f') ∧
    ofDocument (mailbox (.str "email")) Json.usualDepth = .ok (mailboxFlow true) ∧
    ∃ g, ofDocument (.value (mailboxFlow true).document) Json.usualDepth = .ok g ∧
      (∀ maxSteps, g.begins maxSteps = (mailboxFlow true).begins maxSteps) ∧
      ∀ maxSteps c answer,
        g.answers maxSteps c answer = (mailboxFlow true).answers maxSteps c answer := by
  have hd : ∀ f', mailbox (.str "email") ≠ .flow f' := nofun
  have h : ofDocument (mailbox (.str "email")) Json.usualDepth = .ok (mailboxFlow true) := by
    decide +kernel
  have hn : ∀ e ∈ (mailboxFlow true).nodes.toList,
      e.2.extras = .empty ∧ (e.2.kind = .email → e.2.checksEmail = true) := by decide +kernel
  obtain ⟨hreads, hgoes⟩ := reload_iff hd h Json.usualDepth
  obtain ⟨g, hg⟩ := hreads.2 fun e he => .of_extras_empty (hn e he).1
  obtain ⟨hb, ha⟩ := hgoes g hg
  exact ⟨hd, h, g, hg, hb, ha.2 fun e he _ => .of_extras_empty (hn e he).1 (hn e he).2⟩

/-- It is not so that every flow that was read goes on as before when it is saved and read again:
an e-mail node that takes every answer then refuses those that are no addresses. -/
theorem not_reload_preserves :
    ¬∀ (d : Document) (f : Flow), (∀ f', d ≠ .flow f') → ofDocument d Json.usualDepth = .ok f →
      ∃ g, ofDocument (.value f.document) Json.usualDepth = .ok g ∧
        ∀ m : Int, 1 ≤ m → ∀ (c : Cursor) (answer : Option String),
          g.answers (some m) c answer = f.answers (some m) c answer := by
  intro h
  have hf : ofDocument (mailbox .null) Json.usualDepth = .ok (mailboxFlow false) := by
    decide +kernel
  obtain ⟨g, hg, ha⟩ := h (mailbox .null) (mailboxFlow false) nofun hf
  have hg' : ofDocument (.value (mailboxFlow false).document) Json.usualDepth =
      .ok (mailboxFlow true) := by decide +kernel
  cases hg.symm.trans hg'
  have hx := ha 20 (by decide) ⟨some "mail", .empty⟩ "x"
  revert hx
  decide +kernel

end Flow

end Dialogue
