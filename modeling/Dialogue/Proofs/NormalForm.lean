import Dialogue.Proofs.Saving

/-!
# The form in which flows are saved

A flow that is written and read again need not be the flow that it was, but the second time
nothing changes any more.

* `Node.Settled`: an e-mail address is checked, no further entry is null, and none stands under
  the other key of a field that is not written;
* `Node.reloaded_eq_self_iff`: exactly such nodes are read again as they are;
* `Node.settled_reloaded`: every node that was read again is such a node;
* `Flow.saved_form`: what is read from a saved flow is saved and read as it is, and the flow
  itself is so exactly if its nodes are settled.
-/

namespace Dialogue

namespace Node

variable {n : Node}

/-! ### Settled nodes -/

/-- The nodes that nothing is lost of, and nothing is lent to, when they are written and read
again. -/
structure Settled (n : Node) : Prop where
  checked : ∀ saveAs errorMessage next, n.body ≠ .email false saveAs errorMessage next
  nonnull : ∀ k, n.extras.get? k ≠ some .null
  name : ∀ routes, n.body = .question routes none → n.extras.get? "save_as" = none
  text : ∀ validates saveAs next, n.body = .email validates saveAs none next →
    n.extras.get? "error_message" = none

/-- The body whose open field is a given one. -/
theorem body_of_open? {fd : Field} (ho : n.body.open? = some fd) :
    (∃ routes, n.body = .question routes none ∧ fd = saveAsField) ∨
      ∃ validates saveAs next, n.body = .email validates saveAs none next ∧
        fd = errorMessageField := by
  unfold Body.open? at ho
  split at ho
  · rename_i routes hb
    cases ho
    exact .inl ⟨routes, hb, rfl⟩
  · rename_i validates saveAs next hb
    cases ho
    exact .inr ⟨validates, saveAs, next, hb, rfl⟩
  · cases ho

/-- Nothing stands under the other key of the open field of a settled node. -/
theorem Settled.vacant (h : n.Settled) {fd : Field} (ho : n.body.open? = some fd) :
    n.extras.get? fd.snake = none := by
  rcases body_of_open? ho with ⟨routes, hb, rfl⟩ | ⟨validates, saveAs, next, hb, rfl⟩
  · exact h.name routes hb
  · exact h.text validates saveAs next hb

theorem Settled.of_vacant
    (checked : ∀ saveAs errorMessage next, n.body ≠ .email false saveAs errorMessage next)
    (nonnull : ∀ k, n.extras.get? k ≠ some .null)
    (vacant : ∀ fd, n.body.open? = some fd → n.extras.get? fd.snake = none) : n.Settled where
  checked := checked
  nonnull := nonnull
  name := by
    intro routes hb
    exact vacant saveAsField (by rw [hb]; rfl)
  text := by
    intro validates saveAs next hb
    exact vacant errorMessageField (by rw [hb]; rfl)

theorem Settled.keepsShape (h : n.Settled) : n.KeepsShape := by
  intro fd ho v hv
  rw [h.vacant ho] at hv
  cases hv

theorem Settled.lent? (h : n.Settled) : n.lent? = none := by
  unfold Node.lent?
  cases ho : n.body.open? with
  | none => rfl
  | some fd =>
    show (n.extras.get? fd.snake).bind Json.asText? = none
    rw [h.vacant ho]
    rfl

/-! ### Nodes that are read again as they are -/

/-- A body stays as it is if nothing is lent to it and the address it asks for is checked. -/
theorem Settled.body_reloaded (h : n.Settled) : n.reloaded.body = n.body := by
  rcases n.body_reloaded_cases with ⟨routes, hb, hr⟩ |
    ⟨validates, saveAs, errorMessage, next, hb, hr⟩ | ⟨-, -, hr⟩
  · rw [hr, hb, h.lent?]
  · have hv : validates = true := by
      cases validates with
      | true => rfl
      | false => exact absurd hb (h.checked saveAs errorMessage next)
    rw [hr, hb, h.lent?, hv, Option.or_none]
  · exact hr

/-- The further entries stay as they are: none is null, and none is taken for a field. -/
theorem Settled.extras_reloaded (h : n.Settled) : n.reloaded.extras = n.extras := by
  have hr : n.reloaded.extras =
      n.kept.filter fun k _ => decide (n.body.open?.map Field.snake ≠ some k) := rfl
  rw [hr, Assoc.ext_iff, kept, Assoc.toList_filter, Assoc.toList_filter, List.filter_filter,
    List.filter_eq_self]
  rintro ⟨k, v⟩ hm
  have hg : n.extras.get? k = some v := Assoc.mem_toList_iff.1 hm
  have hv : v ≠ .null := fun hv => h.nonnull k (hv ▸ hg)
  have hk : n.body.open?.map Field.snake ≠ some k := by
    intro ho
    obtain ⟨fd, hfd, rfl⟩ := Option.map_eq_some_iff.1 ho
    cases hg.symm.trans (h.vacant hfd)
  simp [hv, hk]

/-- No further entry of a node that was read again is null. -/
theorem nonnull_reloaded (n : Node) (k : String) : n.reloaded.extras.get? k ≠ some .null := by
  rw [get?_extras_reloaded]
  split_ifs with ho
  · simp
  · intro hk
    have hne := (Option.filter_eq_some_iff.1 hk).2
    simp at hne

/-- The address is checked in every e-mail node that was read again. -/
theorem checked_reloaded (n : Node) (saveAs : String) (errorMessage next : Option String) :
    n.reloaded.body ≠ .email false saveAs errorMessage next := by
  intro he
  rcases n.body_reloaded_cases with ⟨routes, -, hr⟩ | ⟨_, _, _, _, -, hr⟩ | ⟨hk, -, hr⟩
  · cases hr.symm.trans he
  · cases hr.symm.trans he
  · exact hk (kind_of_body (hr.symm.trans he))

/-- A field that is open after the node was read again was open before. -/
theorem open?_of_reloaded {fd : Field} (ho : n.reloaded.body.open? = some fd) :
    n.body.open? = some fd := by
  rcases n.body_reloaded_cases with ⟨routes, hb, hr⟩ |
    ⟨validates, saveAs, errorMessage, next, hb, hr⟩ | ⟨-, -, hr⟩
  · rw [hr] at ho
    rw [hb]
    cases hl : n.lent? with
    | none => rwa [hl] at ho
    | some s =>
      rw [hl] at ho
      cases ho
  · rw [hr] at ho
    rw [hb]
    cases errorMessage with
    | none =>
      cases hl : n.lent? with
      | none => rwa [hl] at ho
      | some s =>
        rw [hl] at ho
        cases ho
    | some m => cases ho
  · rwa [hr] at ho

/-- **One pass is enough.** Every node that was read again is settled. -/
theorem settled_reloaded (n : Node) : n.reloaded.Settled := by
  refine .of_vacant n.checked_reloaded n.nonnull_reloaded fun fd ho => ?_
  -- the entry under the other key was taken for the field
  have hs : n.body.open?.map Field.snake = some fd.snake := by rw [open?_of_reloaded ho]; rfl
  rw [get?_extras_reloaded, if_pos hs]

/-- Exactly the settled nodes are read again as they are. -/
theorem reloaded_eq_self_iff : n.reloaded = n ↔ n.Settled := by
  constructor
  · intro h
    exact h ▸ n.settled_reloaded
  · intro h
    have hb := h.body_reloaded
    have he := h.extras_reloaded
    obtain ⟨id, text, options, body, extras⟩ := n
    exact congrArg₂ (Node.mk id text options) hb he

end Node

namespace Flow

variable {f g : Flow}

/-! ### Saved flows -/

/-- A tidy flow is read from what it is saved as exactly if its nodes are settled. -/
theorem Tidy.ofDocument_document_self {depth : Nat} (h : f.Tidy) :
    ofDocument (.value f.document) depth = .ok f ↔ ∀ e ∈ f.nodes.toList, e.2.Settled := by
  have hself : f = f.reloaded ↔ ∀ e ∈ f.nodes.toList, e.2.Settled := by
    rw [eq_comm, reloaded_eq_mapNodes, mapNodes_eq_self_iff]
    exact forall₂_congr fun e _ => Node.reloaded_eq_self_iff
  rw [h.ofDocument_document, hself]
  exact and_iff_right_of_imp fun hs e he => (hs e he).keepsShape

theorem settled_of_mem_reloaded {e : String × Node} (he : e ∈ f.reloaded.nodes.toList) :
    e.2.Settled := by
  obtain ⟨e', -, rfl⟩ := List.mem_map.1 he
  exact e'.2.settled_reloaded

/-- **The form in which flows are saved.** Let `f` be a flow that was read from a document. If
what `f` is saved as can be read again, as `g`, then `g` is read from what it is saved as, and is
saved as the same once more. It is `f` itself that is read again exactly if all its nodes are
settled. How deep a document may be nested for either reader does not matter. -/
theorem saved_form {d : Document} {depth : Nat} {f : Flow} (hd : ∀ f', d ≠ .flow f')
    (h : ofDocument d depth = .ok f) (depth' : Nat) :
    (∀ g, ofDocument (.value f.document) depth' = .ok g →
      ofDocument (.value g.document) depth' = .ok g ∧
        (ofDocument (.value g.document) depth').map Flow.document = .ok g.document) ∧
    (ofDocument (.value f.document) depth' = .ok f ↔ ∀ e ∈ f.nodes.toList, e.2.Settled) := by
  have ht : f.Tidy := tidy_of_ofDocument hd h
  refine ⟨?_, ht.ofDocument_document_self⟩
  intro g hg
  have htg : g.Tidy := tidy_of_ofDocument (d := .value f.document) nofun hg
  obtain ⟨-, rfl⟩ := ht.ofDocument_document.1 hg
  have hself : ofDocument (.value f.reloaded.document) depth' = .ok f.reloaded :=
    htg.ofDocument_document_self.2 fun e he => settled_of_mem_reloaded he
  exact ⟨hself, by rw [hself]; rfl⟩

/-- The document of a flow whose author left out much: a question has its name under the other
key only, the text for refused answers also, and the address is not checked. -/
def draft : Document :=
  .value (.obj [("startNodeId", .str "ask"), ("nodes", .obj [
    ("ask", .obj [("type", .str "question"), ("text", .str "Your name?"), ("saveAs", .null),
      ("save_as", .str "name"), ("position", .null),
      ("routes", .arr [.obj [("next", .str "mail")]])]),
    ("mail", .obj [("type", .str "email"), ("text", .str "Your address?"), ("validation", .null),
      ("errorMessage", .null), ("error_message", .str "That is no address.")])])])

/-- The flow of that document. -/
def draftFlow : Flow where
  enabled := true
  startNodeId := "ask"
  nodes := .ofList [
    ("ask", ⟨"ask", "Your name?", [], .question [⟨"default", none, "mail"⟩] none,
      .ofList [("save_as", .str "name"), ("position", .null)]⟩),
    ("mail", ⟨"mail", "Your address?", [], .email false "email" none none,
      .ofList [("error_message", .str "That is no address.")]⟩)]

/-- The flow that is read from what that flow is saved as. -/
def savedDraftFlow : Flow where
  enabled := true
  startNodeId := "ask"
  nodes := .ofList [
    ("ask", ⟨"ask", "Your name?", [], .question [⟨"default", none, "mail"⟩] "name", .empty⟩),
    ("mail", ⟨"mail", "Your address?", [], .email true "email" "That is no address." none,
      .empty⟩)]

/-- The theorem for a flow that is not settled: it is not read again as it was, but the flow that
is read instead is. -/
theorem saved_form_draft :
    (∀ f', draft ≠ .flow f') ∧ ofDocument draft Json.usualDepth = .ok draftFlow ∧
    ofDocument (.value draftFlow.document) Json.usualDepth = .ok savedDraftFlow ∧
    ofDocument (.value savedDraftFlow.document) Json.usualDepth = .ok savedDraftFlow ∧
    ¬∀ e ∈ draftFlow.nodes.toList, e.2.Settled := by
  have hd : ∀ f', draft ≠ .flow f' := nofun
  have h : ofDocument draft Json.usualDepth = .ok draftFlow := by decide +kernel
  have hg : ofDocument (.value draftFlow.document) Json.usualDepth = .ok savedDraftFlow := by
    decide +kernel
  obtain ⟨hagain, hself⟩ := saved_form hd h Json.usualDepth
  refine ⟨hd, h, hg, (hagain _ hg).1, fun hs => ?_⟩
  have hne : draftFlow ≠ savedDraftFlow := by decide +kernel
  exact hne (Except.ok.inj ((hself.2 hs).symm.trans hg))

end Flow

end Dialogue
