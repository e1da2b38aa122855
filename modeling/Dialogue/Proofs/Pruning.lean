import Dialogue.Proofs.Agreement
import Dialogue.Proofs.Audit

/-!
# What the engine ignores

The audit says of some parts of a flow that they are ignored, or that they can never come into
play. A flow without those parts has the same conversations.

* `Flow.prune`: the flow without routes of an unknown condition, without routes behind a default
  one, and without the further entries `next` and `routes` of nodes that do not follow them;
* `Node.respond_prune`: a pruned node makes the same of every answer;
* `Finding.isIgnored`: the findings about such parts;
* `Flow.issues_heeded_iff`: there are none of them exactly if there is nothing to prune;
* `Flow.prune_preserves`: the engine of a pruned flow has the same outcomes.
-/

namespace Dialogue

/-! ### Pruned flows -/

/-- The routes that can come into play: those with a known condition, up to the first default
one. -/
def pruneRoutes : List Route → List Route
  | [] => []
  | r :: rs =>
    match r.test? with
    | none => pruneRoutes rs
    | some .default => [r]
    | some _ => r :: pruneRoutes rs

/-- A body with the routes that can come into play. -/
def Body.prune : Body → Body
  | .question routes saveAs => .question (pruneRoutes routes) saveAs
  | body => body

/-- The further entries that a kind of node does not follow, although they are named like
links. -/
def NodeKind.strayKeys : NodeKind → List String
  | .start | .message | .email => ["routes"]
  | .question => ["next"]
  | .ending => ["next", "routes"]

/-- The node without what is ignored. -/
def Node.prune (n : Node) : Node :=
  { n with
    body := n.body.prune
    extras := n.extras.filter fun k _ => decide (k ∉ n.kind.strayKeys) }

/-- The flow without what is ignored. -/
def Flow.prune (f : Flow) : Flow := f.mapNodes Node.prune

/-! ### Nothing else changes -/

/-- The routes that are left are tried as before. -/
theorem firstRoute?_pruneRoutes (routes : List Route) (answer : String) :
    firstRoute? (pruneRoutes routes) answer = firstRoute? routes answer := by
  unfold firstRoute?
  fun_induction pruneRoutes routes with
  | case1 => rfl
  | case2 r rs ht ih =>
    -- a route with an unknown condition is not taken
    have hf : r.fires answer = false := by rw [Route.fires, ht]
    rw [List.find?_cons_of_neg (by simp [hf]), ih]
  | case3 r rs ht =>
    -- no route behind a default one is reached
    have hf : r.fires answer = true := by rw [Route.fires, ht]
    simp [hf]
  | case4 r rs c hc ht ih => rw [List.find?_cons, List.find?_cons, ih]

namespace Node

variable {n : Node}

theorem kind_prune (n : Node) : n.prune.kind = n.kind := by
  show n.body.prune.kind = n.body.kind
  cases n.body <;> rfl

/-- A pruned node says the same and leads on alike. -/
theorem alike_prune (n : Node) : n.Alike n.prune := by
  refine ⟨n.kind_prune, rfl, rfl, ?_⟩
  unfold onward prune
  cases n.body <;> rfl

theorem target?_prune (n : Node) (answer : String) :
    n.prune.target? answer = n.target? answer := by
  unfold target? prune
  cases n.body with
  | question routes saveAs =>
    show ((firstRoute? (pruneRoutes routes) answer).bind fun r => given r.next) = _
    rw [firstRoute?_pruneRoutes]
  | start | message | email | ending => rfl

/-- The entries that are read are none of those that are pruned. -/
theorem get?_extras_prune {k : String} (hk : k ≠ "next" ∧ k ≠ "routes") (n : Node) :
    n.prune.extras.get? k = n.extras.get? k := by
  have hs : k ∉ n.kind.strayKeys := by
    unfold NodeKind.strayKeys
    cases n.kind <;> simp [hk.1, hk.2]
  show (n.extras.filter fun k _ => decide (k ∉ n.kind.strayKeys)).get? k = n.extras.get? k
  rw [Assoc.get?_filter]
  cases n.extras.get? k <;> simp [hs]

theorem checksEmail_prune (n : Node) : n.prune.checksEmail = n.checksEmail := by
  unfold checksEmail
  rw [get?_extras_prune (by decide)]
  unfold prune
  cases n.body <;> rfl

theorem rejection_prune (n : Node) : n.prune.rejection = n.rejection := by
  unfold rejection
  rw [get?_extras_prune (by decide)]
  unfold prune
  cases n.body <;> rfl

theorem slot_prune (n : Node) : n.prune.slot = n.slot := by
  unfold slot
  rw [get?_extras_prune (by decide)]
  unfold prune
  cases n.body <;> rfl

/-- A pruned node makes the same of every answer. -/
theorem respond_prune (n : Node) (answer : String) : n.prune.respond answer = n.respond answer := by
  have hu : n.prune.unmatchedText = n.unmatchedText := rfl
  have ho : n.prune.options = n.options := rfl
  rw [respond, respond, rejects, rejects, checksEmail_prune, rejection_prune, target?_prune,
    slot_prune, hu, ho]

end Node

/-! ### Nothing left to prune -/

theorem length_pruneRoutes_le (routes : List Route) :
    (pruneRoutes routes).length ≤ routes.length := by
  fun_induction pruneRoutes routes with
  | case1 => simp
  | case2 r rs ht ih => exact Nat.le_succ_of_le ih
  | case3 r rs ht => simp
  | case4 r rs c hc ht ih => simpa using ih

/-- Routes lose nothing if they have known conditions and none stands behind a default one. -/
theorem pruneRoutes_cons_eq_self_iff {r : Route} {rs : List Route} :
    pruneRoutes (r :: rs) = r :: rs ↔
      r.test? ≠ none ∧ (r.test? = some .default → rs.isEmpty = true) ∧ pruneRoutes rs = rs := by
  rw [pruneRoutes]
  cases ht : r.test? with
  | none =>
    have hl := length_pruneRoutes_le rs
    simp only [ne_eq, not_true_eq_false, false_and, iff_false]
    intro h
    rw [h, List.length_cons] at hl
    omega
  | some c =>
    cases c with
    | default => cases rs <;> simp [pruneRoutes]
    | equals | contains => simp

theorem pruneRoutes_pruneRoutes (routes : List Route) :
    pruneRoutes (pruneRoutes routes) = pruneRoutes routes := by
  fun_induction pruneRoutes routes with
  | case1 => rfl
  | case2 r rs ht ih => exact ih
  | case3 r rs ht => exact pruneRoutes_cons_eq_self_iff.2 ⟨by simp [ht], fun _ => rfl, rfl⟩
  | case4 r rs c hc ht ih =>
    refine pruneRoutes_cons_eq_self_iff.2 ⟨by simp [ht], fun hd => ?_, ih⟩
    exact absurd (Option.some.inj (ht.symm.trans hd)) hc

/-- A table loses nothing if it has none of the keys. -/
theorem Assoc.filter_not_mem_eq_self_iff {κ α : Type} [DecidableEq κ] {t : Assoc κ α}
    {ks : List κ} :
    t.filter (fun k _ => decide (k ∉ ks)) = t ↔ ∀ k ∈ ks, t.contains k = false := by
  simp only [Assoc.ext_iff, toList_filter, List.filter_eq_self, decide_eq_true_eq,
    ← Bool.not_eq_true, contains_iff, keys, List.mem_map]
  grind

namespace Node

variable {n : Node}

theorem prune_eq_self_iff :
    n.prune = n ↔ n.body.prune = n.body ∧ ∀ k ∈ n.kind.strayKeys, n.extras.contains k = false := by
  rw [← Assoc.filter_not_mem_eq_self_iff]
  obtain ⟨id, text, options, body, extras⟩ := n
  simp [prune]

theorem prune_prune (n : Node) : n.prune.prune = n.prune := by
  refine prune_eq_self_iff.2 ⟨?_, fun k hk => ?_⟩
  · show n.body.prune.prune = n.body.prune
    cases n.body with
    | question routes saveAs => exact congrArg (Body.question · saveAs) (pruneRoutes_pruneRoutes _)
    | start | message | email | ending => rfl
  · rw [kind_prune] at hk
    unfold prune Assoc.contains
    rw [Assoc.get?_filter]
    cases n.extras.get? k <;> simp [hk]

end Node

/-- A flow is pruned once. -/
theorem Flow.prune_prune (f : Flow) : f.prune.prune = f.prune := by
  refine Flow.mapNodes_eq_self_iff.2 ?_
  rintro ⟨id, n'⟩ he
  obtain ⟨⟨_, n⟩, -, he⟩ := List.mem_map.1 he
  cases he
  exact n.prune_prune

/-! ### What the audit says -/

/-- Whether a finding is about a part of a flow that is ignored. -/
def Finding.isIgnored : Finding → Bool
  | .routesNotAllowed _ | .nextIgnored | .unknownCondition _ _ | .defaultNotLast _
  | .endHasSuccessor => true
  | .emptyFlow | .noStartNode _ | .staleStart _ | .missingStart | .danglingNext _ | .noRoutes
  | .routeWithoutTarget _ | .danglingRoute _ _ => false

/-- None of the findings is about a part that is ignored. -/
def Heeded (l : List Finding) : Prop := ∀ x ∈ l, x.isIgnored = false

@[simp] theorem heeded_nil : Heeded [] := by simp [Heeded]

@[simp] theorem heeded_cons {x : Finding} {l : List Finding} :
    Heeded (x :: l) ↔ x.isIgnored = false ∧ Heeded l := List.forall_mem_cons

@[simp] theorem heeded_append {l l' : List Finding} :
    Heeded (l ++ l') ↔ Heeded l ∧ Heeded l' := List.forall_mem_append

theorem heeded_flatMap {α : Type} {l : List α} {g : α → List Finding} :
    Heeded (l.flatMap g) ↔ ∀ a ∈ l, Heeded (g a) := List.forall_mem_flatMap

namespace Flow

variable {f : Flow}

theorem routeFindings_heeded {index : Nat} {isLast : Bool} {r : Route} :
    Heeded (f.routeFindings index isLast r) ↔
      r.test? ≠ none ∧ (r.test? = some .default → isLast = true) := by
  rw [Heeded, forall_routeFindings]
  simp [Finding.isIgnored]

theorem routesFindings_heeded {index : Nat} {routes : List Route} :
    Heeded (f.routesFindings index routes) ↔ pruneRoutes routes = routes := by
  induction routes generalizing index with
  | nil => simp [routesFindings, pruneRoutes]
  | cons r rs ih =>
    rw [routesFindings, heeded_append, routeFindings_heeded, ih, pruneRoutes_cons_eq_self_iff,
      and_assoc]

theorem linkFindings_heeded {n : Node} :
    Heeded (f.linkFindings n) ↔ n.extras.contains "routes" = false := by
  rw [Heeded, forall_linkFindings]
  simp [Finding.isIgnored]

/-- Nothing that is said about a node is about a part that is ignored exactly if the node has no
such part. -/
theorem nodeFindings_heeded {n : Node} : Heeded (f.nodeFindings n) ↔ n.prune = n := by
  rw [Node.prune_eq_self_iff]
  unfold nodeFindings Node.kind
  cases hb : n.body with
  | start | message | email =>
    simp [linkFindings_heeded, Body.prune, Body.kind, NodeKind.strayKeys]
  | question routes saveAs =>
    have hi : Heeded (if n.extras.contains "next" then [.nextIgnored] else []) ↔
        n.extras.contains "next" = false := by
      cases n.extras.contains "next" <;> simp [Finding.isIgnored]
    have hr : Heeded (if routes.isEmpty then [.noRoutes] else []) := by
      split_ifs <;> simp [Finding.isIgnored]
    simp only [heeded_append, hi, hr, and_true, routesFindings_heeded]
    simp [Body.prune, Body.kind, NodeKind.strayKeys, and_comm]
  | ending =>
    cases hn : n.extras.contains "next" <;> cases hr : n.extras.contains "routes" <;>
      simp [hn, hr, Body.prune, Body.kind, NodeKind.strayKeys, Finding.isIgnored]

theorem startFindings_heeded (f : Flow) : Heeded f.startFindings := by
  unfold startFindings
  split
  · split_ifs <;> simp [Finding.isIgnored]
  · split_ifs <;> simp [Finding.isIgnored]

/-- The audit calls no part of a flow ignored exactly if there is nothing to prune. -/
theorem issues_heeded_iff : Heeded (f.issues.map (·.finding)) ↔ f.prune = f := by
  rw [findings_of_issues, prune, mapNodes_eq_self_iff]
  split_ifs with he
  · have hl : f.nodes.toList = [] := List.isEmpty_iff.1 he
    simp [hl, Finding.isIgnored]
  · simp [startFindings_heeded, heeded_flatMap, nodeFindings_heeded]

/-- **What the audit calls ignored is ignored.** A pruned flow has nothing that the audit calls
ignored, and its engine has the same outcomes: with every bound it finds the same start and the
same opening, and replies alike to every answer at every position. -/
theorem prune_preserves (f : Flow) :
    (∀ i ∈ f.prune.issues, i.finding.isIgnored = false) ∧
    ∀ maxSteps, f.prune.enters maxSteps = f.enters maxSteps ∧
      f.prune.begins maxSteps = f.begins maxSteps ∧
        ∀ p answer, f.prune.answersAt maxSteps p answer = f.answersAt maxSteps p answer := by
  constructor
  · have h : Heeded (f.prune.issues.map (·.finding)) := issues_heeded_iff.2 f.prune_prune
    exact fun i hi => h i.finding (List.mem_map_of_mem hi)
  · intro maxSteps
    refine ⟨enters_mapNodes Node.alike_prune f maxSteps,
      begins_mapNodes Node.alike_prune f maxSteps, fun p answer => ?_⟩
    exact answersAt_mapNodes Node.alike_prune (fun _ n _ => n.respond_prune _) maxSteps p

end Flow

end Dialogue
