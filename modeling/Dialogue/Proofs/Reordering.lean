import Dialogue.Proofs.Agreement
import Dialogue.Proofs.Locality
import Dialogue.Proofs.StartFindings
import Mathlib.Data.List.Perm.Basic

/-!
# Nodes in another order

The nodes of a flow stand in some order, and a conversation looks them up by their ids. The order is
seen only where no start is named and the first of several start nodes stands in for it.

* `Assoc.get?_of_perm`: a table with its entries in another order holds the same under each key;
* `Flow.Reorders`: a flow with its nodes in another order;
* `Flow.Reorders.issues_perm`: the same issues are found, with each node's issues together;
* `Flow.Reorders.entry_eq`: conversations start at the same node, if the named start is found or at
  most one node is a start node;
* `Engine.process_reordered`, `Engine.begin_reordered`: an answer at a given step id, and an opening
  from the same entry;
* `Flow.order_seen_by_fallback`: what the order of the nodes cannot change.
-/

namespace Dialogue

/-! ### Tables and lists in another order -/

namespace Assoc

variable {κ α : Type} {t u : Assoc κ α}

theorem get?_of_perm [DecidableEq κ] (h : t.toList.Perm u.toList) (k : κ) : u.get? k = t.get? k := by
  ext v
  rw [← mem_toList_iff, ← mem_toList_iff, h.mem_iff]

theorem contains_of_perm [DecidableEq κ] (h : t.toList.Perm u.toList) : u.contains = t.contains := by
  funext k
  rw [contains, contains, get?_of_perm h]

theorem isEmpty_of_perm (h : t.toList.Perm u.toList) : u.isEmpty = t.isEmpty := by
  rw [Bool.eq_iff_iff, isEmpty, isEmpty, List.isEmpty_iff_length_eq_zero,
    List.isEmpty_iff_length_eq_zero, h.length_eq]

end Assoc

/-- What is unique in a list is found in every order. -/
theorem find?_of_perm {α : Type} {p : α → Bool} {l l' : List α} (h : l.Perm l')
    (hp : ∀ x ∈ l, ∀ y ∈ l, p x = true → p y = true → x = y) : l'.find? p = l.find? p := by
  cases hx : l.find? p with
  | none =>
    rw [List.find?_eq_none] at hx ⊢
    exact fun x hm => hx x (h.mem_iff.2 hm)
  | some x =>
    have hpx : p x = true := List.find?_some hx
    have hmx : x ∈ l := List.mem_of_find?_eq_some hx
    have hfound : (l'.find? p).isSome = true :=
      List.find?_isSome.2 ⟨x, h.mem_iff.1 hmx, hpx⟩
    obtain ⟨y, hy⟩ := Option.isSome_iff_exists.1 hfound
    have hmy : y ∈ l := h.mem_iff.2 (List.mem_of_find?_eq_some hy)
    rw [hy, hp x hmx y hmy hpx (List.find?_some hy)]

namespace Flow

variable {f g : Flow}

/-- A flow with its nodes in another order. -/
structure Reorders (f g : Flow) : Prop where
  enabled : g.enabled = f.enabled
  startNodeId : g.startNodeId = f.startNodeId
  nodes : f.nodes.toList.Perm g.nodes.toList

/-- At most one node of a flow is a start node. -/
def HasSoleStart (f : Flow) : Prop :=
  ∀ x ∈ f.nodes.toList, ∀ y ∈ f.nodes.toList, x.2.kind = .start → y.2.kind = .start → x = y

/-! ### Findings -/

/-- What there is to say of a node depends on the ids of the other nodes only. -/
theorem nodeFindings_congr (h : g.nodes.contains = f.nodes.contains) (n : Node) :
    g.nodeFindings n = f.nodeFindings n := by
  have hroutes : ∀ index routes, g.routesFindings index routes = f.routesFindings index routes := by
    intro index routes
    induction routes generalizing index with
    | nil => rfl
    | cons r rs ih => rw [routesFindings, routesFindings, ih, routeFindings, routeFindings, h]
  unfold nodeFindings linkFindings
  simp only [hroutes, h]

namespace Reorders

theorem hasStart_eq (h : f.Reorders g) : g.hasStart = f.hasStart := by
  rw [Bool.eq_iff_iff, hasStart, hasStart, List.any_eq_true, List.any_eq_true]
  have hvalues : ∀ n, n ∈ g.nodes.values ↔ n ∈ f.nodes.values := fun n =>
    (h.nodes.map Prod.snd).mem_iff.symm
  simp only [hvalues]

theorem startFindings_eq (h : f.Reorders g) : g.startFindings = f.startFindings := by
  unfold startFindings
  rw [h.startNodeId, h.hasStart_eq, Assoc.contains_of_perm h.nodes]

/-- The issues of a flow with its nodes in another order are the same, in another order. -/
theorem issues_perm (h : f.Reorders g) : f.issues.Perm g.issues := by
  have hnodes : f.nodeIssues.Perm g.nodeIssues := by
    refine h.nodes.flatMap fun e _ => ?_
    rw [nodeFindings_congr (Assoc.contains_of_perm h.nodes)]
  unfold issues
  rw [Assoc.isEmpty_of_perm h.nodes, h.startFindings_eq]
  split_ifs
  · exact .refl _
  · exact hnodes.append_left _

theorem isValid_eq (h : f.Reorders g) : g.isValid = f.isValid := by
  rw [Bool.eq_iff_iff, isValid_iff_clean, isValid_iff_clean]
  have hfindings := h.issues_perm.map (·.finding)
  unfold Clean
  simp only [hfindings.mem_iff]

/-! ### Entries -/

theorem designated?_eq (h : f.Reorders g) : g.designated? = f.designated? := by
  rw [designated?, designated?, h.startNodeId, Assoc.contains_of_perm h.nodes]

/-- Conversations start at the same node, unless one of several start nodes stands in for the start
that the flow should name. -/
theorem entry_eq (h : f.Reorders g) (hs : f.designated? ≠ none ∨ f.HasSoleStart) :
    g.entry = f.entry := by
  unfold entry
  rw [h.designated?_eq]
  rcases hs with hs | hs
  · obtain ⟨id, hid⟩ := Option.ne_none_iff_exists'.1 hs
    rw [hid]
  · have hfirst : g.firstStart? = f.firstStart? := by
      unfold firstStart?
      rw [find?_of_perm h.nodes]
      intro x hx y hy hkx hky
      exact hs x hx y hy (of_decide_eq_true hkx) (of_decide_eq_true hky)
    rw [hfirst]

/-! ### Conversations -/

/-- The same node stands under every id. -/
theorem sameOn (h : f.Reorders g) : f.SameOn g fun _ => True := by
  refine ⟨fun id _ => ?_, fun _ _ _ _ _ _ => trivial⟩
  rw [node?, node?, Assoc.get?_of_perm h.nodes]

end Reorders

end Flow

namespace Engine

variable {e e' : Engine}

/-- An answer at a given step id has the same outcome and the same log. -/
theorem process_reordered (hb : e'.maxSteps = e.maxSteps) (h : e.flow.Reorders e'.flow) {c : Cursor}
    (hc : given c.stepId ≠ none) (answer : Option String) :
    e'.process c answer = e.process c answer := by
  obtain ⟨id, hid⟩ := Option.ne_none_iff_exists'.1 hc
  exact process_sameOn hb h.sameOn ⟨id, hid, trivial⟩

theorem entryId_reordered (h : e.flow.Reorders e'.flow) (hentry : e'.flow.entry = e.flow.entry) :
    e'.entryId = e.entryId := by
  have hsize : e'.flow.nodes.size = e.flow.nodes.size := h.nodes.length_eq.symm
  unfold entryId
  rw [hentry, h.startNodeId, hsize]

/-- An opening from the same entry has the same outcome and the same log. -/
theorem begin_reordered (hb : e'.maxSteps = e.maxSteps) (h : e.flow.Reorders e'.flow)
    (hentry : e'.flow.entry = e.flow.entry) : e'.begin = e.begin := by
  have hopen : e'.openAt = e.openAt := by
    funext id
    unfold openAt
    rw [hb, (h.sameOn.walk e.maxSteps trivial).1]
  unfold begin
  rw [entryId_reordered h hentry, hopen]

end Engine

namespace Flow

variable {f g : Flow}

/-- **The order of the nodes is seen only by the fallback.** Let a flow have its nodes in another
order. Then an answer at a position with a step id has the same outcome, and the audit finds the same
issues and comes to the same verdict. If the start that the flow names is one of its nodes, or at most
one node is a start node, then the start is found alike, and a conversation opens the same. -/
theorem order_seen_by_fallback (h : f.Reorders g) :
    (∀ (maxSteps : Option Int) (p : Position) (answer : Option String),
      (∀ c, p.cursor? = .ok c → given c.stepId ≠ none) →
        g.answersAt maxSteps p answer = f.answersAt maxSteps p answer) ∧
    (g.isValid = f.isValid ∧ f.audit.issues.Perm g.audit.issues) ∧
    (f.designated? ≠ none ∨ f.HasSoleStart → ∀ maxSteps : Option Int,
      g.enters maxSteps = f.enters maxSteps ∧ g.begins maxSteps = f.begins maxSteps) := by
  refine ⟨?_, ⟨h.isValid_eq, h.issues_perm⟩, ?_⟩
  · intro maxSteps p answer hp
    unfold answersAt
    rcases build_cases (Assoc.isEmpty_of_perm h.nodes) maxSteps with
      ⟨failure, hb, hb'⟩ | ⟨e, e', hb, hb', rfl, rfl, hm⟩
    · rw [hb, hb']
    · rw [hb, hb']
      show (e'.processAt p answer).outcome = (e.processAt p answer).outcome
      unfold Engine.processAt
      cases hc : p.cursor? with
      | error failure => rfl
      | ok c => exact congrArg _ (Engine.process_reordered hm h (hp c hc) answer)
  · intro hs maxSteps
    unfold enters begins
    rcases build_cases (Assoc.isEmpty_of_perm h.nodes) maxSteps with
      ⟨failure, hb, hb'⟩ | ⟨e, e', hb, hb', rfl, rfl, hm⟩
    · rw [hb, hb']
      exact ⟨rfl, rfl⟩
    · have hentry := h.entry_eq hs
      rw [hb, hb']
      exact ⟨congrArg Traced.outcome (Engine.entryId_reordered h hentry),
        congrArg Traced.outcome (Engine.begin_reordered hm h hentry)⟩

/-- The theorem for a flow with its nodes from last to first, where an answer goes on, the audit finds
a link that leads nowhere, and the only start node stands in for a start that is not named. -/
theorem order_seen_by_fallback_helpdesk :
    let f : Flow := { helpdesk "gone" with startNodeId := none }
    let g : Flow := { f with nodes := .ofList f.nodes.toList.reverse }
    let p : Position := .cursor ⟨"ask", .empty⟩
    f ≠ g ∧ f.Reorders g ∧ (∀ c, p.cursor? = .ok c → given c.stepId ≠ none) ∧ f.HasSoleStart ∧
    g.answersAt none p "yes" = f.answersAt none p "yes" ∧
    (g.isValid = f.isValid ∧ f.audit.issues.Perm g.audit.issues) ∧
    g.enters none = f.enters none ∧ g.begins none = f.begins none := by
  intro f g p
  have h : f.Reorders g := ⟨rfl, rfl, by decide +kernel⟩
  have hp : ∀ c, p.cursor? = .ok c → given c.stepId ≠ none := by
    rintro c ⟨⟩
    decide
  have hs : f.HasSoleStart := by
    unfold HasSoleStart
    decide +kernel
  obtain ⟨hanswers, haudit, hbegins⟩ := order_seen_by_fallback h
  exact ⟨by decide +kernel, h, hp, hs, hanswers none p "yes" hp, haudit, hbegins (.inr hs) none⟩

end Flow

end Dialogue
