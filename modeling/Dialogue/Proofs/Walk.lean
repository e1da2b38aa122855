import Dialogue.Engine.Walk
import Mathlib.Tactic.SplitIfs

/-!
# Where walks stop

A walk is described by the last node it passed and the reason for which it stopped there.

* `Flow.StopsAfter`: what a stop says of the node before it;
* `Flow.walkFrom_last`: the last node of a walk is stored under its id, and the stop fits it;
* `Flow.walk_of_missing`, `Flow.walk_getLast?_ne_none`: a walk passes no node exactly if it
  starts before a missing one;
* `Node.links`: the links by which a conversation can leave a node;
* `Flow.Closed`: every link leads to a node;
* `Flow.Closed.walk_stop_ne_missing`: in such a flow no walk that starts at a node stops before
  a missing one;
* `Walk.missingLink_mem_events`: the walks that stop before a missing node are those that note it.
-/

namespace Dialogue

@[simp] theorem given_empty : given (some "") = none := rfl

theorem given_ne_empty {s : Option String} {t : String} (h : given s = some t) : t ≠ "" :=
  (given_eq_some.1 h).2

theorem given_some_of_ne {t : String} (h : t ≠ "") : given (some t) = some t :=
  given_eq_some.2 ⟨rfl, h⟩

/-! ### Links -/

/-- The links by which a conversation can leave a node. -/
def Node.links (n : Node) : List String :=
  match n.body with
  | .start next | .message next | .email _ _ _ next => (given next).toList
  | .question routes _ => routes.filterMap fun r => given r.next
  | .ending => []

theorem Node.ne_empty_of_mem_links {n : Node} {t : String} (h : t ∈ n.links) : t ≠ "" := by
  have hg : ∃ s, given s = some t := by
    unfold links at h
    cases hb : n.body with
    | question routes saveAs =>
      rw [hb, List.mem_filterMap] at h
      obtain ⟨r, -, h⟩ := h
      exact ⟨r.next, h⟩
    | start next | message next | email _ _ _ next => exact ⟨next, by simpa [hb] using h⟩
    | ending => simp [hb] at h
  obtain ⟨s, hs⟩ := hg
  exact given_ne_empty hs

theorem Node.mem_links_of_onward {n : Node} {t : String} (h : n.onward = .inr (some t)) :
    t ∈ n.links := by
  unfold onward at h
  unfold links
  cases hb : n.body <;> simp_all

namespace Flow

variable {f : Flow}

/-! ### Looking up nodes -/

theorem node?_eq_some {id : String} {n : Node} :
    f.node? id = some n ↔ id ≠ "" ∧ f.nodes.get? id = some n := by
  unfold node?
  split_ifs with h <;> simp [h]

theorem isEmpty_of_node? {id : String} {n : Node} (h : f.node? id = some n) :
    f.nodes.isEmpty = false := by
  have hm : (id, n) ∈ f.nodes.toList := Assoc.mem_toList_iff.2 (node?_eq_some.1 h).2
  rw [Assoc.isEmpty, List.isEmpty_eq_false_iff]
  exact List.ne_nil_of_mem hm

theorem node?_of_given {s : Option String} {id : String} (h : given s = some id) :
    f.node? id = f.nodes.get? id :=
  if_neg (given_ne_empty h)

/-- A link that is given leads nowhere exactly if its target is no key. -/
theorem node?_eq_none_of_given {s : Option String} {id : String} (h : given s = some id) :
    f.node? id = none ↔ f.nodes.contains id = false := by
  rw [node?_of_given h, Assoc.contains, Option.isSome_eq_false_iff, Option.isNone_iff_eq_none]

/-! ### The last node -/

/-- What a stop says of the node before it. -/
def StopsAfter (f : Flow) (n : Node) : Stop → Prop
  | .waiting => n.onward = .inl .waiting
  | .ended => n.onward = .inl .ended
  | .deadEnd => n.onward = .inr none
  | .missing id => n.onward = .inr (some id) ∧ f.node? id = none
  | .repeated id => n.onward = .inr (some id)
  | .bounded id => n.onward = .inr (some id)

theorem stopsAfter_of_onward {n : Node} {stop : Stop} (h : n.onward = .inl stop) :
    f.StopsAfter n stop := by
  unfold Node.onward at h
  split at h <;> cases h <;> simp_all [StopsAfter, Node.onward]

/-- A walk that passes no node stops for a reason that fits the node whose link it was to
follow. -/
theorem stopsAfter_of_path_eq_nil {budget : Nat} {seen : List String} {link : Option String}
    {n : Node} (hn : n.onward = .inr link) (h : (f.walkFrom budget seen link).path = []) :
    f.StopsAfter n (f.walkFrom budget seen link).stop := by
  fun_induction f.walkFrom budget seen link with
  | case1 => exact hn
  | case2 => exact hn
  | case3 => exact hn
  | case4 _ _ id _ hm => exact ⟨hn, hm⟩
  -- the other walks pass a node
  | case5 => simp at h
  | case6 => simp at h

/-- The last node of a walk is stored under its id, and the stop fits it. -/
theorem walkFrom_last {budget : Nat} {seen : List String} {link : Option String} {id : String}
    {n : Node} (h : (f.walkFrom budget seen link).path.getLast? = some (id, n)) :
    f.node? id = some n ∧ f.StopsAfter n (f.walkFrom budget seen link).stop := by
  -- by induction on the walk: the last node is the first one or that of the rest
  fun_induction f.walkFrom budget seen link with
  | case1 => simp at h
  | case2 => simp at h
  | case3 => simp at h
  | case4 => simp at h
  | case5 budget seen id' _ n' hn' stop hs =>
    simp only [List.getLast?_singleton, Option.some.injEq, Prod.mk.injEq] at h
    obtain ⟨rfl, rfl⟩ := h
    exact ⟨hn', stopsAfter_of_onward hs⟩
  | case6 budget seen id' _ n' hn' next hs rest ih =>
    cases hr : rest.path with
    | nil =>
      -- the walk ends at this node, before its link
      simp only [hr, List.getLast?_singleton, Option.some.injEq, Prod.mk.injEq] at h
      obtain ⟨rfl, rfl⟩ := h
      exact ⟨hn', stopsAfter_of_path_eq_nil hs hr⟩
    | cons e r =>
      refine ih ?_
      rw [hr] at h ⊢
      simpa using h

theorem walk_last {budget : Nat} {start id : String} {n : Node}
    (h : (f.walk budget start).path.getLast? = some (id, n)) :
    f.node? id = some n ∧ f.StopsAfter n (f.walk budget start).stop :=
  walkFrom_last h

/-! ### The first node -/

@[simp] theorem walk_empty (budget : Nat) : f.walk budget "" = ⟨[], .deadEnd⟩ := by
  rw [walk, given_empty]
  cases budget <;> rfl

theorem walk_of_missing {budget : Nat} {id : String} (hid : id ≠ "") (hm : f.node? id = none) :
    f.walk (budget + 1) id = ⟨[], .missing id⟩ := by
  simp [walk, given_some_of_ne hid, walkFrom, hm]

theorem walk_getLast?_ne_none {budget : Nat} {id : String} (hb : 0 < budget)
    (hid : f.node? id ≠ none) : (f.walk budget id).path.getLast? ≠ none := by
  obtain ⟨n, hn⟩ := Option.ne_none_iff_exists'.1 hid
  obtain ⟨b, rfl⟩ := Nat.exists_eq_add_of_lt hb
  simp only [walk, given_some_of_ne (node?_eq_some.1 hn).1, Nat.zero_add, walkFrom,
    List.contains_nil, Bool.false_eq_true, if_false, hn]
  cases n.onward <;> simp

/-! ### Flows without dangling links -/

/-- Every link leads to a node. -/
def Closed (f : Flow) : Prop := ∀ id n, f.node? id = some n → ∀ t ∈ n.links, f.node? t ≠ none

theorem Closed.walkFrom_stop_ne_missing (hf : f.Closed) {budget : Nat} {seen : List String}
    {link : Option String} (hl : ∀ t, link = some t → f.node? t ≠ none) (id : String) :
    (f.walkFrom budget seen link).stop ≠ .missing id := by
  -- by induction on the walk, which follows only links of nodes
  fun_induction f.walkFrom budget seen link with
  | case1 => simp
  | case2 => simp
  | case3 => simp
  | case4 _ _ id' _ hm => exact absurd hm (hl id' rfl)
  | case5 budget seen id' _ n' hn' stop hs =>
    have h := stopsAfter_of_onward (f := f) hs
    rintro rfl
    rw [h.1] at hs
    cases hs
  | case6 budget seen id' _ n' hn' next hs rest ih =>
    exact ih fun t ht => hf id' n' hn' t (Node.mem_links_of_onward (ht ▸ hs))

/-- Without dangling links a walk that starts at a node never stops before a missing one. -/
theorem Closed.walk_stop_ne_missing (hf : f.Closed) {budget : Nat} {start : String}
    (hs : start = "" ∨ f.node? start ≠ none) (id : String) :
    (f.walk budget start).stop ≠ .missing id := by
  refine hf.walkFrom_stop_ne_missing (fun t ht => ?_) id
  obtain ⟨hst, ht⟩ := given_eq_some.1 ht
  cases hst
  exact hs.resolve_left ht

end Flow

namespace Walk

/-- A missing link is noted exactly by the walks that stop before a missing node, with the node
that the link leaves. -/
theorem missingLink_mem_events {w : Walk} {budget : Nat} {before prev : Option String}
    {id : String} :
    Event.missingLink id prev ∈ w.events budget before ↔
      w.stop = .missing id ∧ prev = w.lastId before := by
  have hpath : Event.missingLink id prev ∉ w.path.map fun e => .traversing e.1 e.2.kind := by
    simp
  rw [events, List.mem_append, or_iff_right hpath]
  unfold stopEvents
  cases w.stop with
  | missing id' => simp [eq_comm]
  | _ => simp

end Walk

end Dialogue
