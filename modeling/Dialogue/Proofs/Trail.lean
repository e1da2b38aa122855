import Dialogue.Proofs.Rest
import Mathlib.Data.List.Chain

/-!
# The way of a walk

From a node there is one path along the links of start and message nodes that passes no node twice,
keeps to the bound and cannot be extended. A walk passes its nodes, in order.

* `Node.lead?`: the link along which a walk leaves a node;
* `Flow.TrailFrom`: the paths from a link that avoid the ids already passed and cannot be extended;
* `Flow.walkFrom_path_eq_iff`: a walk passes the one such path;
* `Flow.StopFits`, `Flow.walkFrom_stopFits`: what the stop of a walk says of the nodes passed;
* `Flow.Trail`: the paths from an id that cannot be extended, as the author of a flow sees them;
* `Engine.Reports`: what an opening or a reply reports of the walk that it makes;
* `Engine.walk_trail`: what a walk says and where it pauses are read off the one trail from its
  start, and so are the reports.
-/

namespace Dialogue

/-- A flow that greets, and then says two things in turn without end. -/
def Flow.carousel : Flow where
  enabled := true
  startNodeId := "hello"
  nodes := .ofList [
    ("hello", ⟨"hello", "Hello!", [], .start "tick", .empty⟩),
    ("tick", ⟨"tick", "Tick.", [], .message "tock", .empty⟩),
    ("tock", ⟨"tock", "Tock.", [], .message "tick", .empty⟩)]

/-! ### Leads -/

/-- The link along which a walk leaves a node; it leaves only start and message nodes. -/
def Node.lead? (n : Node) : Option String :=
  match n.onward with
  | .inl _ => none
  | .inr link => link

theorem Node.lead?_eq_some {n : Node} {t : String} :
    n.lead? = some t ↔ n.IsLink ∧ given n.next = some t := by
  rw [← Node.onward_eq_inr, lead?]
  cases n.onward <;> simp

theorem Node.not_isLink_of_onward {n : Node} {stop : Stop} (h : n.onward = .inl stop) :
    ¬n.IsLink := by
  intro hlink
  have hlead := Node.onward_eq_inr.2 ⟨hlink, rfl⟩
  cases h.symm.trans hlead

/-- The link that is to be followed after a path: that of its last node, or, if the path is empty,
the link that it was to start along. -/
def leadAfter (link : Option String) : List (String × Node) → Option String
  | [] => link
  | x :: rest => leadAfter x.2.lead? rest

theorem leadAfter_of_getLast? {link : Option String} {path : List (String × Node)}
    {x : String × Node} (h : path.getLast? = some x) : leadAfter link path = x.2.lead? := by
  induction path generalizing link with
  | nil => cases h
  | cons y rest ih =>
    cases rest with
    | nil =>
      cases h
      rfl
    | cons z rest => exact @ih y.2.lead? h

namespace Flow

variable {f : Flow}

/-! ### Paths that cannot be extended -/

/-- A path from a link that passes at most `budget` nodes, none of them twice and none of those in
`seen`, and that cannot be extended: its last link, if any, leads to no node, to a node already
passed, or beyond the budget. -/
structure TrailFrom (f : Flow) (budget : Nat) (seen : List String) (link : Option String)
    (path : List (String × Node)) : Prop where
  head : ∀ x ∈ path.head?, link = some x.1
  linked : path.IsChain fun x y => x.2.lead? = some y.1
  stored : ∀ x ∈ path, f.node? x.1 = some x.2
  fresh : ∀ x ∈ path, x.1 ∉ seen
  distinct : (path.map Prod.fst).Nodup
  bounded : path.length ≤ budget
  maximal : ∀ t, leadAfter link path = some t →
    f.node? t = none ∨ t ∈ seen ∨ t ∈ path.map Prod.fst ∨ path.length = budget

/-- The empty path cannot be extended if its link leads nowhere. -/
theorem trailFrom_nil {budget : Nat} {seen : List String} {link : Option String} :
    f.TrailFrom budget seen link [] ↔
      ∀ t, link = some t → f.node? t = none ∨ t ∈ seen ∨ budget = 0 := by
  constructor
  · intro h t ht
    simpa [eq_comm] using h.maximal t ht
  · intro h
    exact {
      head := by simp
      linked := .nil
      stored := by simp
      fresh := by simp
      distinct := .nil
      bounded := Nat.zero_le _
      maximal := fun t ht => by simpa [eq_comm] using h t ht }

/-- A path with a first node goes on from there, with the node passed and the budget lessened. -/
theorem trailFrom_cons {budget : Nat} {seen : List String} {link : Option String} {id : String}
    {n : Node} {rest : List (String × Node)} :
    f.TrailFrom (budget + 1) seen link ((id, n) :: rest) ↔
      link = some id ∧ id ∉ seen ∧ f.node? id = some n ∧
        f.TrailFrom budget (id :: seen) n.lead? rest := by
  constructor
  · intro h
    obtain ⟨hhead, hlinked⟩ := List.isChain_cons.1 h.linked
    obtain ⟨hid, hdistinct⟩ := List.nodup_cons.1 h.distinct
    have hfresh : ∀ x ∈ rest, x.1 ∉ id :: seen := by
      intro x hx hm
      rcases List.mem_cons.1 hm with he | hm
      · exact hid (List.mem_map.2 ⟨x, hx, he⟩)
      · exact h.fresh x (List.mem_cons_of_mem _ hx) hm
    have hmaximal : ∀ t, leadAfter n.lead? rest = some t →
        f.node? t = none ∨ t ∈ id :: seen ∨ t ∈ rest.map Prod.fst ∨ rest.length = budget := by
      intro t ht
      have hm := h.maximal t ht
      simp only [List.map_cons, List.mem_cons, List.length_cons] at hm ⊢
      grind
    refine ⟨h.head (id, n) rfl, h.fresh (id, n) List.mem_cons_self,
      h.stored (id, n) List.mem_cons_self, ?_⟩
    exact {
      head := hhead
      linked := hlinked
      stored := fun x hx => h.stored x (List.mem_cons_of_mem _ hx)
      fresh := hfresh
      distinct := hdistinct
      bounded := Nat.le_of_succ_le_succ h.bounded
      maximal := hmaximal }
  · rintro ⟨rfl, hid, hn, h⟩
    have hnot : id ∉ rest.map Prod.fst := by
      intro hm
      obtain ⟨x, hx, rfl⟩ := List.mem_map.1 hm
      exact h.fresh x hx List.mem_cons_self
    have hfresh : ∀ x ∈ rest, x.1 ∉ seen := fun x hx hm =>
      h.fresh x hx (List.mem_cons_of_mem _ hm)
    have hmaximal : ∀ t, leadAfter n.lead? rest = some t → f.node? t = none ∨ t ∈ seen ∨
        t ∈ id :: rest.map Prod.fst ∨ rest.length + 1 = budget + 1 := by
      intro t ht
      have hm := h.maximal t ht
      simp only [List.mem_cons] at hm ⊢
      grind
    exact {
      head := by simp
      linked := List.isChain_cons.2 ⟨h.head, h.linked⟩
      stored := List.forall_mem_cons.2 ⟨hn, h.stored⟩
      fresh := List.forall_mem_cons.2 ⟨hid, hfresh⟩
      distinct := List.nodup_cons.2 ⟨hnot, h.distinct⟩
      bounded := Nat.succ_le_succ h.bounded
      maximal := hmaximal }

/-! ### Walks -/

/-- A walk passes a node that it finds, and goes on along its lead. -/
theorem walkFrom_path_of_node? {budget : Nat} {seen : List String} {id : String} {n : Node}
    (hs : id ∉ seen) (hn : f.node? id = some n) :
    (f.walkFrom (budget + 1) seen (some id)).path =
      (id, n) :: (f.walkFrom budget (id :: seen) n.lead?).path := by
  have hnone : ∀ seen, (f.walkFrom budget seen none).path = [] := by
    intro seen
    cases budget <;> rfl
  simp only [walkFrom, List.contains_iff_mem, hs, if_false, hn, Node.lead?]
  cases n.onward with
  | inl stop => simp [hnone]
  | inr link => rfl

/-- A walk passes the one path from its link that cannot be extended. -/
theorem walkFrom_path_eq_iff {budget : Nat} {seen : List String} {link : Option String}
    {path : List (String × Node)} :
    (f.walkFrom budget seen link).path = path ↔ f.TrailFrom budget seen link path := by
  -- by induction on the path: both sides pass the same first node, or none
  induction path generalizing budget seen link with
  | nil =>
    rw [trailFrom_nil]
    cases link with
    | none => cases budget <;> simp [walkFrom]
    | some id =>
      cases budget with
      | zero => simp [walkFrom]
      | succ budget =>
        by_cases hs : id ∈ seen
        · simp [walkFrom, hs]
        · cases hn : f.node? id with
          | none => simp [walkFrom, hs, hn]
          | some n => simp [walkFrom_path_of_node? hs hn, hn, hs]
  | cons x rest ih =>
    obtain ⟨id, n⟩ := x
    cases budget with
    | zero =>
      have hlength : ¬f.TrailFrom 0 seen link ((id, n) :: rest) := fun h => by simpa using h.bounded
      cases link <;> simp [walkFrom, hlength]
    | succ budget =>
      rw [trailFrom_cons, ← ih]
      cases link with
      | none => simp [walkFrom]
      | some id' =>
        by_cases hs : id' ∈ seen
        · simp only [walkFrom, List.contains_iff_mem, hs, if_true]
          grind
        · cases hn : f.node? id' with
          | none =>
            simp only [walkFrom, List.contains_iff_mem, hs, if_false, hn]
            grind
          | some n' =>
            rw [walkFrom_path_of_node? hs hn]
            grind

theorem trailFrom_walkFrom (f : Flow) (budget : Nat) (seen : List String) (link : Option String) :
    f.TrailFrom budget seen link (f.walkFrom budget seen link).path :=
  walkFrom_path_eq_iff.1 rfl

theorem trailFrom_walk (f : Flow) (budget : Nat) (start : String) :
    f.TrailFrom budget [] (given (some start)) (f.walk budget start).path :=
  f.trailFrom_walkFrom budget [] _

/-- A walk from a node comes to a last one. -/
theorem exists_walk_last {budget : Nat} {start : String} (hb : 0 < budget)
    (hs : f.node? start ≠ none) :
    ∃ id n, (f.walk budget start).path.getLast? = some (id, n) := by
  obtain ⟨x, hx⟩ := Option.ne_none_iff_exists'.1 (walk_getLast?_ne_none hb hs)
  exact ⟨x.1, x.2, hx⟩

/-- What the stop of a walk says of the nodes that it passed: before a missing node there is budget
left, at the bound there is none, and a node that would be passed again has been passed before. -/
def StopFits (budget : Nat) (seen : List String) (path : List (String × Node)) : Stop → Prop
  | .missing _ => path.length < budget
  | .bounded _ => path.length = budget
  | .repeated id => id ∈ seen ∨ id ∈ path.map Prod.fst
  | .waiting | .ended | .deadEnd => True

theorem walkFrom_stopFits (f : Flow) (budget : Nat) (seen : List String) (link : Option String) :
    StopFits budget seen (f.walkFrom budget seen link).path (f.walkFrom budget seen link).stop := by
  fun_induction f.walkFrom budget seen link with
  | case1 => trivial
  | case2 => rfl
  | case3 budget seen id hs => exact .inl (List.contains_iff_mem.1 hs)
  | case4 => exact Nat.succ_pos _
  | case5 budget seen id _ n _ stop ho =>
    unfold Node.onward at ho
    split at ho <;> cases ho <;> trivial
  | case6 budget seen id _ n _ next _ rest ih =>
    -- the rest has one node and one unit of budget less, and one id more that it has to avoid
    cases hs : rest.stop with
    | missing id' =>
      rw [hs] at ih
      exact Nat.succ_lt_succ ih
    | bounded id' =>
      rw [hs] at ih
      exact congrArg Nat.succ ih
    | repeated id' =>
      rw [hs] at ih
      rcases ih with hm | hm
      · rcases List.mem_cons.1 hm with rfl | hm
        · exact .inr List.mem_cons_self
        · exact .inl hm
      · exact .inr (List.mem_cons_of_mem _ hm)
    | waiting | ended | deadEnd => trivial

theorem walk_stopFits (f : Flow) (budget : Nat) (start : String) :
    StopFits budget [] (f.walk budget start).path (f.walk budget start).stop :=
  f.walkFrom_stopFits budget [] _

/-! ### Trails -/

/-- A path from an id that cannot be extended: it passes nodes of the flow under distinct ids, at
most `bound` of them. Each but the last is a start or message node whose link is the id of the next
one. The last needs an answer, ends the flow, or has no link but one to no node, to a node of the
path, or beyond the bound. -/
structure Trail (f : Flow) (bound : Nat) (start : String) (path : List (String × Node)) : Prop where
  starts : path.head?.map Prod.fst = some start
  stored : ∀ x ∈ path, f.node? x.1 = some x.2
  distinct : (path.map Prod.fst).Nodup
  bounded : path.length ≤ bound
  linked : path.IsChain fun x y => x.2.IsLink ∧ given x.2.next = some y.1
  maximal : ∀ x, path.getLast? = some x →
    x.2.kind = .question ∨ x.2.kind = .email ∨ x.2.kind = .ending ∨
      ∀ t, given x.2.next = some t →
        f.node? t = none ∨ t ∈ path.map Prod.fst ∨ path.length = bound

theorem Trail.trailFrom {bound : Nat} {start : String} {path : List (String × Node)}
    (h : f.Trail bound start path) : f.TrailFrom bound [] (some start) path := by
  have hhead : ∀ x ∈ path.head?, some start = some x.1 := by
    intro x hx
    have hstarts := h.starts
    rw [Option.mem_def.1 hx] at hstarts
    exact hstarts.symm
  have hmaximal : ∀ t, leadAfter (some start) path = some t →
      f.node? t = none ∨ t ∈ [] ∨ t ∈ path.map Prod.fst ∨ path.length = bound := by
    intro t ht
    cases hl : path.getLast? with
    | none =>
      have hstarts := h.starts
      rw [List.getLast?_eq_none_iff.1 hl] at hstarts
      cases hstarts
    | some x =>
      rw [leadAfter_of_getLast? hl, Node.lead?_eq_some] at ht
      obtain ⟨hlink, hnext⟩ := ht
      rcases h.maximal x hl with hk | hk | hk | hm
      · exact absurd hk hlink.ne.1
      · exact absurd hk hlink.ne.2
      · simp [Node.IsLink, hk] at hlink
      · exact .imp_right .inr (hm t hnext)
  exact {
    head := hhead
    linked := h.linked.imp fun x y hxy => Node.lead?_eq_some.2 hxy
    stored := h.stored
    fresh := by simp
    distinct := h.distinct
    bounded := h.bounded
    maximal := hmaximal }

theorem TrailFrom.trail {bound : Nat} {start : String} {path : List (String × Node)}
    (h : f.TrailFrom bound [] (some start) path) (hb : 0 < bound) (hs : f.node? start ≠ none) :
    f.Trail bound start path := by
  have hstarts : path.head?.map Prod.fst = some start := by
    cases path with
    | nil =>
      -- the first node can be passed
      rcases trailFrom_nil.1 h start rfl with hm | hm | hm
      · exact absurd hm hs
      · cases hm
      · exact absurd hm hb.ne'
    | cons x rest => exact (h.head x rfl).symm
  have hmaximal : ∀ x, path.getLast? = some x →
      x.2.kind = .question ∨ x.2.kind = .email ∨ x.2.kind = .ending ∨
        ∀ t, given x.2.next = some t →
          f.node? t = none ∨ t ∈ path.map Prod.fst ∨ path.length = bound := by
    intro x hx
    by_cases hlink : x.2.IsLink
    · refine .inr (.inr (.inr fun t ht => ?_))
      have hlead : leadAfter (some start) path = some t :=
        (leadAfter_of_getLast? hx).trans (Node.lead?_eq_some.2 ⟨hlink, ht⟩)
      rcases h.maximal t hlead with hm | hm | hm
      · exact .inl hm
      · cases hm
      · exact .inr hm
    · unfold Node.IsLink at hlink
      cases hk : x.2.kind <;> simp_all
  exact {
    starts := hstarts
    stored := h.stored
    distinct := h.distinct
    bounded := h.bounded
    linked := h.linked.imp fun x y hxy => Node.lead?_eq_some.1 hxy
    maximal := hmaximal }

/-- From a node, and with a positive bound, the paths that cannot be extended are the trails. -/
theorem trail_iff {bound : Nat} {start : String} {path : List (String × Node)} (hb : 0 < bound)
    (hs : f.node? start ≠ none) :
    f.Trail bound start path ↔ f.TrailFrom bound [] (some start) path :=
  ⟨Trail.trailFrom, fun h => h.trail hb hs⟩

end Flow

theorem Walk.lastId_of_getLast? {w : Walk} {id : String} {n : Node}
    (h : w.path.getLast? = some (id, n)) (before : Option String) :
    w.lastId before = some id := by
  rw [lastId, h]
  rfl

/-! ### Reports -/

namespace Engine

/-- What an engine reports of a walk from an id, in an opening or in a reply that goes on: the
messages, where the conversation pauses, and whether the flow has ended. -/
inductive Reports (e : Engine) (start : String) : List Message → Option String → Bool → Prop
  | opening {x : Opening} (hs : e.flow.entry.id? = some start) (hx : e.begin.outcome = .ok x) :
      Reports e start x.messages x.stepId x.isComplete
  | reply {c : Cursor} {answer : Option String} {id : String} {n : Node} {r : Reply}
      (hi : e.flow.positionId? c.stepId = some id) (hn : e.flow.node? id = some n)
      (ht : n.target? (answer.getD "") = some start)
      (hr : (e.process c answer).outcome = .ok r) (hg : r.isReprompt = false) :
      Reports e start r.messages r.nextStepId r.isComplete

variable {e : Engine} {start : String}

/-- What is reported of a walk is read off the walk. -/
theorem Reports.eq_walk {messages : List Message} {stepId : Option String} {isComplete : Bool}
    (h : e.Reports start messages stepId isComplete) :
    let w := e.flow.walk e.maxSteps start
    messages = w.messages ∧ isComplete = w.isComplete ∧ ∃ before, stepId = w.lastId before := by
  cases h with
  | opening hs hx =>
    obtain ⟨id, hid, rfl⟩ := begin_eq_ok.1 hx
    cases hs.symm.trans hid
    exact ⟨rfl, rfl, none, rfl⟩
  | reply hi hn ht hr hg =>
    obtain ⟨id', n', hi', hn', hreply⟩ := process_eq_ok.1 hr
    cases hi.symm.trans hi'
    cases hn.symm.trans hn'
    rcases reply_eq_ok.1 hreply with ⟨_, _, _, -, rfl⟩ | ⟨target, captured, -, ht', -, rfl⟩
    · cases hg
    · cases ht.symm.trans ht'
      exact ⟨rfl, rfl, _, rfl⟩

/-- **A walk passes the one trail from its start.** From a node there is exactly one path that
keeps to the bound, passes no node twice and cannot be extended. A walk says the texts of its nodes,
each once and in order, and pauses at the last of them, whatever flow it is. An opening from the
node is made, and it reports so, as does every reply that leads there. -/
theorem walk_trail (e : Engine) {start : String} (hs : e.flow.node? start ≠ none) :
    ∃ path id n, (∀ p, e.flow.Trail e.maxSteps start p ↔ p = path) ∧
      path.getLast? = some (id, n) ∧
      (e.flow.walk e.maxSteps start).messages = path.map (fun x => x.2.message) ∧
      (∀ before, (e.flow.walk e.maxSteps start).lastId before = some id) ∧
      (e.flow.entry.id? = some start → ∃ x, e.begin.outcome = .ok x ∧
        x.messages = path.map (fun x => x.2.message) ∧ x.stepId = some id) ∧
      ∀ messages stepId isComplete, e.Reports start messages stepId isComplete →
        messages = path.map (fun x => x.2.message) ∧ stepId = some id := by
  have hgiven : given (some start) = some start := by
    obtain ⟨n, hn⟩ := Option.ne_none_iff_exists'.1 hs
    exact given_some_of_ne (Flow.node?_eq_some.1 hn).1
  have htrail : ∀ p, e.flow.Trail e.maxSteps start p ↔
      p = (e.flow.walk e.maxSteps start).path := by
    intro p
    rw [Flow.trail_iff e.positive hs, ← Flow.walkFrom_path_eq_iff, Flow.walk, hgiven]
    exact eq_comm
  obtain ⟨id, n, hlast⟩ := Flow.exists_walk_last e.positive hs
  have hid := Walk.lastId_of_getLast? hlast
  refine ⟨_, id, n, htrail, hlast, rfl, hid, ?_, ?_⟩
  · intro hentry
    exact ⟨e.openingAt start, begin_eq_ok.2 ⟨start, hentry, rfl⟩, rfl, hid none⟩
  · intro messages stepId isComplete h
    obtain ⟨rfl, -, before, rfl⟩ := h.eq_walk
    exact ⟨rfl, hid before⟩

/-- The theorem for a flow that would go round for ever. -/
theorem walk_trail_carousel :
    let e : Engine := ⟨.carousel, 20, rfl, by decide⟩
    e.flow.node? "hello" ≠ none ∧
    (e.flow.walk e.maxSteps "hello").messages.map (·.text) = ["Hello!", "Tick.", "Tock."] ∧
    ∃ path id n, (∀ p, e.flow.Trail e.maxSteps "hello" p ↔ p = path) ∧
      path.getLast? = some (id, n) ∧
      (e.flow.walk e.maxSteps "hello").messages = path.map (fun x => x.2.message) ∧
      (∀ before, (e.flow.walk e.maxSteps "hello").lastId before = some id) ∧
      (e.flow.entry.id? = some "hello" → ∃ x, e.begin.outcome = .ok x ∧
        x.messages = path.map (fun x => x.2.message) ∧ x.stepId = some id) ∧
      ∀ messages stepId isComplete, e.Reports "hello" messages stepId isComplete →
        messages = path.map (fun x => x.2.message) ∧ stepId = some id := by
  intro e
  have hs : e.flow.node? "hello" ≠ none := by decide +kernel
  exact ⟨hs, by decide +kernel, walk_trail e hs⟩

end Engine

end Dialogue
