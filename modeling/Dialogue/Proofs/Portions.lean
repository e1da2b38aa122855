import Dialogue.Proofs.Refinement
import Dialogue.Proofs.Trail
import Mathlib.Data.List.Perm.Subperm

/-!
# Walks in portions

A bound on steps divides what a flow says into portions. If the caller goes on at once from each
place where the bound was met, then nothing is lost and nothing is said twice.

* `Flow.Course`: what follows a link, with no bound and no memory of the nodes passed;
* `Flow.Course.portion`: a bounded walk is the whole course, or the first part of it, with the rest
  of the course after the last node;
* `Node.IsPlain`: a node without the entries that could change what becomes of an answer;
* `Conversation.rests`: whether a conversation has to wait for the user, or has ended;
* `Conversation.Tells`: what calls say one after another, and where they leave the conversation;
* `Conversation.portions_tell`: the portions of a walk tell what the whole walk does.
-/

namespace Dialogue

/-- A tour that needs no answers, and ends with a link that leads nowhere. -/
def Flow.tour : Flow where
  enabled := true
  startNodeId := "hello"
  nodes := .ofList [
    ("hello", ⟨"hello", "Hello!", [], .start "hall", .empty⟩),
    ("hall", ⟨"hall", "The hall.", [], .message "garden", .empty⟩),
    ("garden", ⟨"garden", "The garden.", [], .message "gate", .empty⟩),
    ("gate", ⟨"gate", "The gate.", [], .message "gone", .empty⟩)]

namespace Flow

variable {f : Flow} {link : Option String} {w : Walk}

/-! ### Courses -/

/-- What follows a link of a flow: the nodes up to the first that leads nowhere, and why it does.
None of them is counted or remembered, so that a round has no course. -/
inductive Course (f : Flow) : Option String → Walk → Prop
  | deadEnd : Course f none ⟨[], .deadEnd⟩
  | missing {id : String} (hm : f.node? id = none) : Course f (some id) ⟨[], .missing id⟩
  | stops {id : String} {n : Node} {stop : Stop} (hn : f.node? id = some n)
      (ho : n.onward = .inl stop) : Course f (some id) ⟨[(id, n)], stop⟩
  | passes {id : String} {n : Node} {link : Option String} {w : Walk} (hn : f.node? id = some n)
      (ho : n.onward = .inr link) (hw : Course f link w) :
      Course f (some id) ⟨(id, n) :: w.path, w.stop⟩

/-- A walk that meets neither its bound nor a node twice is a course. -/
theorem course_walkFrom {budget : Nat} {seen : List String}
    (hr : ∀ id, (f.walkFrom budget seen link).stop ≠ .repeated id)
    (hb : ∀ id, (f.walkFrom budget seen link).stop ≠ .bounded id) :
    f.Course link (f.walkFrom budget seen link) := by
  fun_induction f.walkFrom budget seen link with
  | case1 => exact .deadEnd
  | case2 budget id => exact absurd rfl (hb id)
  | case3 budget seen id => exact absurd rfl (hr id)
  | case4 _ _ _ _ hm => exact .missing hm
  | case5 _ _ _ _ _ hn _ ho => exact .stops hn ho
  | case6 _ _ _ _ _ hn _ ho _ ih => exact .passes hn ho (ih hr hb)

/-- A course ends the flow, or comes to a node that needs an answer. -/
theorem Course.rests (h : f.Course link w) :
    w.isComplete = true ∨
      ∃ id n, w.path.getLast? = some (id, n) ∧ f.node? id = some n ∧ ¬n.IsLink := by
  induction h with
  | deadEnd => exact .inl rfl
  | missing => exact .inl rfl
  | @stops id n stop hn ho => exact .inr ⟨id, n, rfl, hn, Node.not_isLink_of_onward ho⟩
  | @passes id n link w hn ho hw ih =>
    rcases ih with hc | ⟨id', n', hl, hn', hlink⟩
    · exact .inl hc
    · refine .inr ⟨id', n', ?_, hn', hlink⟩
      rw [List.getLast?_cons, hl]
      rfl

/-- A walk with a bound takes the whole course, or as many nodes of it as the bound allows. -/
theorem Course.walkFrom_cases (h : f.Course link w) (hd : (w.path.map Prod.fst).Nodup)
    (budget : Nat) (seen : List String)
    (hseen : ∀ id ∈ seen, f.node? id ≠ none ∧ id ∉ w.path.map Prod.fst) :
    f.walkFrom budget seen link = w ∨
      ∃ t, f.walkFrom budget seen link = ⟨w.path.take budget, .bounded t⟩ ∧
        budget ≤ w.path.length ∧ f.Course (some t) ⟨w.path.drop budget, w.stop⟩ := by
  -- by induction on the course, for every budget: the ids passed so far are those of other nodes
  induction h generalizing budget seen with
  | deadEnd => exact .inl (by cases budget <;> rfl)
  | @missing id hm =>
    have hs : id ∉ seen := fun hs => (hseen id hs).1 hm
    cases budget with
    | zero => exact .inr ⟨id, rfl, Nat.zero_le _, .missing hm⟩
    | succ budget => exact .inl (by simp [Flow.walkFrom, hs, hm])
  | @stops id n stop hn ho =>
    have hs : id ∉ seen := fun hs => (hseen id hs).2 List.mem_cons_self
    cases budget with
    | zero => exact .inr ⟨id, rfl, Nat.zero_le _, .stops hn ho⟩
    | succ budget => exact .inl (by simp [Flow.walkFrom, hs, hn, ho])
  | @passes id n link w hn ho hw ih =>
    have hs : id ∉ seen := fun hs => (hseen id hs).2 List.mem_cons_self
    obtain ⟨hid, hd⟩ := List.nodup_cons.1 hd
    cases budget with
    | zero => exact .inr ⟨id, rfl, Nat.zero_le _, .passes hn ho hw⟩
    | succ budget =>
      have hseen' : ∀ id' ∈ id :: seen, f.node? id' ≠ none ∧ id' ∉ w.path.map Prod.fst := by
        refine List.forall_mem_cons.2 ⟨⟨by simp [hn], hid⟩, fun id' hs' => ?_⟩
        exact ⟨(hseen id' hs').1, fun hm => (hseen id' hs').2 (List.mem_cons_of_mem _ hm)⟩
      rcases ih hd budget (id :: seen) hseen' with hwhole | ⟨t, hpart, hlength, hcourse⟩
      · exact .inl (by simp [Flow.walkFrom, hs, hn, ho, hwhole])
      · refine .inr ⟨t, ?_, Nat.succ_le_succ hlength, hcourse⟩
        simp [Flow.walkFrom, hs, hn, ho, hpart]

/-- A walk with a positive bound takes the whole course, or a first part of it up to a node whose
link the rest of the course follows. -/
theorem Course.portion {start : String} (h : f.Course (given (some start)) w)
    (hd : (w.path.map Prod.fst).Nodup) {budget : Nat} (hb : 0 < budget) :
    f.walk budget start = w ∨
      ∃ id n t rest, (f.walk budget start).path.getLast? = some (id, n) ∧ f.node? id = some n ∧
        n.onward = .inr (some t) ∧ (f.walk budget start).isComplete = false ∧
        w.path = (f.walk budget start).path ++ rest.path ∧ w.stop = rest.stop ∧
        f.Course (some t) rest := by
  rcases h.walkFrom_cases hd budget [] (by simp) with hwhole | ⟨t, hpart, hlength, hrest⟩
  · exact .inl hwhole
  · have hpart : f.walk budget start = ⟨w.path.take budget, .bounded t⟩ := hpart
    have hne : (f.walk budget start).path.getLast? ≠ none := by
      rw [hpart]
      intro h
      have hzero := congrArg List.length (List.getLast?_eq_none_iff.1 h)
      simp only [List.length_take, List.length_nil] at hzero
      omega
    obtain ⟨⟨id, n⟩, hlast⟩ := Option.ne_none_iff_exists'.1 hne
    obtain ⟨hn, hstops⟩ := walk_last hlast
    rw [hpart] at hstops
    refine .inr ⟨id, n, t, ⟨w.path.drop budget, w.stop⟩, hlast, hn, hstops, ?_, ?_, rfl, hrest⟩
    · rw [hpart]
      rfl
    · rw [hpart]
      exact (List.take_append_drop budget w.path).symm

/-- A walk passes no more nodes than there are. -/
theorem length_walkFrom_le_size (f : Flow) (budget : Nat) (seen : List String)
    (link : Option String) : (f.walkFrom budget seen link).path.length ≤ f.nodes.size := by
  have htrail := f.trailFrom_walkFrom budget seen link
  have hkeys : (f.walkFrom budget seen link).path.map Prod.fst ⊆ f.nodes.keys := by
    intro id hid
    obtain ⟨x, hx, rfl⟩ := List.mem_map.1 hid
    exact List.mem_map.2 ⟨x, Assoc.mem_toList_iff.2 (node?_eq_some.1 (htrail.stored x hx)).2, rfl⟩
  have hlength := (htrail.distinct.subperm hkeys).length_le
  simpa [Assoc.keys, Assoc.size] using hlength

end Flow

/-! ### Going on from a link node -/

/-- A node without the entries that could make it refuse an answer, or keep it. -/
structure Node.IsPlain (n : Node) : Prop where
  unchecked : n.extras.get? "validation" = none
  unkept : n.extras.get? "save_as" = none

/-- From a plain start or message node every answer leads on along the link, and is not kept. -/
theorem Engine.process_of_isPlain {e : Engine} {c : Cursor} {id t : String} {n : Node}
    (hc : c.stepId = some id) (hn : e.flow.node? id = some n) (ho : n.onward = .inr (some t))
    (hp : n.IsPlain) (text : Option String) :
    (e.process c text).outcome = .ok (advance id (e.flow.walk e.maxSteps t) .empty) := by
  obtain ⟨hlink, hnext⟩ := Node.onward_eq_inr.1 ho
  have hi : e.flow.positionId? c.stepId = some id := by
    rw [Flow.positionId?, hc, given_some_of_ne (Flow.node?_eq_some.1 hn).1]
    rfl
  have hrejects : n.rejects (text.getD "") = false := by
    rw [← Bool.not_eq_true, Node.rejects_eq_true, Node.checksEmail_of_ne hlink.ne.2, hp.unchecked]
    simp
  have hslot : n.slot = .nothing := by
    unfold Node.IsLink Node.kind at hlink
    unfold Node.slot
    cases hb : n.body <;> simp_all [Body.kind, hp.unkept]
  refine process_eq_ok.2 ⟨id, n, hi, hn, reply_eq_ok.2 (.inr ⟨t, .empty, hrejects, ?_, ?_, rfl⟩)⟩
  · exact (Node.target?_eq_some_of_ne hlink.ne).2 ⟨hlink, hnext⟩
  · rw [hslot]
    rfl

/-! ### Portions -/

instance (n : Node) : Decidable n.IsLink := inferInstanceAs (Decidable (_ ∨ _))

namespace Conversation

/-- Whether a conversation has to wait for the user, or has ended: the flow has ended with what the
engine gave, or the place is no start or message node. -/
def rests (e : Engine) (x : Traced (Answered × Cursor)) : Bool :=
  match x.outcome with
  | .ok (a, c) => a.isComplete || !((c.stepId.bind e.flow.node?).any fun n => decide n.IsLink)
  | .error _ => true

/-- What calls of an engine tell that all succeed: the messages of one after those of another, and
where the last of them leaves the conversation, and whether the flow has ended there. -/
inductive Tells : List (Traced (Answered × Cursor)) → List Message → Option String → Bool → Prop
  | last {x : Traced (Answered × Cursor)} {a : Answered} {c : Cursor}
      (hx : x.outcome = .ok (a, c)) : Tells [x] a.messages c.stepId a.isComplete
  | more {x : Traced (Answered × Cursor)} {a : Answered} {c : Cursor}
      {xs : List (Traced (Answered × Cursor))} {messages : List Message} {stepId : Option String}
      {isComplete : Bool} (hx : x.outcome = .ok (a, c)) (h : Tells xs messages stepId isComplete) :
      Tells (x :: xs) (a.messages ++ messages) stepId isComplete

/-- Calls of which one comes to rest, and which tell up to there what a walk does: all that it says,
where it pauses, and whether the flow has ended. -/
structure TellsWalk (e : Engine) (before : Option String) (w : Walk)
    (xs : List (Traced (Answered × Cursor))) : Prop where
  rests : ∃ x ∈ xs, rests e x = true
  tells : Tells (upTo (Conversation.rests e) xs) w.messages (w.lastId before) w.isComplete

section Calls

variable {e : Engine} {x : Traced (Answered × Cursor)} {a : Answered} {c : Cursor}
  {before link : Option String} {w : Walk} {id start : String} {n : Node}

/-- A call that gives a whole course leaves a conversation at rest. -/
theorem rests_of_course (hw : e.flow.Course link w) (hx : x.outcome = .ok (a, c))
    (hstep : c.stepId = w.lastId before) (hcomplete : a.isComplete = w.isComplete) :
    rests e x = true := by
  unfold rests
  rw [hx]
  rcases hw.rests with hc | ⟨id, n, hl, hn, hlink⟩
  · simp [hcomplete, hc]
  · simp [hstep, Walk.lastId, hl, hn, hlink]

theorem not_rests_of_link (hx : x.outcome = .ok (a, c)) (hstep : c.stepId = some id)
    (hn : e.flow.node? id = some n) (hlink : n.IsLink) (hcomplete : a.isComplete = false) :
    rests e x = false := by
  unfold rests
  rw [hx]
  simp [hcomplete, hstep, hn, hlink]

/-- A call that gives a portion of a course tells it together with the calls after it, if these tell
the rest where there is one. -/
theorem tellsWalk_cons {xs : List (Traced (Answered × Cursor))} (hx : x.outcome = .ok (a, c))
    (hmessages : a.messages = (e.flow.walk e.maxSteps start).messages)
    (hstep : c.stepId = (e.flow.walk e.maxSteps start).lastId before)
    (hcomplete : a.isComplete = (e.flow.walk e.maxSteps start).isComplete)
    (hw : e.flow.Course (given (some start)) w) (hd : (w.path.map Prod.fst).Nodup)
    (hrest : ∀ id n t rest, c.stepId = some id → e.flow.node? id = some n →
      n.onward = .inr (some t) → e.flow.Course (some t) rest → (rest.path.map Prod.fst).Nodup →
        rest.path.length < w.path.length → TellsWalk e (some id) rest xs) :
    TellsWalk e before w (x :: xs) := by
  rcases hw.portion hd e.positive with hwhole | ⟨id, n, t, rest, hl, hn, ho, hc, hpath, hstop, hr⟩
  · rw [hwhole] at hmessages hstep hcomplete
    have hdone := rests_of_course hw hx hstep hcomplete
    refine ⟨⟨x, List.mem_cons_self, hdone⟩, ?_⟩
    rw [upTo_cons, hdone, if_pos rfl, ← hmessages, ← hstep, ← hcomplete]
    exact .last hx
  · have hid : c.stepId = some id := by
      rw [hstep, Walk.lastId, hl]
      rfl
    have hgo := not_rests_of_link hx hid hn (Node.onward_eq_inr.1 ho).1 (hcomplete.trans hc)
    have hne : (e.flow.walk e.maxSteps start).path ≠ [] := by
      intro hnil
      simp [hnil] at hl
    have hlength : rest.path.length < w.path.length := by
      have hpos := List.length_pos_of_ne_nil hne
      rw [hpath, List.length_append]
      omega
    have hdrest : (rest.path.map Prod.fst).Nodup := by
      rw [hpath, List.map_append] at hd
      exact (List.nodup_append.1 hd).2.1
    obtain ⟨⟨y, hy, hydone⟩, htells⟩ := hrest id n t rest hid hn ho hr hdrest hlength
    -- what the call says comes before what the rest says, and the rest ends where the course does
    have hall : w.messages = a.messages ++ rest.messages := by
      rw [hmessages, Walk.messages, hpath, List.map_append]
      rfl
    have hlast : w.lastId before = rest.lastId (some id) := by
      rw [Walk.lastId, Walk.lastId, hpath, List.getLast?_append, hl]
      cases rest.path.getLast? <;> rfl
    have hend : w.isComplete = rest.isComplete := by rw [Walk.isComplete, Walk.isComplete, hstop]
    refine ⟨⟨y, List.mem_cons_of_mem _ hy, hydone⟩, ?_⟩
    rw [upTo_cons, hgo, if_neg Bool.false_ne_true, hall, hlast, hend]
    exact .more hx htells

end Calls

/-- From a link node, as many answers as a course has nodes, and one more, tell the course of the
link, whatever they are. -/
theorem run_tells {e : Engine}
    (hplain : ∀ id n, e.flow.node? id = some n → n.IsLink → n.IsPlain)
    (texts : List (Option String)) {c : Cursor} {id t : String} {n : Node} {w : Walk}
    (hc : c.stepId = some id) (hn : e.flow.node? id = some n) (ho : n.onward = .inr (some t))
    (hw : e.flow.Course (some t) w) (hd : (w.path.map Prod.fst).Nodup)
    (hlength : w.path.length < texts.length) :
    TellsWalk e (some id) w (run e (.cursor c) (texts.map .say)) := by
  -- by induction on the answers, of which each takes a node of the course, or ends it
  induction texts generalizing c id t n w with
  | nil => cases hlength
  | cons text texts ih =>
    obtain ⟨hlink, hnext⟩ := Node.onward_eq_inr.1 ho
    have hprocess := Engine.process_of_isPlain hc hn ho (hplain id n hn hlink) text
    obtain ⟨hx, hp⟩ := step_say_of_ok hprocess
    have hcourse : e.flow.Course (given (some t)) w := by
      rwa [given_some_of_ne (given_ne_empty hnext)]
    rw [List.map_cons, run_cons, hp]
    refine tellsWalk_cons hx rfl rfl rfl hcourse hd ?_
    intro id' n' t' rest hid' hn' ho' hrest hd' hless
    rw [List.length_cons] at hlength
    exact ih hid' hn' ho' hrest hd' (by omega)

/-- **Going on in portions loses nothing and repeats nothing.** Let a flow start at the node that it
names, let its start and message nodes hold no entry that could change what becomes of an answer,
and let the walk with a bound beyond the number of nodes not come to a node twice. Then with every
bound, and whatever is answered, an opening and at most as many answers as there are nodes come to
rest. Up to there they say together what that walk says, and they leave the conversation where it
does. -/
theorem portions_tell (e : Engine) {start : String}
    (hstart : given e.flow.startNodeId = some start) (hnode : e.flow.node? start ≠ none)
    (hplain : ∀ id n, e.flow.node? id = some n → n.IsLink → n.IsPlain) {bound : Nat}
    (hbound : e.flow.nodes.size < bound)
    (honce : ∀ id, (e.flow.walk bound start).stop ≠ .repeated id) (texts : List (Option String))
    (htexts : e.flow.nodes.size ≤ texts.length) :
    TellsWalk e none (e.flow.walk bound start)
      (run e .nowhere (⟨none, .begin⟩ :: texts.map .say)) := by
  have hsize : (e.flow.walk bound start).path.length ≤ e.flow.nodes.size :=
    e.flow.length_walkFrom_le_size _ _ _
  have hunbounded : ∀ id, (e.flow.walk bound start).stop ≠ .bounded id := by
    intro id hs
    have hfits := e.flow.walk_stopFits bound start
    rw [hs] at hfits
    have hlength : (e.flow.walk bound start).path.length = bound := hfits
    omega
  have hcourse : e.flow.Course (given (some start)) (e.flow.walk bound start) :=
    Flow.course_walkFrom honce hunbounded
  have hdistinct := (e.flow.trailFrom_walk bound start).distinct
  have hentry : e.flow.entry.id? = some start := by
    have hcontains : e.flow.nodes.contains start = true := by
      rw [← Bool.not_eq_false, ← Flow.node?_eq_none_of_given hstart]
      exact hnode
    simp [Flow.entry, Flow.designated?, hstart, Option.filter, hcontains, Entry.id?]
  have hbegin : e.begin.outcome = .ok (e.openingAt start) :=
    Engine.begin_eq_ok.2 ⟨start, hentry, rfl⟩
  obtain ⟨hx, hp⟩ := step_begin_of_ok (p := .nowhere) hbegin
  rw [run_cons, hp]
  refine tellsWalk_cons hx rfl rfl rfl hcourse hdistinct ?_
  intro id n t rest hid hn ho hrest hd hless
  exact run_tells hplain texts hid hn ho hrest hd (by omega)

/-- The theorem for a tour of four nodes and a link that leads nowhere, taken two nodes at a time: a
third call tells only that the flow has ended. -/
theorem portions_tell_tour :
    let e : Engine := ⟨.tour, 2, rfl, by decide⟩
    let texts : List (Option String) := ["go on", none, "no", ""]
    given e.flow.startNodeId = some "hello" ∧ e.flow.node? "hello" ≠ none ∧
    (∀ id n, e.flow.node? id = some n → n.IsLink → n.IsPlain) ∧ e.flow.nodes.size < 5 ∧
    (∀ id, (e.flow.walk 5 "hello").stop ≠ .repeated id) ∧ e.flow.nodes.size ≤ texts.length ∧
    (upTo (rests e) (run e .nowhere (⟨none, .begin⟩ :: texts.map .say))).length = 3 ∧
    TellsWalk e none (e.flow.walk 5 "hello")
      (run e .nowhere (⟨none, .begin⟩ :: texts.map .say)) := by
  intro e texts
  have hstart : given e.flow.startNodeId = some "hello" := by decide +kernel
  have hnode : e.flow.node? "hello" ≠ none := by decide +kernel
  have hall : ∀ x ∈ e.flow.nodes.toList, x.2.extras = .empty := by decide +kernel
  have hplain : ∀ id n, e.flow.node? id = some n → n.IsLink → n.IsPlain := by
    intro id n hn _
    have hextras : n.extras = .empty := hall _ (Assoc.mem_toList_iff.2 (Flow.node?_eq_some.1 hn).2)
    exact ⟨by simp [hextras], by simp [hextras]⟩
  have hstop : (e.flow.walk 5 "hello").stop = .missing "gone" := by decide +kernel
  have honce : ∀ id, (e.flow.walk 5 "hello").stop ≠ .repeated id := by simp [hstop]
  exact ⟨hstart, hnode, hplain, by decide, honce, by decide, by decide +kernel,
    portions_tell e hstart hnode hplain (by decide) honce texts (by decide)⟩

end Conversation

end Dialogue
