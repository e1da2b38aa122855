import Dialogue.Engine.Position
import Dialogue.Proofs.Trail

/-!
# What the log of an engine tells

An opening, and a reply that goes on, are noted event by event: how the start was found, each node
that is passed, what stopped the walk, and what came of it. The log can be trusted: it is read off
the path that is passed, and agrees with the result.

* `Stop.link?`, `Flow.leadAfter_walkFrom`: the link that a walk leaves unfollowed;
* `Flow.walkFrom_stop`: why it is left, told by the path;
* `Flow.Warns`: the warning about a path that could have gone on, and whether the flow has ended;
* `Flow.walk_warns`: a walk gives this warning;
* `Engine.Accounts`: what is noted of a path from a start, and what is reported of it;
* `Flow.Resolves`, `Flow.Locates`: how the start of a conversation is found, and the node that an
  answer is for;
* `Engine.events_of_result`: the logs of all openings, and of all replies that go on.
-/

namespace Dialogue

/-! ### Links that are left -/

/-- The link that is not followed any more. -/
def Stop.link? : Stop → Option String
  | .missing id | .repeated id | .bounded id => some id
  | .waiting | .ended | .deadEnd => none

/-- Where a node stops a walk by itself, there is no link to follow. -/
theorem Node.link?_of_onward {n : Node} {stop : Stop} (h : n.onward = .inl stop) :
    stop.link? = none := by
  unfold onward at h
  split at h <;> cases h <;> rfl

namespace Flow

variable {f : Flow} {budget bound : Nat} {seen : List String} {link before : Option String}
  {path : List (String × Node)} {start : String}

/-- The link after the path of a walk is the one that the walk leaves. -/
theorem leadAfter_walkFrom (f : Flow) (budget : Nat) (seen : List String) (link : Option String) :
    leadAfter link (f.walkFrom budget seen link).path = (f.walkFrom budget seen link).stop.link? := by
  fun_induction f.walkFrom budget seen link with
  | case1 => rfl
  | case2 => rfl
  | case3 => rfl
  | case4 => rfl
  | case5 budget seen id _ n _ stop ho =>
    have hlead : n.lead? = none := by rw [Node.lead?, ho]
    exact hlead.trans (Node.link?_of_onward ho).symm
  | case6 budget seen id _ n _ next ho rest ih =>
    have hlead : n.lead? = next := by rw [Node.lead?, ho]
    rw [leadAfter, hlead]
    exact ih

theorem leadAfter_walk (f : Flow) (bound : Nat) (start : String) :
    leadAfter (given (some start)) (f.walk bound start).path = (f.walk bound start).stop.link? :=
  f.leadAfter_walkFrom bound [] _

/-- A walk leaves a link at the bound, else if it leads to a node that was passed, and else for want
of a node. -/
theorem walkFrom_stop {t : String} (h : (f.walkFrom budget seen link).stop.link? = some t) :
    (f.walkFrom budget seen link).stop =
      if (f.walkFrom budget seen link).path.length = budget then .bounded t
      else if t ∈ seen ∨ t ∈ (f.walkFrom budget seen link).path.map Prod.fst then .repeated t
      else .missing t := by
  -- by induction on the walk: its first node uses up one of the budget, and is one that was passed
  fun_induction f.walkFrom budget seen link with
  | case1 => cases h
  | case2 =>
    cases h
    rfl
  | case3 budget seen id hs =>
    cases h
    simp [List.contains_iff_mem.1 hs]
  | case4 budget seen id hs =>
    have hnot : id ∉ seen := fun hm => hs (List.contains_iff_mem.2 hm)
    cases h
    simp [hnot]
  | case5 budget seen id _ n _ stop ho => cases (Node.link?_of_onward ho).symm.trans h
  | case6 budget seen id _ n _ next _ rest ih =>
    have hrest := ih h
    simp only [List.length_cons, List.map_cons, List.mem_cons]
    grind

theorem walk_stop {t : String} (h : (f.walk bound start).stop.link? = some t) :
    (f.walk bound start).stop =
      if (f.walk bound start).path.length = bound then .bounded t
      else if t ∈ (f.walk bound start).path.map Prod.fst then .repeated t else .missing t := by
  have hstop := walkFrom_stop h
  simp only [List.not_mem_nil, false_or] at hstop
  exact hstop

/-! ### Warnings -/

/-- The warning about a path from `before` with the link that is to be followed after it, and whether
the flow has ended there: the path is as long as it may be, or the link leads back to a node of the
path, or it leads to no node. Without a link there is nothing to warn of, and the flow has ended
unless the last node needs an answer. -/
inductive Warns (f : Flow) (bound : Nat) (before : Option String) (path : List (String × Node)) :
    Option String → Bool → List Event → Prop
  | limit {t : String} (hb : path.length = bound) :
      Warns f bound before path (some t) false [.stepLimit t bound]
  | cycle {t : String} (hb : path.length < bound) (ht : t ∈ path.map Prod.fst) :
      Warns f bound before path (some t) false [.cycle t]
  | missing {t : String} (hb : path.length < bound) (ht : f.node? t = none) :
      Warns f bound before path (some t) true
        [.missingLink t ((path.getLast?.map Prod.fst).or before)]
  | silent {isComplete : Bool}
      (hc : isComplete = false ↔
        ∃ x, path.getLast? = some x ∧ (x.2.kind = .question ∨ x.2.kind = .email)) :
      Warns f bound before path none isComplete []

/-- There is at most one warning, and there is one exactly if a link is left. -/
theorem Warns.once {isComplete : Bool} {warning : List Event}
    (h : f.Warns bound before path link isComplete warning) :
    warning.length ≤ 1 ∧ (warning ≠ [] ↔ link ≠ none) := by
  cases h <;> simp

/-- A walk that leaves no link has come to the end of the flow, unless the last node needs an
answer. -/
theorem isComplete_walk_of_link?_eq_none (h : (f.walk bound start).stop.link? = none) :
    (f.walk bound start).isComplete = false ↔ ∃ x, (f.walk bound start).path.getLast? = some x ∧
      (x.2.kind = .question ∨ x.2.kind = .email) := by
  unfold Walk.isComplete
  cases hl : (f.walk bound start).path.getLast? with
  | none =>
    -- there is no link to start along
    have hlead := f.leadAfter_walk bound start
    rw [List.getLast?_eq_none_iff.1 hl, leadAfter, h] at hlead
    rw [walk, hlead]
    cases bound <;> simp [walkFrom]
  | some x =>
    have hstops := (f.walk_last hl).2
    cases hs : (f.walk bound start).stop with
    | waiting =>
      rw [hs] at hstops
      simpa using Node.onward_eq_waiting.1 hstops
    | ended =>
      rw [hs] at hstops
      simp [Node.onward_eq_ended.1 hstops]
    | deadEnd =>
      rw [hs] at hstops
      simpa using (Node.onward_eq_inr.1 hstops).1.ne
    | missing | repeated | bounded => simp [hs, Stop.link?] at h

/-- What is noted about the stop of a walk is the warning about its path. -/
theorem walk_warns (f : Flow) (bound : Nat) (before : Option String) (start : String) :
    f.Warns bound before (f.walk bound start).path
      (leadAfter (given (some start)) (f.walk bound start).path) (f.walk bound start).isComplete
      ((f.walk bound start).stopEvents bound before) := by
  have htrail := f.trailFrom_walk bound start
  have hlead := f.leadAfter_walk bound start
  cases hl : (f.walk bound start).stop.link? with
  | none =>
    have hevents : (f.walk bound start).stopEvents bound before = [] := by
      unfold Walk.stopEvents
      cases hs : (f.walk bound start).stop <;> simp_all [Stop.link?]
    rw [hlead, hl, hevents]
    exact .silent (isComplete_walk_of_link?_eq_none hl)
  | some t =>
    have hstop := walk_stop hl
    unfold Walk.isComplete Walk.stopEvents
    rw [hlead, hl]
    by_cases hb : (f.walk bound start).path.length = bound
    · rw [if_pos hb] at hstop
      rw [hstop]
      exact .limit hb
    · have hlt : (f.walk bound start).path.length < bound := lt_of_le_of_ne htrail.bounded hb
      rw [if_neg hb] at hstop
      by_cases ht : t ∈ (f.walk bound start).path.map Prod.fst
      · rw [if_pos ht] at hstop
        rw [hstop]
        exact .cycle hlt ht
      · -- a link that could be followed is followed
        have hnode : f.node? t = none := by
          rcases htrail.maximal t (hlead.trans hl) with h | h | h | h
          · exact h
          · cases h
          · exact absurd h ht
          · exact absurd h hb
        rw [if_neg ht] at hstop
        rw [hstop]
        exact .missing hlt hnode

/-! ### Where a conversation is -/

/-- The id at which a conversation starts, and what is noted of a start that is stale. -/
inductive Resolves (f : Flow) : String → List Event → Prop
  | designated {id : String} (h : f.entry = .designated id) : Resolves f id []
  | fallback {id : String} (h : f.entry = .fallback id) :
      Resolves f id [.staleStart f.startNodeId id]

/-- The id of the node that an answer is for, and what is noted if it has to be found. -/
inductive Locates (f : Flow) (stepId : Option String) : String → List Event → Prop
  | told {id : String} (h : given stepId = some id) : Locates f stepId id []
  | resolved {id : String} {noted : List Event} (h : given stepId = none)
      (hr : f.Resolves id noted) : Locates f stepId id noted

theorem exists_resolves {id : String} (h : f.entry.id? = some id) : ∃ noted, f.Resolves id noted := by
  cases he : f.entry with
  | designated id' =>
    rw [he] at h
    cases h
    exact ⟨[], .designated he⟩
  | fallback id' =>
    rw [he] at h
    cases h
    exact ⟨_, .fallback he⟩
  | unresolved =>
    rw [he] at h
    cases h

theorem exists_locates {stepId : Option String} {id : String}
    (h : f.positionId? stepId = some id) : ∃ noted, f.Locates stepId id noted := by
  cases hg : given stepId with
  | some id' =>
    rw [positionId?, hg] at h
    cases h
    exact ⟨[], .told hg⟩
  | none =>
    rw [positionId?, hg] at h
    obtain ⟨noted, hr⟩ := exists_resolves h
    exact ⟨noted, .resolved hg hr⟩

end Flow

/-! ### Logs -/

namespace Engine

variable {e : Engine} {id target answer : String} {noted : List Event} {c : Cursor}

theorem entryId_of_resolves (h : e.flow.Resolves id noted) : e.entryId = ⟨.ok id, noted⟩ := by
  unfold entryId
  cases h with
  | designated h | fallback h => rw [h]

theorem positionId_of_locates (h : e.flow.Locates c.stepId id noted) :
    e.positionId c = ⟨.ok id, noted⟩ := by
  unfold positionId
  cases h with
  | told h => rw [h]
  | resolved h hr =>
    rw [h]
    exact entryId_of_resolves hr

/-- Going on with an answer that is kept under a name, or is not kept, notes the walk and the
names. -/
theorem goOn_of_capture {slot : Slot} {captured : Assoc String String}
    (h : slot.capture? answer = some captured) :
    (e.goOn id target slot answer).events =
      e.advanceEvents id (e.flow.walk e.maxSteps target) (captured.keys.map .str) := by
  cases slot with
  | nothing | name =>
    cases h
    rfl
  | scalar | compound => cases h

/-- What is noted of a path from a start, after the node `before`, and what is reported of it. It is
the path that cannot be extended: its nodes give the messages, the last one is where the conversation
pauses, and there is a warning exactly if it could have gone on. -/
structure Accounts (e : Engine) (before : Option String) (start : String)
    (path : List (String × Node)) (warning : List Event) (messages : List Message)
    (stepId : Option String) (isComplete : Bool) : Prop where
  trail : e.flow.TrailFrom e.maxSteps [] (given (some start)) path
  said : messages = path.map fun x => x.2.message
  pauses : stepId = (path.getLast?.map Prod.fst).or before
  warns : e.flow.Warns e.maxSteps before path (leadAfter (given (some start)) path) isComplete warning
  once : warning.length ≤ 1 ∧ (warning ≠ [] ↔ leadAfter (given (some start)) path ≠ none)

theorem walk_accounts (e : Engine) (before : Option String) (start : String) :
    let w := e.flow.walk e.maxSteps start
    e.Accounts before start w.path (w.stopEvents e.maxSteps before) w.messages (w.lastId before)
      w.isComplete := by
  intro w
  have hwarns := e.flow.walk_warns e.maxSteps before start
  exact ⟨e.flow.trailFrom_walk _ _, rfl, rfl, hwarns, hwarns.once⟩

/-- **The log tells the truth about the result.** Of an opening, and of a reply that goes on, these
events are noted: how the start was found, if it had to be and was stale; each node that is passed,
in order, one for each message; the warning, if the path could have gone on; and last what came of
it, as it is reported. -/
theorem events_of_result (e : Engine) :
    (∀ x, e.begin.outcome = .ok x → ∃ start noted path warning,
      e.flow.Resolves start noted ∧
      e.Accounts none start path warning x.messages x.stepId x.isComplete ∧
      e.begin.events = noted ++ path.map (fun y => .traversing y.1 y.2.kind) ++ warning
        ++ [.started start x.stepId x.messages.length x.isComplete]) ∧
    ∀ p answer r, (e.processAt p answer).outcome = .ok r → r.isReprompt = false →
      ∃ c id n target noted path warning,
        p.cursor? = .ok c ∧ e.flow.Locates c.stepId id noted ∧ e.flow.node? id = some n ∧
        n.target? (answer.getD "") = some target ∧
        e.Accounts (some id) target path warning r.messages r.nextStepId r.isComplete ∧
        (e.processAt p answer).events =
          noted ++ path.map (fun y => .traversing y.1 y.2.kind) ++ warning
            ++ [.advanced id r.nextStepId r.messages.length r.isComplete
              (r.captured.keys.map .str)] := by
  constructor
  · intro x hx
    obtain ⟨start, hs, rfl⟩ := begin_eq_ok.1 hx
    obtain ⟨noted, hr⟩ := Flow.exists_resolves hs
    refine ⟨start, noted, _, _, hr, e.walk_accounts none start, ?_⟩
    rw [begin, entryId_of_resolves hr]
    simp [openAt, openingAt, Walk.events]
  · intro p answer r hr hg
    unfold processAt at hr ⊢
    cases hp : p.cursor? with
    | error failure => simp [hp] at hr
    | ok c =>
      simp only [hp] at hr ⊢
      obtain ⟨id, n, hi, hn, hreply⟩ := process_eq_ok.1 hr
      obtain ⟨noted, hl⟩ := Flow.exists_locates hi
      rcases reply_eq_ok.1 hreply with
        ⟨reason, text, options, -, rfl⟩ | ⟨target, captured, ha, ht, hs, rfl⟩
      · cases hg
      · refine ⟨c, id, n, target, noted, _, _, rfl, hl, hn, ht, e.walk_accounts (some id) target, ?_⟩
        have hevents : (e.reply id n (answer.getD "")).events =
            e.advanceEvents id (e.flow.walk e.maxSteps target) (captured.keys.map .str) := by
          rw [reply, Node.respond_eq_onward.2 ⟨ha, ht, rfl⟩]
          exact goOn_of_capture hs
        have hat : e.nodeAt id = ⟨.ok n, []⟩ := by rw [nodeAt, hn]
        rw [process, positionId_of_locates hl]
        simp [hat, hevents, advanceEvents, Walk.events, advance]

/-- The theorem for a flow that would go round for ever: it is opened, and an answer to a message in
the round goes on with it. -/
theorem events_of_result_carousel :
    let e : Engine := ⟨.carousel, 20, rfl, by decide⟩
    let p := Position.cursor ⟨some "tick", .empty⟩
    e.begin.events.map Event.text = ["Traversing flow node", "Traversing flow node",
      "Traversing flow node", "Flow cycle detected during auto-advance", "Flow started"] ∧
    (∃ x, e.begin.outcome = .ok x ∧ ∃ start noted path warning, e.flow.Resolves start noted ∧
      e.Accounts none start path warning x.messages x.stepId x.isComplete ∧
      e.begin.events = noted ++ path.map (fun y => .traversing y.1 y.2.kind) ++ warning
        ++ [.started start x.stepId x.messages.length x.isComplete]) ∧
    ∃ r, (e.processAt p "go on").outcome = .ok r ∧ r.isReprompt = false ∧
      r.messages.map (·.text) = ["Tock.", "Tick."] ∧ ∃ c id n target noted path warning,
        p.cursor? = .ok c ∧ e.flow.Locates c.stepId id noted ∧ e.flow.node? id = some n ∧
        n.target? "go on" = some target ∧
        e.Accounts (some id) target path warning r.messages r.nextStepId r.isComplete ∧
        (e.processAt p "go on").events =
          noted ++ path.map (fun y => .traversing y.1 y.2.kind) ++ warning
            ++ [.advanced id r.nextStepId r.messages.length r.isComplete
              (r.captured.keys.map .str)] := by
  intro e p
  have hp : ∃ r, (e.processAt p "go on").outcome = .ok r ∧ r.isReprompt = false ∧
      r.messages.map (·.text) = ["Tock.", "Tick."] :=
    ⟨_, rfl, rfl, by decide +kernel⟩
  obtain ⟨r, hr, hg, hm⟩ := hp
  exact ⟨by decide +kernel, ⟨_, rfl, (events_of_result e).1 _ rfl⟩,
    ⟨r, hr, hg, hm, (events_of_result e).2 p "go on" r hr hg⟩⟩

end Engine

end Dialogue
