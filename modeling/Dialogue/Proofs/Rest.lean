import Dialogue.Proofs.Turn

/-!
# Where a stored conversation rests

* `Node.Pauses`, `Flow.EndsAt`: the nodes at which a conversation may wait, and those at which
  it may have ended;
* `State.RestsIn`: a state that is nowhere has ended; any other is at a node of the flow, which
  fits whether the flow has ended there;
* `Service.turn_restsIn`: every turn keeps it;
* `Chat.run_restsIn`: hence a chat that starts with nothing stored only ever stores such states,
  and never finds its position missing.
-/

namespace Dialogue

namespace Node

/-- A node at which a conversation may wait: it needs an answer, or has a link to go on along. -/
def Pauses (n : Node) : Prop :=
  n.kind = .question ∨ n.kind = .email ∨ (n.IsLink ∧ given n.next ≠ none)

theorem onward_eq_waiting {n : Node} :
    n.onward = .inl .waiting ↔ n.kind = .question ∨ n.kind = .email := by
  unfold onward kind
  cases n.body <;> simp [Body.kind]

theorem onward_eq_ended {n : Node} : n.onward = .inl .ended ↔ n.kind = .ending := by
  unfold onward kind
  cases n.body <;> simp [Body.kind]

theorem onward_eq_inr {n : Node} {link : Option String} :
    n.onward = .inr link ↔ n.IsLink ∧ given n.next = link := by
  unfold onward IsLink kind next
  cases n.body <;> simp [Body.kind]

end Node

/-- A node at which a conversation may have ended: an end, a link node that leads to no node, or
a node that needs an answer and has a link to a missing node. -/
def Flow.EndsAt (f : Flow) (n : Node) : Prop :=
  n.kind = .ending ∨ (n.IsLink ∧ ∀ t, given n.next = some t → f.node? t = none) ∨
    (n.kind = .question ∧ ∃ r ∈ n.routes, ∃ t, given r.next = some t ∧ f.node? t = none) ∨
    (n.kind = .email ∧ ∃ t, given n.next = some t ∧ f.node? t = none)

/-- A stored state that the flow bears out. -/
structure State.RestsIn (f : Flow) (state : State) : Prop where
  nowhere : state.stepId = none → state.isComplete = true
  somewhere : ∀ id, state.stepId = some id → ∃ n, f.node? id = some n ∧
    (state.isComplete = false → n.Pauses) ∧ (state.isComplete = true → f.EndsAt n)

/-- A flow that greets and asks a question: `yes` leads on to an e-mail node, and any other
answer along a link to `other`. -/
def Flow.helpdesk (other : String) : Flow where
  enabled := true
  startNodeId := "hello"
  nodes := .ofList [
    ("hello", ⟨"hello", "Hello!", [], .start "ask", .empty⟩),
    ("ask", ⟨"ask", "Shall we write to you?", ["yes", "no"],
      .question [⟨"equals", "yes", "mail"⟩, ⟨"default", none, other⟩] none, .empty⟩),
    ("mail", ⟨"mail", "Your address?", [], .email true "email" none "bye", .empty⟩),
    ("bye", ⟨"bye", "Goodbye.", [], .ending, .empty⟩)]

/-! ### Where walks leave a conversation -/

namespace Flow

variable {f : Flow} {n : Node}

/-- An answer whose target is missing ends the conversation at the node it was given to. -/
theorem endsAt_of_target {answer target : String} (ht : n.target? answer = some target)
    (hm : f.node? target = none) : f.EndsAt n := by
  unfold EndsAt Node.IsLink Node.kind Node.next Node.routes
  unfold Node.target? at ht
  cases hb : n.body with
  | start next | message next =>
    simp only [hb] at ht
    refine .inr (.inl ⟨by simp [Body.kind], fun t h => ?_⟩)
    cases ht.symm.trans h
    exact hm
  | question routes saveAs =>
    simp only [hb, Option.bind_eq_some_iff] at ht
    obtain ⟨r, hr, ht⟩ := ht
    exact .inr (.inr (.inl ⟨rfl, r, List.mem_of_find?_eq_some hr, target, ht, hm⟩))
  | email validates saveAs errorMessage next =>
    simp only [hb] at ht
    exact .inr (.inr (.inr ⟨rfl, target, ht, hm⟩))
  | ending => simp [hb] at ht

/-- A walk leaves the conversation at its last node, in a state that fits its stop. -/
theorem restsIn_of_last {w : Walk} {id : String} (hn : f.node? id = some n)
    (hs : f.StopsAfter n w.stop) (data : Assoc String String) :
    State.RestsIn f ⟨some id, w.isComplete, data⟩ := by
  refine ⟨by simp, ?_⟩
  rintro _ ⟨⟩
  refine ⟨n, hn, ?_⟩
  -- each stop says how the node leads on, and so whether it is one to wait or to end at
  unfold Walk.isComplete
  cases hw : w.stop with
  | waiting =>
    rw [hw] at hs
    rcases Node.onward_eq_waiting.1 hs with h | h
    · exact ⟨fun _ => .inl h, by simp⟩
    · exact ⟨fun _ => .inr (.inl h), by simp⟩
  | ended =>
    rw [hw] at hs
    exact ⟨by simp, fun _ => .inl (Node.onward_eq_ended.1 hs)⟩
  | deadEnd =>
    rw [hw] at hs
    obtain ⟨hl, hg⟩ := Node.onward_eq_inr.1 hs
    exact ⟨by simp, fun _ => .inr (.inl ⟨hl, by simp [hg]⟩)⟩
  | missing t =>
    rw [hw] at hs
    obtain ⟨hl, hg⟩ := Node.onward_eq_inr.1 hs.1
    refine ⟨by simp, fun _ => .inr (.inl ⟨hl, fun t' ht' => ?_⟩)⟩
    cases hg.symm.trans ht'
    exact hs.2
  | repeated t | bounded t =>
    rw [hw] at hs
    obtain ⟨hl, hg⟩ := Node.onward_eq_inr.1 hs
    exact ⟨fun _ => .inr (.inr ⟨hl, by simp [hg]⟩), by simp⟩

theorem entry_id?_eq_some {id : String} (h : f.entry.id? = some id) :
    id = "" ∨ f.node? id ≠ none := by
  have hc : f.nodes.contains id = true := by
    unfold entry at h
    cases hd : f.designated? with
    | some id' =>
      simp only [hd, Entry.id?, Option.some.injEq] at h
      exact h ▸ (Option.filter_eq_some_iff.1 hd).2
    | none =>
      cases hs : f.firstStart? with
      | some id' =>
        simp only [hd, hs, Entry.id?, Option.some.injEq] at h
        obtain ⟨e, he, rfl⟩ := Option.map_eq_some_iff.1 hs
        exact Assoc.contains_iff.2 (h ▸ List.mem_map_of_mem (List.mem_of_find?_eq_some he))
      | none => simp [hd, hs, Entry.id?] at h
  refine or_iff_not_imp_left.2 fun hid => ?_
  rw [Ne, node?_eq_none_of_given (given_some_of_ne hid), hc]
  simp

end Flow

/-! ### Turns -/

namespace Engine

variable {e : Engine}

/-- A conversation that has been opened rests in the flow. -/
theorem openingAt_restsIn {id : String} (hid : e.flow.entry.id? = some id)
    (data : Assoc String String) :
    State.RestsIn e.flow ⟨(e.openingAt id).stepId, (e.openingAt id).isComplete, data⟩ := by
  dsimp only [openingAt]
  cases hl : (e.flow.walk e.maxSteps id).path.getLast? with
  | some x =>
    obtain ⟨last, n⟩ := x
    obtain ⟨hn, hs⟩ := Flow.walk_last hl
    simpa [Walk.lastId, hl] using Flow.restsIn_of_last hn hs data
  | none =>
    -- no node was passed, so the entry has the empty id and the walk ends at once
    have hid' : id = "" := by
      refine (Flow.entry_id?_eq_some hid).resolve_right fun h => ?_
      exact Flow.walk_getLast?_ne_none e.positive h hl
    subst hid'
    rw [Flow.walk_empty]
    exact ⟨fun _ => rfl, by simp [Walk.lastId]⟩

/-- A conversation that has gone on from a node rests in the flow. -/
theorem advance_restsIn {id target answer : String} {n : Node} {captured : Assoc String String}
    (hn : e.flow.node? id = some n) (ht : n.target? answer = some target)
    (data : Assoc String String) :
    let r := advance id (e.flow.walk e.maxSteps target) captured
    State.RestsIn e.flow ⟨r.nextStepId, r.isComplete, data⟩ := by
  dsimp only [advance]
  cases hl : (e.flow.walk e.maxSteps target).path.getLast? with
  | some x =>
    obtain ⟨last, n'⟩ := x
    obtain ⟨hn', hs⟩ := Flow.walk_last hl
    simpa [Walk.lastId, hl] using Flow.restsIn_of_last hn' hs data
  | none =>
    -- no node was passed, so the target is missing, and the position is kept
    have hm : e.flow.node? target = none := by
      by_contra h
      exact Flow.walk_getLast?_ne_none e.positive h hl
    obtain ⟨b, hb⟩ := Nat.exists_eq_add_of_lt e.positive
    have hw : e.flow.walk e.maxSteps target = ⟨[], .missing target⟩ := by
      rw [hb]
      exact Flow.walk_of_missing (Node.ne_empty_of_mem_links (Node.mem_links_of_target? ht)) hm
    rw [hw]
    refine ⟨by simp [Walk.lastId], ?_⟩
    rintro _ ⟨⟩
    exact ⟨n, hn, by simp [Walk.isComplete], fun _ => Flow.endsAt_of_target ht hm⟩

end Engine

namespace State.RestsIn

variable {f : Flow} {state : State}

/-- A conversation under way is at a node of the flow. -/
theorem positionId? (h : state.RestsIn f) (hc : state.isComplete = false) :
    ∃ id n, state.stepId = some id ∧ f.positionId? state.stepId = some id ∧
      f.node? id = some n ∧ n.Pauses := by
  cases hs : state.stepId with
  | none => simp [h.nowhere hs] at hc
  | some id =>
    obtain ⟨n, hn, hp, -⟩ := h.somewhere id hs
    have hg := given_some_of_ne (Flow.node?_eq_some.1 hn).1
    exact ⟨id, n, rfl, by simp [Flow.positionId?, hg], hn, hp hc⟩

/-- Every reply leaves a conversation under way resting in the flow. -/
theorem replyTurn {s : Service} {e : Engine} {message : Option String} {r : Reply} {next : State}
    (h : state.RestsIn e.flow) (hc : state.isComplete = false)
    (hr : (e.process state.cursor message).outcome = .ok r)
    (hs : (s.replyTurn state r).state = some next) : next.RestsIn e.flow := by
  obtain ⟨id, n, hst, hi, hn, hp⟩ := h.positionId? hc
  obtain ⟨id', n', hi', hn', hr⟩ := Engine.process_eq_ok.1 hr
  cases hi.symm.trans hi'
  cases hn.symm.trans hn'
  rcases Engine.reply_eq_ok.1 hr with
    ⟨reason, text, options, -, rfl⟩ | ⟨target, captured, -, ht, -, rfl⟩
  · -- asked again: the position is kept
    cases hs
    refine ⟨by simp [Engine.again], ?_⟩
    rintro _ ⟨⟩
    exact ⟨n, hn, fun _ => hp, by simp⟩
  · cases hs
    exact Engine.advance_restsIn hn ht _

end State.RestsIn

namespace Service

variable {s : Service} {f : Flow} {held : Option State} {message trigger : Option String}
  {turn : Turn}

/-- A turn that goes on from a state that rests in the flow, if it goes on, can report no other
failures than those of a flow without nodes or without a start. -/
theorem Fails.of_restsIn {failure : Failure} {kind : String}
    (hheld : ∀ state, held = some state → state.RestsIn f)
    (hc : ∀ state, s.continued held trigger = some state → state.isComplete = false)
    (h : s.Fails f held message trigger failure) (hk : failure.reported? = some kind) :
    (failure = .noNodes ∧ f.nodes.isEmpty = true) ∨
      (failure = .noStartNode f.startNodeId ∧ f.entry = .unresolved) := by
  cases h with
  | unbuilt hb =>
    rcases Engine.build_eq_error.1 hb with ⟨hn, rfl⟩ | ⟨-, -, rfl⟩
    · exact .inl ⟨rfl, hn⟩
    · cases hk
  | noStart _ _ hu => exact .inr ⟨rfl, hu⟩
  | lost _ hst hi hn =>
    -- the position of such a state is a node
    obtain ⟨id, n, -, hi', hn', -⟩ :=
      (hheld _ (held_of_continued hst)).positionId? (hc _ hst)
    cases hi.symm.trans hi'
    cases hn.symm.trans hn'
  | breaks _ _ _ _ h => cases h.reported?.symm.trans hk

/-- A turn of a flow stores a state that rests in it, if it went on from one. -/
theorem turn_restsIn (hheld : ∀ state, held = some state → state.RestsIn f)
    (hc : ∀ state, s.continued held trigger = some state → state.isComplete = false)
    (ht : (s.run f held message trigger).outcome = .ok turn) {next : State}
    (hs : turn.state = some next) : next.RestsIn f := by
  rcases run_stores ht hs with ⟨e, x, hb, hx, rfl⟩ | ⟨e, state, r, hb, hst, hr, hs⟩
  · obtain rfl := Engine.build_eq_ok hb
    obtain ⟨id, hid, rfl⟩ := Engine.begin_eq_ok.1 hx
    exact Engine.openingAt_restsIn hid .empty
  · obtain rfl := Engine.build_eq_ok hb
    exact (hheld state (held_of_continued hst)).replyTurn (hc state hst) hr hs

end Service

namespace Chat

variable {s : Service} {f : Flow}

/-- Every turn of a flow keeps a stored conversation resting in it, and finds its position. -/
theorem upholds_restsIn (s : Service) (f : Flow) :
    Upholds s f (State.RestsIn f) fun outcome _ =>
      ∀ turn, outcome = .ok turn → turn.error ≠ some "node_not_found" where
  quiet := by
    intro outcome hq turn ht
    simp [hq turn ht, Turn.unhandled]
  promises := by
    intro held message trigger hheld hc turn ht he
    obtain ⟨failure, hf, hk⟩ := Service.run_error_eq_some.1 ⟨turn, ht, he⟩
    rcases hf.of_restsIn hheld hc hk with ⟨rfl, -⟩ | ⟨rfl, -⟩ <;> simp at hk
  keeps := by
    intro held message trigger hheld hc turn state ht
    exact Service.turn_restsIn hheld hc ht

/-- **A stored conversation always rests in its flow.** In a chat with one flow that starts with
nothing stored, every stored state is nowhere and ended, or at a node of the flow: one at which a
conversation may wait if the flow has not ended, one at which it may have ended otherwise. So no
turn finds its position missing. -/
theorem run_restsIn (calls : List Call) (hcalls : ∀ call ∈ calls, call.IsOn f) :
    ∀ x ∈ run s (.initial .nothing) calls,
      (x.2.stored = .nothing ∨ ∃ state, x.2.stored = .state state ∧ state.RestsIn f) ∧
        ∀ turn, x.1.outcome = .ok turn → turn.error ≠ some "node_not_found" := by
  intro x hx
  have hnothing : (initial .nothing).stored.Keeps (State.RestsIn f) := trivial
  have h := (upholds_restsIn s f).run hcalls hnothing x hx
  refine ⟨?_, h.2⟩
  cases hst : x.2.stored with
  | nothing => exact .inl rfl
  | state state => exact .inr ⟨state, rfl, by simpa [hst] using h.1⟩
  | json j => simp [hst] at h

/-- The theorem for a flow with a dangling link: it is restarted, an answer takes that link, and
the chat talks on. -/
theorem run_restsIn_helpdesk :
    (∀ call ∈ [Call.say (.helpdesk "gone") "hi" none, .say (.helpdesk "gone") "yes" "init_flow",
        .say (.helpdesk "gone") "no" none, .say (.helpdesk "gone") "more" none],
      call.IsOn (.helpdesk "gone")) ∧
    ∀ x ∈ run (.make none none none) (.initial .nothing)
        [.say (.helpdesk "gone") "hi" none, .say (.helpdesk "gone") "yes" "init_flow",
          .say (.helpdesk "gone") "no" none, .say (.helpdesk "gone") "more" none],
      (x.2.stored = .nothing ∨
        ∃ state, x.2.stored = .state state ∧ state.RestsIn (.helpdesk "gone")) ∧
        ∀ turn, x.1.outcome = .ok turn → turn.error ≠ some "node_not_found" := by
  have hcalls : ∀ call ∈ [Call.say (.helpdesk "gone") "hi" none,
      .say (.helpdesk "gone") "yes" "init_flow", .say (.helpdesk "gone") "no" none,
      .say (.helpdesk "gone") "more" none], call.IsOn (.helpdesk "gone") := by
    simp [Call.say_isOn]
  exact ⟨hcalls, run_restsIn _ hcalls⟩

end Chat

end Dialogue
