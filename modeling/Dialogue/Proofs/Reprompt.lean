import Dialogue.Proofs.Lifecycle

/-!
# Asking again leaves no trace

A turn that asks again gives back the state that it was given. So a conversation goes on as if the
answer had not been given.

* `Handling.asksAgain`: whether a turn has asked again;
* `State.IsPlaced`: a state that names its step, unless the flow has ended;
* `Service.answered`: what comes of an answer when a state is stored;
* `Turn.KeepsPlace`: what a turn says and stores that asks again in a state;
* `Service.answered_keepsPlace`, `Service.answered_isPlaced`: the turns that ask again keep the
  state, and every turn leaves a state that is placed;
* `Call.plain`: the call with a message alone;
* `Chat.heeded`: the messages of a conversation that it does not ask for again;
* `Chat.run_heeded`: with these alone the rest of the conversation is the same.
-/

namespace Dialogue

/-- Whether a turn has asked again: it has been counted. -/
def Handling.asksAgain (h : Handling) : Bool := h.counters.any Counter.isReprompt

/-- A state that names its step, unless the flow has ended there. -/
def State.IsPlaced (state : State) : Prop := state.isComplete = false → given state.stepId ≠ none

/-! ### Steps of replies -/

/-- A walk from a step that is named pauses at a step that is named. -/
theorem Walk.given_lastId {f : Flow} {budget : Nat} {start id : String} (hid : id ≠ "") :
    given ((f.walk budget start).lastId (some id)) ≠ none := by
  unfold lastId
  cases hl : (f.walk budget start).path.getLast? with
  | none => simp [given_some_of_ne hid]
  | some x =>
    obtain ⟨last, n⟩ := x
    have hlast : last ≠ "" := (Flow.node?_eq_some.1 (Flow.walk_last hl).1).1
    simp [given_some_of_ne hlast]

/-- Every reply names the step that the conversation goes on to. -/
theorem Engine.given_nextStepId {e : Engine} {c : Cursor} {answer : Option String} {r : Reply}
    (h : (e.process c answer).outcome = .ok r) : given r.nextStepId ≠ none := by
  obtain ⟨id, n, -, hn, hr⟩ := process_eq_ok.1 h
  have hid : id ≠ "" := (Flow.node?_eq_some.1 hn).1
  rcases reply_eq_ok.1 hr with ⟨reason, text, options, -, rfl⟩ | ⟨target, captured, -, -, -, rfl⟩
  · simp [again, given_some_of_ne hid]
  · exact Walk.given_lastId hid

/-- A reply that asks again at a named step has one message, which comes from no node, and stays at
the step. -/
theorem Engine.again_of_process {e : Engine} {c : Cursor} {answer : Option String} {r : Reply}
    (h : (e.process c answer).outcome = .ok r) (hr : r.isReprompt = true)
    (hc : given c.stepId ≠ none) :
    r.nextStepId = c.stepId ∧ ∃ m, r.messages = [m] ∧ m.kind = none := by
  obtain ⟨id, n, hi, -, hreply⟩ := process_eq_ok.1 h
  rcases reply_eq_ok.1 hreply with
    ⟨reason, text, options, -, rfl⟩ | ⟨target, captured, -, -, -, rfl⟩
  · obtain ⟨id', hg⟩ := Option.ne_none_iff_exists'.1 hc
    rw [Flow.positionId?, hg] at hi
    cases hi
    exact ⟨(given_eq_some.1 hg).1.symm, _, rfl, rfl⟩
  · cases hr

/-! ### Answers in a state -/

/-- What a turn says and stores that asks again in a state: it has one message, which comes from no
node, and it stores the state. -/
structure Turn.KeepsPlace (turn : Turn) (state : State) : Prop where
  handled : turn.handled = true
  message : ∃ m, turn.messages = [m] ∧ m.kind = none
  state : turn.state = some state

namespace Service

variable {s : Service} {f : Flow} {d : Document} {state : State} {message : Option String}
  {count : Int} {depth : Nat}

/-- What comes of an answer when a state is stored. -/
def answered (s : Service) (f : Flow) (state : State) (message : Option String) : Handling :=
  if state.isComplete then leftAlone "skipped" else s.run f (some state) message none

theorem handle_eq_answered (hf : Flow.ofDocument d depth = .ok f) (he : f.enabled = true) :
    s.handle (some d) (.state state) message none count depth =
      s.answered f state message := by
  rw [handle_of_ok hf]
  unfold handleFlow answered
  cases hc : state.isComplete <;> simp [he, Stored.read, applies, hc]

/-- The counters of a failure have nothing to do with asking again. -/
theorem asksAgain_failed (action : String) (failure : Failure) (events : List Event) :
    (failed action failure events).asksAgain = false := by
  unfold failed
  split_ifs
  · rfl
  · cases failure.flowKind? <;> rfl

/-- Without the trigger a turn goes on with the state, unless there is no engine of the flow. -/
theorem run_without_trigger (s : Service) (f : Flow) (state : State) (message : Option String) :
    (∃ failure action, Engine.build f s.maxSteps = .error failure ∧
        s.run f (some state) message none = failed action failure []) ∨
      ∃ e, Engine.build f s.maxSteps = .ok e ∧
        s.run f (some state) message none = s.proceed e state message := by
  have hc : s.continued (some state) none = some state := continued_eq_some.2 ⟨nofun, rfl⟩
  rcases s.run_cases f (some state) message none with
    ⟨failure, action, hb, hrun⟩ | ⟨e, -, hc', -⟩ | ⟨e, state', hb, hc', hrun⟩
  · exact .inl ⟨failure, action, hb, hrun⟩
  · cases hc.symm.trans hc'
  · cases hc.symm.trans hc'
    exact .inr ⟨e, hb, hrun⟩

/-- A turn that asks again comes of a reply that does. -/
theorem run_of_asksAgain (h : (s.run f (some state) message none).asksAgain = true) :
    ∃ e r, (Engine.process e state.cursor message).outcome = .ok r ∧ r.isReprompt = true ∧
      (s.run f (some state) message none).outcome = .ok (s.replyTurn state r) := by
  rcases s.run_without_trigger f state message with
      ⟨failure, action, -, hrun⟩ | ⟨e, -, hrun⟩
  · rw [hrun, asksAgain_failed] at h
    cases h
  · rw [hrun] at h ⊢
    unfold proceed at h ⊢
    cases hp : (e.process state.cursor message).outcome with
    | ok r =>
      simp only [hp, Handling.asksAgain, any_isReprompt_replied] at h
      simp only [hp, replied_outcome]
      exact ⟨e, r, hp, h, rfl⟩
    | error failure =>
      simp only [hp, asksAgain_failed] at h
      cases h

/-- A turn that asks again in a state that is placed keeps the state. -/
theorem answered_keepsPlace (hp : state.IsPlaced)
    (h : (s.answered f state message).asksAgain = true) :
    ∃ turn, (s.answered f state message).outcome = .ok turn ∧ turn.KeepsPlace state := by
  unfold answered at h ⊢
  cases hc : state.isComplete with
  | true => simp [hc, leftAlone, Handling.asksAgain, Counter.isReprompt] at h
  | false =>
    simp only [hc, Bool.false_eq_true, if_false] at h ⊢
    obtain ⟨e, r, hr, hre, hturn⟩ := run_of_asksAgain h
    obtain ⟨hstep, hm⟩ := Engine.again_of_process hr hre (hp hc)
    have hstate : (⟨r.nextStepId, false, state.data⟩ : State) = state := by
      rw [hstep, ← hc]
      rfl
    have hagain : s.replyTurn state r = againTurn state r := if_pos hre
    refine ⟨_, hturn, ?_⟩
    rw [hagain]
    exact ⟨rfl, hm, congrArg some hstate⟩

/-- Every state that is stored after an answer is placed. -/
theorem answered_isPlaced {turn : Turn} {next : State}
    (ht : (s.answered f state message).outcome = .ok turn) (hs : turn.state = some next) :
    next.IsPlaced := by
  unfold answered at ht
  split_ifs at ht
  · cases leftAlone_eq_ok.1 ht
    cases hs
  · rcases s.run_without_trigger f state message with
      ⟨failure, action, -, hrun⟩ | ⟨e, -, hrun⟩
    · rw [hrun] at ht
      obtain ⟨kind, -, rfl⟩ := failed_eq_ok.1 ht
      cases hs
    · rw [hrun] at ht
      rcases proceed_eq_ok.1 ht with ⟨r, hr, rfl⟩ | ⟨_, _, -, -, rfl⟩
      · have hg := Engine.given_nextStepId hr
        unfold replyTurn at hs
        split_ifs at hs <;> cases hs <;> exact fun _ => hg
      · cases hs

end Service

/-! ### Conversations -/

/-- The call with a document and a message alone. -/
def Call.plain (d : Document) (depth : Nat) (message : Option String) : Call :=
  ⟨some d, false, none, none, message, none, false, depth⟩

namespace Chat

variable {s : Service} {f : Flow} {d : Document} {depth : Nat} {c c' : Chat} {state : State}
  {message : Option String}

/-- The messages of a conversation that it does not ask for again. -/
def heeded (s : Service) (c : Chat) (d : Document) (depth : Nat)
    (messages : List (Option String)) : List (Option String) :=
  ((messages.zip (run s c (messages.map (.plain d depth)))).filter fun p => !p.2.1.asksAgain).map
    Prod.fst

/-- What can be seen of a call: its outcome, and what is stored after it. -/
def seen (x : Handling × Chat) : Except Failure Turn × Stored := (x.1.outcome, x.2.stored)

theorem run_cons (s : Service) (c : Chat) (call : Call) (calls : List Call) :
    run s c (call :: calls) = step s c call :: run s (step s c call).2 calls := rfl

theorem heeded_cons (s : Service) (c : Chat) (d : Document) (depth : Nat)
    (message : Option String) (messages : List (Option String)) :
    heeded s c d depth (message :: messages) =
      if (step s c (.plain d depth message)).1.asksAgain then
        heeded s (step s c (.plain d depth message)).2 d depth messages
      else message :: heeded s (step s c (.plain d depth message)).2 d depth messages := by
  unfold heeded
  rw [List.map_cons, run_cons, List.zip_cons_cons, List.filter_cons]
  cases (step s c (.plain d depth message)).1.asksAgain <;> rfl

section Step

variable (hf : Flow.ofDocument d depth = .ok f) (he : f.enabled = true)
  (hc : c.stored = .state state)

include hf he hc

/-- What comes of an answer depends on the stored state alone. -/
theorem step_plain (message : Option String) :
    (step s c (.plain d depth message)).1.outcome = (s.answered f state message).outcome ∧
      (step s c (.plain d depth message)).1.asksAgain = (s.answered f state message).asksAgain ∧
      (step s c (.plain d depth message)).2.stored =
        storedAfter (.state state) (s.answered f state message).outcome := by
  have hhandling : handling s c.stored c.messageCount (.plain d depth message) =
      s.answered f state message := by
    rw [hc]
    exact Service.handle_eq_answered hf he
  have houtcome := congrArg Handling.outcome hhandling
  have hagain := congrArg Handling.asksAgain hhandling
  refine ⟨houtcome, hagain, ?_⟩
  show storedAfter c.stored (handling s c.stored c.messageCount _).outcome = _
  rw [hhandling, hc]

/-- After an answer a state is stored that is placed. -/
theorem step_isPlaced (hp : state.IsPlaced) (message : Option String) :
    ∃ next, (step s c (.plain d depth message)).2.stored = .state next ∧ next.IsPlaced := by
  obtain ⟨-, -, hstored⟩ := step_plain (s := s) hf he hc message
  rw [hstored]
  cases ho : (s.answered f state message).outcome with
  | error failure => exact ⟨state, rfl, hp⟩
  | ok turn =>
    dsimp only [storedAfter]
    cases hs : turn.state with
    | none => exact ⟨state, rfl, hp⟩
    | some next => exact ⟨next, rfl, Service.answered_isPlaced ho hs⟩

/-- A call that asks again keeps the stored state. -/
theorem step_of_asksAgain (hp : state.IsPlaced)
    (h : (step s c (.plain d depth message)).1.asksAgain = true) :
    (step s c (.plain d depth message)).2.stored = .state state ∧
      ∃ turn, (step s c (.plain d depth message)).1.outcome = .ok turn ∧ turn.KeepsPlace state := by
  obtain ⟨houtcome, hagain, hstored⟩ := step_plain (s := s) hf he hc message
  rw [hagain] at h
  obtain ⟨turn, ht, hk⟩ := Service.answered_keepsPlace hp h
  rw [houtcome, hstored, ht]
  refine ⟨?_, turn, rfl, hk⟩
  dsimp only [storedAfter]
  rw [hk.state]

end Step

/-- Two conversations that go on from one state, the second without the messages that the first one
asks for again, show the same otherwise, and end with the same state. -/
theorem run_heeded_from (hf : Flow.ofDocument d depth = .ok f) (he : f.enabled = true)
    (hc : c.stored = .state state) (hc' : c'.stored = .state state) (hp : state.IsPlaced)
    (messages : List (Option String)) :
    (run s c' ((heeded s c d depth messages).map (.plain d depth))).map seen =
        ((run s c (messages.map (.plain d depth))).filter fun x => !x.1.asksAgain).map seen ∧
      (finish s c' ((heeded s c d depth messages).map (.plain d depth))).stored =
        (finish s c (messages.map (.plain d depth))).stored := by
  -- by induction on the messages: where the first conversation asks again, the second one stays
  induction messages generalizing c c' state with
  | nil => exact ⟨rfl, hc'.trans hc.symm⟩
  | cons message messages ih =>
    obtain ⟨houtcome, hagain, hstored⟩ := step_plain (s := s) hf he hc message
    obtain ⟨houtcome', hagain', hstored'⟩ := step_plain (s := s) hf he hc' message
    rw [heeded_cons, List.map_cons, run_cons, finish_cons, List.filter_cons]
    cases ha : (step s c (.plain d depth message)).1.asksAgain with
    | true =>
      obtain ⟨hsame, -⟩ := step_of_asksAgain hf he hc hp ha
      simpa using ih hsame hc' hp
    | false =>
      obtain ⟨next, hnext, hplaced⟩ := step_isPlaced (s := s) hf he hc hp message
      have hnext' : (step s c' (.plain d depth message)).2.stored = .state next := by
        rw [hstored', ← hstored, hnext]
      obtain ⟨hrun, hfinish⟩ := ih hnext hnext' hplaced
      have hseen : seen (step s c' (.plain d depth message)) =
          seen (step s c (.plain d depth message)) := by
        unfold seen
        rw [houtcome, houtcome', hnext, hnext']
      simp only [Bool.false_eq_true, if_false, Bool.not_false, if_true, List.map_cons, run_cons,
        finish_cons]
      exact ⟨by rw [hseen, hrun], hfinish⟩

/-- Every call of a conversation that asks again keeps the state that is stored. -/
theorem history_keepsPlace (hf : Flow.ofDocument d depth = .ok f) (he : f.enabled = true)
    (hc : c.stored = .state state) (hp : state.IsPlaced) (messages : List (Option String)) :
    ∀ x ∈ history s c (messages.map (.plain d depth)), x.handling.asksAgain = true →
      ∃ state turn, x.before.stored = .state state ∧ x.handling.outcome = .ok turn ∧
        turn.KeepsPlace state := by
  induction messages generalizing c state with
  | nil => simp [history]
  | cons message messages ih =>
    obtain ⟨next, hnext, hplaced⟩ := step_isPlaced (s := s) hf he hc hp message
    rw [List.map_cons, history_cons, List.forall_mem_cons]
    refine ⟨fun ha => ?_, ih hnext hplaced⟩
    obtain ⟨-, turn, ht, hk⟩ := step_of_asksAgain hf he hc hp ha
    exact ⟨state, turn, hc, ht, hk⟩

/-- **Asking again leaves no trace.** Let a conversation with an enabled flow go on from a stored
state that names its step. Without the messages that it asks for again, all other messages come to
the same turns and the same stored states, and what is stored at the end is the same. Each turn that
asks again is handled, has one message that comes from no node, and stores the state that it was
given. -/
theorem run_heeded (hf : Flow.ofDocument d depth = .ok f) (he : f.enabled = true)
    (hc : c.stored = .state state) {id : String} (hid : state.stepId = some id) (hne : id ≠ "")
    (messages : List (Option String)) :
    (run s c ((heeded s c d depth messages).map (.plain d depth))).map seen =
        ((run s c (messages.map (.plain d depth))).filter fun x => !x.1.asksAgain).map seen ∧
      (finish s c ((heeded s c d depth messages).map (.plain d depth))).stored =
        (finish s c (messages.map (.plain d depth))).stored ∧
      ∀ x ∈ history s c (messages.map (.plain d depth)), x.handling.asksAgain = true →
        ∃ state turn, x.before.stored = .state state ∧ x.handling.outcome = .ok turn ∧
          turn.KeepsPlace state := by
  have hp : state.IsPlaced := fun _ => by simp [hid, given_some_of_ne hne]
  obtain ⟨hrun, hfinish⟩ := run_heeded_from (s := s) hf he hc hc hp messages
  exact ⟨hrun, hfinish, history_keepsPlace hf he hc hp messages⟩

/-- The theorem for a conversation that asks twice for an address, takes one, and is talked on after
its end. -/
theorem run_heeded_helpdesk :
    let s := Service.make none none none
    let d : Document := .flow (.helpdesk "bye")
    let depth := Json.usualDepth
    let c := initial (.state ⟨"mail", false, .ofList [("name", "Ann")]⟩)
    let messages : List (Option String) := ["no address", none, "a@b.co", "thanks"]
    Flow.ofDocument d depth = .ok (.helpdesk "bye") ∧ (Flow.helpdesk "bye").enabled = true ∧
    c.stored = .state ⟨"mail", false, .ofList [("name", "Ann")]⟩ ∧ "mail" ≠ "" ∧
    heeded s c d depth messages = [some "a@b.co", some "thanks"] ∧
    (run s c ((heeded s c d depth messages).map (.plain d depth))).map seen =
        ((run s c (messages.map (.plain d depth))).filter fun x => !x.1.asksAgain).map seen ∧
      (finish s c ((heeded s c d depth messages).map (.plain d depth))).stored =
        (finish s c (messages.map (.plain d depth))).stored ∧
      ∀ x ∈ history s c (messages.map (.plain d depth)), x.handling.asksAgain = true →
        ∃ state turn, x.before.stored = .state state ∧ x.handling.outcome = .ok turn ∧
          turn.KeepsPlace state := by
  intro s d depth c messages
  exact ⟨rfl, rfl, rfl, by decide, by decide +kernel,
    run_heeded rfl rfl rfl rfl (by decide) messages⟩

end Chat

end Dialogue
