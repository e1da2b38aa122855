import Dialogue.Proofs.Answerable
import Dialogue.Proofs.Locality
import Dialogue.Proofs.Reprompt
import Dialogue.Proofs.Trail

/-!
# The service follows the engine

The service stores a state where a caller of the engine holds a cursor. A conversation with the
service goes the way of the conversation with the engine, up to the announcement at its end.

* `upTo`: the results up to the first at which something has ended;
* `Answered.messages`, `Answered.isComplete`: what the engine says, and whether the flow has ended;
* `Service.AnnouncesEnd`: the replies of the engine after which the service announces the end;
* `Turn.Follows`: a turn that says and stores what the engine gives;
* `Service.startTurn_follows`, `Service.replyTurn_follows`: one step of the service is one step of
  the engine;
* `Conversation.toEnd`, `Chat.toEnd`: conversations up to the end of the flow;
* `Chat.toEnd_follows`: every turn of the one follows what the engine gives in the other.
-/

namespace Dialogue

/-- The results up to the first one that is done, and this one. -/
def upTo {α : Type} (done : α → Bool) (xs : List α) : List α := xs.take (xs.findIdx done + 1)

theorem upTo_cons {α : Type} (done : α → Bool) (x : α) (xs : List α) :
    upTo done (x :: xs) = x :: if done x then [] else upTo done xs := by
  unfold upTo
  cases h : done x <;> simp [List.findIdx_cons, h]

/-- All results up to the first one that is done: the first result, and the others if it is not
done. -/
theorem forall_mem_upTo_cons {α : Type} {done : α → Bool} {P : α → Prop} {x : α} {xs : List α} :
    (∀ y ∈ upTo done (x :: xs), P y) ↔ P x ∧ (done x = false → ∀ y ∈ upTo done xs, P y) := by
  rw [upTo_cons, List.forall_mem_cons]
  cases done x <;> simp

/-- Two runs are related up to their ends if their first results are, and end together, and if the
rest is related where they go on. -/
theorem forall₂_upTo_cons {α β : Type} {done : α → Bool} {done' : β → Bool} {R : α → β → Prop}
    {x : α} {xs : List α} {y : β} {ys : List β} (hxy : R x y) (hdone : done x = done' y)
    (hrest : done x = false → List.Forall₂ R (upTo done xs) (upTo done' ys)) :
    List.Forall₂ R (upTo done (x :: xs)) (upTo done' (y :: ys)) := by
  rw [upTo_cons, upTo_cons, ← hdone]
  refine .cons hxy ?_
  cases hx : done x with
  | true => exact .nil
  | false => exact hrest hx

/-! ### What the engine says -/

/-- What the engine says. -/
def Answered.messages : Answered → List Message
  | .opening x => x.messages
  | .reply r => r.messages

/-- Whether the flow has ended with what the engine gives. -/
def Answered.isComplete : Answered → Bool
  | .opening x => x.isComplete
  | .reply r => r.isComplete

namespace Engine

variable {e : Engine} {c : Cursor} {answer : Option String}

theorem length_messages_of_walk (e : Engine) (id : String) :
    (e.flow.walk e.maxSteps id).messages.length ≤ e.maxSteps := by
  rw [Walk.messages, List.length_map]
  exact (e.flow.trailFrom_walk e.maxSteps id).bounded

/-- An opening has no more messages than the bound allows. -/
theorem length_messages_of_begin {x : Opening} (h : e.begin.outcome = .ok x) :
    x.messages.length ≤ e.maxSteps := by
  obtain ⟨id, -, rfl⟩ := begin_eq_ok.1 h
  exact e.length_messages_of_walk id

/-- A reply has no more messages than the bound allows. -/
theorem length_messages_of_process {r : Reply} (h : (e.process c answer).outcome = .ok r) :
    r.messages.length ≤ e.maxSteps := by
  obtain ⟨id, n, -, -, hr⟩ := process_eq_ok.1 h
  rcases reply_eq_ok.1 hr with ⟨reason, text, options, -, rfl⟩ | ⟨target, captured, -, -, -, rfl⟩
  · -- the one message that asks again fits, for the bound is positive
    exact e.positive
  · exact e.length_messages_of_walk target

/-- A reply that asks again captures nothing, and the flow has not ended. -/
theorem isComplete_of_isReprompt {r : Reply} (h : (e.process c answer).outcome = .ok r)
    (hr : r.isReprompt = true) : r.isComplete = false ∧ r.captured = .empty := by
  obtain ⟨id, n, -, -, hreply⟩ := process_eq_ok.1 h
  rcases reply_eq_ok.1 hreply with
    ⟨reason, text, options, -, rfl⟩ | ⟨target, captured, -, -, -, rfl⟩
  · exact ⟨rfl, rfl⟩
  · cases hr

end Engine

/-! ### Turns that follow the engine -/

/-- What is said after the end of a flow, as a message. -/
def Message.transition : Message := ⟨transitionText, [], some "text"⟩

/-- The replies of the engine after which a service announces the end of the flow: it does so
unless the last message says it already. -/
inductive Service.AnnouncesEnd (s : Service) : Answered → Prop
  | reply {r : Reply} (hs : s.announces = true) (hc : r.isComplete = true)
      (hm : ∀ m, r.messages.getLast? = some m → ¬transitionText.toList <:+: m.text.toList) :
      AnnouncesEnd s (.reply r)

/-- A turn of a service that follows what the engine gives: it stores the cursor that is to be held
then, and whether the flow has ended, and says what the engine says, with the announcement after it
if there is to be one. -/
structure Turn.Follows (s : Service) (bound : Nat) (turn : Turn) (state : State) (a : Answered)
    (held : Cursor) : Prop where
  stores : turn.state = some state
  cursor : state.cursor = held
  ended : state.isComplete = a.isComplete
  plain : ¬s.AnnouncesEnd a → turn.messages = a.messages
  announced : s.AnnouncesEnd a → turn.messages = a.messages ++ [.transition]
  length : turn.messages.length ≤ bound + 1

namespace Service

variable {s : Service} {e : Engine} {f : Flow} {state : State} {r : Reply}
  {message trigger : Option String}

theorem saysTransition_iff {messages : List Message} :
    saysTransition messages = true ↔
      ∃ m, messages.getLast? = some m ∧ transitionText.toList <:+: m.text.toList := by
  unfold saysTransition
  cases messages.getLast? with
  | none => simp
  | some m => simp [occursIn_iff]

theorem announcesEnd_reply :
    s.AnnouncesEnd (.reply r) ↔
      s.announces = true ∧ r.isComplete = true ∧ saysTransition r.messages = false := by
  rw [← Bool.not_eq_true, saysTransition_iff]
  constructor
  · rintro ⟨hs, hc, hm⟩
    exact ⟨hs, hc, fun ⟨m, hl, ho⟩ => hm m hl ho⟩
  · rintro ⟨hs, hc, hm⟩
    exact .reply hs hc fun m hl ho => hm ⟨m, hl, ho⟩

/-- The messages of a turn that goes on are those of the reply, with the announcement if there is
to be one. -/
theorem onwardTurn_messages (s : Service) (state : State) (r : Reply) :
    (¬s.AnnouncesEnd (.reply r) → (s.onwardTurn state r).messages = r.messages) ∧
      (s.AnnouncesEnd (.reply r) →
        (s.onwardTurn state r).messages = r.messages ++ [.transition]) := by
  rw [announcesEnd_reply]
  unfold onwardTurn withTransition Message.transition
  cases s.announces <;> cases r.isComplete <;> cases saysTransition r.messages <;> simp

/-- One message more than the engine has is the most that a turn says. -/
theorem length_onwardTurn_le (s : Service) (state : State) (r : Reply) :
    (s.onwardTurn state r).messages.length ≤ r.messages.length + 1 := by
  obtain ⟨hplain, hannounced⟩ := s.onwardTurn_messages state r
  by_cases ha : s.AnnouncesEnd (.reply r)
  · simp [hannounced ha]
  · simp [hplain ha]

/-- The turn that starts a flow follows the opening. -/
theorem startTurn_follows {x : Opening} (hx : e.begin.outcome = .ok x) :
    (startTurn x).Follows s e.maxSteps ⟨x.stepId, x.isComplete, .empty⟩ (.opening x)
      (Conversation.afterOpening x) where
  stores := rfl
  cursor := rfl
  ended := rfl
  plain _ := rfl
  announced h := by cases h
  length := Nat.le_succ_of_le (Engine.length_messages_of_begin hx)

/-- The turn that a reply gives follows the reply. -/
theorem replyTurn_follows (hr : (e.process state.cursor message).outcome = .ok r) :
    (s.replyTurn state r).Follows s e.maxSteps
      ⟨r.nextStepId, r.isComplete, state.data.merge r.captured⟩ (.reply r)
      (Conversation.afterReply (.cursor state.cursor) r) := by
  have hlength := Engine.length_messages_of_process hr
  unfold replyTurn
  split_ifs with ha
  · obtain ⟨hc, hcaptured⟩ := Engine.isComplete_of_isReprompt hr ha
    refine ⟨?_, rfl, rfl, fun _ => rfl, fun h => ?_, Nat.le_succ_of_le hlength⟩
    · rw [hc, hcaptured, Assoc.merge_empty]
      rfl
    · obtain ⟨-, hc', -⟩ := announcesEnd_reply.1 h
      cases hc.symm.trans hc'
  · obtain ⟨hplain, hannounced⟩ := s.onwardTurn_messages state r
    exact ⟨rfl, rfl, rfl, hplain, hannounced,
      (s.length_onwardTurn_le state r).trans (Nat.succ_le_succ hlength)⟩

/-- An answer before the end of the flow is handled by the engine. -/
theorem answered_eq_proceed (hb : Engine.build f s.maxSteps = .ok e)
    (hc : state.isComplete = false) : s.answered f state message = s.proceed e state message := by
  unfold answered
  rw [hc]
  show s.run f (some state) message none = s.proceed e state message
  rcases s.run_without_trigger f state message with ⟨failure, action, hb', -⟩ | ⟨e', hb', hrun⟩
  · cases hb.symm.trans hb'
  · cases hb.symm.trans hb'
    exact hrun

/-- The first call of a conversation starts the flow: it has the trigger, or nothing is stored and
there is no more than one message yet. -/
def Starts (s : Service) (c : Chat) (trigger : Option String) : Prop :=
  ∃ held, c.stored.read = .valid held ∧
    (trigger = some s.trigger ∨ held = none ∧ c.messageCount ≤ 1)

/-- A call that starts an enabled flow begins with its engine. -/
theorem handle_of_starts {d : Document} {depth : Nat} {c : Chat}
    (hf : Flow.ofDocument d depth = .ok f) (he : f.enabled = true)
    (hb : Engine.build f s.maxSteps = .ok e) (hs : s.Starts c trigger) :
    s.handle (some d) c.stored message trigger c.messageCount depth = start e := by
  obtain ⟨held, hread, hs⟩ := hs
  have happlies : s.applies held trigger c.messageCount = true := by
    rcases hs with ht | ⟨rfl, hcount⟩
    · exact if_pos ht
    · unfold applies
      split_ifs
      · rfl
      · exact decide_eq_true hcount
  have hcontinued : s.continued held trigger = none := by
    rcases hs with ht | ⟨rfl, -⟩
    · exact if_pos ht
    · exact ite_self none
  rw [handle_of_ok hf]
  rcases s.handleFlow_cases f c.stored message trigger c.messageCount with
    ⟨hd, -⟩ | ⟨-, p, ps, hr, -⟩ | ⟨-, held', hr, ha, -⟩ | ⟨-, held', hr, -, hl⟩
  · cases he.symm.trans hd
  · cases hread.symm.trans hr
  · cases hread.symm.trans hr
    cases happlies.symm.trans ha
  · cases hread.symm.trans hr
    rw [hl]
    rcases s.run_cases f held message trigger with
      ⟨failure, action, hb', -⟩ | ⟨e', hb', -, hrun⟩ | ⟨e', state', -, hs', -⟩
    · cases hb.symm.trans hb'
    · cases hb.symm.trans hb'
      exact hrun
    · cases hcontinued.symm.trans hs'

end Service

/-! ### Conversations up to the end -/

/-- The call with a document, a message and a trigger. -/
def Call.triggered (d : Document) (depth : Nat) (message trigger : Option String) : Call :=
  ⟨some d, false, none, none, message, trigger, false, depth⟩

namespace Conversation

/-- Whether the flow has ended with what the engine gave. -/
def hasEnded (x : Traced (Answered × Cursor)) : Bool :=
  match x.outcome with
  | .ok (a, _) => a.isComplete
  | .error _ => false

/-- The conversation that an engine opens, and goes on with until the flow has ended. -/
def toEnd (e : Engine) (messages : List (Option String)) : List (Traced (Answered × Cursor)) :=
  upTo hasEnded (run e .nowhere (⟨none, .begin⟩ :: messages.map .say))

theorem step_begin_of_ok {e : Engine} {p : Position} {x : Opening}
    (h : e.begin.outcome = .ok x) :
    (step e p ⟨none, .begin⟩).1.outcome = .ok (.opening x, afterOpening x) ∧
      (step e p ⟨none, .begin⟩).2 = .cursor (afterOpening x) := by
  have ho : (answerAt e p .begin).outcome = .ok (.opening x, afterOpening x) :=
    Traced.bind_outcome_eq_ok.2 ⟨x, h, rfl⟩
  unfold step
  simp [ho]

theorem begin_of_step {e : Engine} {p : Position} {y : Answered × Cursor}
    (h : (step e p ⟨none, .begin⟩).1.outcome = .ok y) : ∃ x, e.begin.outcome = .ok x := by
  cases hb : e.begin.outcome with
  | ok x => exact ⟨x, rfl⟩
  | error failure =>
    have ho : (answerAt e p .begin).outcome = .error failure :=
      Traced.bind_outcome_eq_error.2 (.inl hb)
    unfold step at h
    simp [ho] at h

theorem step_say_of_ok {e : Engine} {c : Cursor} {message : Option String} {r : Reply}
    (h : (e.process c message).outcome = .ok r) :
    (step e (.cursor c) (.say message)).1.outcome = .ok (.reply r, afterReply (.cursor c) r) ∧
      (step e (.cursor c) (.say message)).2 = .cursor (afterReply (.cursor c) r) := by
  have ho : (answerAt e (.cursor c) (.answer message)).outcome =
      .ok (.reply r, afterReply (.cursor c) r) := answerAt_eq_ok.2 ⟨r, h, rfl⟩
  rw [step_say]
  simp [ho]

end Conversation

namespace Chat

open Conversation (afterOpening afterReply)

variable {s : Service} {e : Engine} {f : Flow} {d : Document} {depth : Nat} {c : Chat}
  {state : State} {trigger : Option String}

/-- Whether the flow has ended in the state that is stored after a call. -/
def hasEnded (x : Handling × Chat) : Bool :=
  match x.2.stored with
  | .state state => state.isComplete
  | .nothing | .json _ => false

/-- The conversation of a chat with a document, from the call that starts its flow until the flow
has ended. -/
def toEnd (s : Service) (c : Chat) (d : Document) (depth : Nat) (first trigger : Option String)
    (messages : List (Option String)) : List (Handling × Chat) :=
  upTo hasEnded (run s c (.triggered d depth first trigger :: messages.map (.plain d depth)))

/-- The turn of a call, and the state that is stored after it, follow what the engine gives. -/
def Follows (s : Service) (bound : Nat) (x : Handling × Chat)
    (y : Traced (Answered × Cursor)) : Prop :=
  ∃ turn state a held, x.1.outcome = .ok turn ∧ x.2.stored = .state state ∧
    y.outcome = .ok (a, held) ∧ turn.Follows s bound state a held

/-- A conversation with the service ends together with the one that it follows. -/
theorem Follows.hasEnded_eq {bound : Nat} {x : Handling × Chat} {y : Traced (Answered × Cursor)}
    (h : Follows s bound x y) : hasEnded x = Conversation.hasEnded y := by
  obtain ⟨turn, state, a, held, -, hstored, hy, ht⟩ := h
  unfold hasEnded Conversation.hasEnded
  rw [hstored, hy]
  exact ht.ended

section Step

variable (hf : Flow.ofDocument d depth = .ok f) (he : f.enabled = true)
  (hb : Engine.build f s.maxSteps = .ok e)

include hf he hb

/-- The call that starts the flow follows the opening. -/
theorem step_triggered (hs : s.Starts c trigger) {x : Opening} (hx : e.begin.outcome = .ok x)
    (first : Option String) (p : Position) :
    (step s c (.triggered d depth first trigger)).2.stored =
        .state ⟨x.stepId, x.isComplete, .empty⟩ ∧
      Follows s e.maxSteps (step s c (.triggered d depth first trigger))
        (Conversation.step e p ⟨none, .begin⟩).1 := by
  have houtcome : (handling s c.stored c.messageCount (.triggered d depth first trigger)).outcome =
      .ok (Service.startTurn x) := by
    show (s.handle (some d) c.stored first trigger c.messageCount depth).outcome = _
    rw [Service.handle_of_starts hf he hb hs]
    exact Service.start_eq_ok.2 (.inl ⟨x, hx, rfl⟩)
  have hstored : (step s c (.triggered d depth first trigger)).2.stored =
      .state ⟨x.stepId, x.isComplete, .empty⟩ := by
    show storedAfter c.stored (handling s c.stored c.messageCount _).outcome = _
    rw [houtcome]
    rfl
  exact ⟨hstored, _, _, _, _, houtcome, hstored, (Conversation.step_begin_of_ok hx).1,
    Service.startTurn_follows hx⟩

/-- A call with an answer before the end of the flow follows the reply. -/
theorem step_plain_of_ok (hc : c.stored = .state state) (hgo : state.isComplete = false)
    {message : Option String} {r : Reply}
    (hr : (e.process state.cursor message).outcome = .ok r) :
    (step s c (.plain d depth message)).2.stored =
        .state ⟨r.nextStepId, r.isComplete, state.data.merge r.captured⟩ ∧
      Follows s e.maxSteps (step s c (.plain d depth message))
        (Conversation.step e (.cursor state.cursor) (.say message)).1 := by
  obtain ⟨houtcome, -, hstored⟩ := step_plain (s := s) hf he hc message
  have hturn := Service.replyTurn_follows (s := s) hr
  have hanswered : (s.answered f state message).outcome = .ok (s.replyTurn state r) := by
    rw [Service.answered_eq_proceed hb hgo]
    exact Service.proceed_eq_ok.2 (.inl ⟨r, hr, rfl⟩)
  rw [hanswered] at houtcome hstored
  dsimp only [storedAfter] at hstored
  rw [hturn.stores] at hstored
  exact ⟨hstored, _, _, _, _, houtcome, hstored, (Conversation.step_say_of_ok hr).1, hturn⟩

/-- From a stored state in which the flow has not ended, a conversation with the service follows
the one with the engine that holds the cursor of the state. -/
theorem upTo_run_follows (hc : c.stored = .state state) (hgo : state.isComplete = false)
    (messages : List (Option String))
    (hok : ∀ y ∈ upTo Conversation.hasEnded
      (Conversation.run e (.cursor state.cursor) (messages.map .say)), ∃ z, y.outcome = .ok z) :
    List.Forall₂ (Follows s e.maxSteps) (upTo hasEnded (run s c (messages.map (.plain d depth))))
      (upTo Conversation.hasEnded
        (Conversation.run e (.cursor state.cursor) (messages.map .say))) := by
  -- by induction on the messages: both sides stop together, or go on from the same cursor
  induction messages generalizing c state with
  | nil => exact .nil
  | cons message messages ih =>
    rw [List.map_cons, Conversation.run_cons, forall_mem_upTo_cons] at hok
    obtain ⟨⟨z, hz⟩, hrest⟩ := hok
    have hreply : ∃ r, (e.process state.cursor message).outcome = .ok r := by
      rw [Conversation.step_say] at hz
      obtain ⟨r, hr, -⟩ := Conversation.answerAt_eq_ok.1 hz
      exact ⟨r, hr⟩
    obtain ⟨r, hr⟩ := hreply
    obtain ⟨hstored, hfollows⟩ := step_plain_of_ok hf he hb hc hgo hr
    rw [List.map_cons, List.map_cons, run_cons, Conversation.run_cons]
    refine forall₂_upTo_cons hfollows hfollows.hasEnded_eq fun hended => ?_
    rw [(Conversation.step_say_of_ok hr).2] at hrest ⊢
    have hgo' : r.isComplete = false := by
      unfold hasEnded at hended
      rwa [hstored] at hended
    exact ih hstored hgo' (hrest (hfollows.hasEnded_eq.symm.trans hended))

/-- **The service follows the engine.** Let an engine open a conversation with an enabled flow and
go on with it until the flow has ended, and let none of its calls fail. Let the service start the
flow, and then go on with the same messages and without the trigger until the flow has ended. Then
there are as many turns as calls of the engine. Each turn stores the cursor that the engine's caller
holds, and whether the flow has ended. It says what the engine says, with one more message only
where the end of the flow is announced, and so never more than one message over the bound. -/
theorem toEnd_follows (hs : s.Starts c trigger) (first : Option String)
    (messages : List (Option String))
    (hok : ∀ y ∈ Conversation.toEnd e messages, ∃ z, y.outcome = .ok z) :
    List.Forall₂ (Follows s e.maxSteps) (toEnd s c d depth first trigger messages)
      (Conversation.toEnd e messages) := by
  unfold Conversation.toEnd at hok ⊢
  rw [Conversation.run_cons, forall_mem_upTo_cons] at hok
  obtain ⟨⟨z, hz⟩, hrest⟩ := hok
  obtain ⟨x, hx⟩ := Conversation.begin_of_step hz
  obtain ⟨hstored, hfollows⟩ := step_triggered hf he hb hs hx first .nowhere
  rw [toEnd, run_cons, Conversation.run_cons]
  refine forall₂_upTo_cons hfollows hfollows.hasEnded_eq fun hended => ?_
  rw [(Conversation.step_begin_of_ok hx).2] at hrest ⊢
  have hgo : x.isComplete = false := by
    unfold hasEnded at hended
    rwa [hstored] at hended
  exact upTo_run_follows hf he hb hstored hgo messages
    (hrest (hfollows.hasEnded_eq.symm.trans hended))

end Step

/-- The theorem for a conversation that asks again once, and ends with an announcement. -/
theorem toEnd_follows_helpdesk :
    let s := Service.make none none none
    let d : Document := .flow (.helpdesk "bye")
    let depth := Json.usualDepth
    let e : Engine := ⟨.helpdesk "bye", 20, rfl, by decide⟩
    let messages : List (Option String) := ["yes", "no address", "a@b.co", "thanks"]
    Flow.ofDocument d depth = .ok (.helpdesk "bye") ∧ (Flow.helpdesk "bye").enabled = true ∧
    Engine.build (.helpdesk "bye") s.maxSteps = .ok e ∧ s.Starts (initial .nothing) none ∧
    (∀ y ∈ Conversation.toEnd e messages, ∃ z, y.outcome = .ok z) ∧
    (Conversation.toEnd e messages).length = 4 ∧
    List.Forall₂ (Follows s e.maxSteps) (toEnd s (initial .nothing) d depth "hi" none messages)
      (Conversation.toEnd e messages) := by
  intro s d depth e messages
  have hs : s.Starts (initial .nothing) none := ⟨none, rfl, .inr ⟨rfl, by decide⟩⟩
  have hall : ∀ y ∈ Conversation.toEnd e messages, y.outcome.toBool = true := by decide +kernel
  have hok : ∀ y ∈ Conversation.toEnd e messages, ∃ z, y.outcome = .ok z := by
    intro y hy
    have hy := hall y hy
    cases ho : y.outcome with
    | ok z => exact ⟨z, rfl⟩
    | error failure => simp [ho, Except.toBool] at hy
  exact ⟨rfl, rfl, rfl, hs, hok, by decide +kernel, toEnd_follows rfl rfl rfl hs "hi" messages hok⟩

end Chat

end Dialogue
