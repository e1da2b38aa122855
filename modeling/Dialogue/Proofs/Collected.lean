import Dialogue.Proofs.Rest
import Mathlib.Data.List.DropRight
import Mathlib.Data.List.Forall2

/-!
# What becomes of captured answers

* `collected`: the answers that are captured by turns, one after the other, since the flow was
  started last;
* `Turn.Treats`: what a turn does with the answers that are stored;
* `Turn.Captures`: what a turn captures of its message;
* `Chat.handling_treats`: every turn of a call treats the stored answers so;
* `Chat.step_data`: hence a call keeps what is stored equal to what is collected;
* `Chat.run_data`: and so does a run of calls, whichever flows they are with.
-/

namespace Dialogue

open Text

/-! ### Collecting -/

/-- Whether a turn has started a flow. -/
def Turn.restarts (t : Turn) : Bool := decide (t.action = some "start") && t.state.isSome

/-- Whether a turn goes on with a flow. -/
def Turn.continues (t : Turn) : Bool := decide (t.action = some "continue")

/-- What is collected by turns: what those that go on capture, each overwriting what was captured
before it, since the last one that has started a flow. If none has, `data` is there before. -/
def collected (data : Assoc String String) (turns : List Turn) : Assoc String String :=
  ((turns.rtakeWhile fun t => !t.restarts).filter Turn.continues).foldl
    (fun d t => d.merge t.captured) (if turns.any Turn.restarts then .empty else data)

theorem collected_concat (data : Assoc String String) (turns : List Turn) (t : Turn) :
    collected data (turns ++ [t]) =
      if t.restarts then .empty
      else if t.continues then (collected data turns).merge t.captured
      else collected data turns := by
  unfold collected
  rw [List.rtakeWhile_concat, List.any_append]
  cases hr : t.restarts with
  | true => simp [hr]
  | false =>
    cases hc : t.continues with
    | true => simp [hr, hc, List.filter_append]
    | false => simp [hr, hc, List.filter_append]

@[simp] theorem Assoc.merge_empty {κ α : Type} [DecidableEq κ] (t : Assoc κ α) :
    t.merge .empty = t := rfl

/-! ### Turns -/

/-- Whether it is counted that the user was asked again. -/
def Counter.isReprompt : Counter → Bool
  | .reprompt _ => true
  | .turn _ _ | .error _ | .captured _ => false

/-- What may be captured of a message: nothing, or the message without outer blanks, under one
key. -/
def IsCapture (message : Option String) (captured : Assoc String String) : Prop :=
  captured = .empty ∨ ∃ key, captured = .ofList [(key, stripString (message.getD ""))]

/-- What a turn does with the stored answers `data`: it leaves them, starts without any, asks again
and keeps them, or goes on and overwrites them by what it captures. -/
inductive Turn.Treats (turn : Turn) (data : Assoc String String) (message : Option String)
    (again : Bool) : Prop
  | leaves (hs : turn.state = none) (hc : turn.captured = .empty)
  | starts {state : State} (ha : turn.action = some "start") (hs : turn.state = some state)
      (hd : state.data = .empty) (hc : turn.captured = .empty)
  | asks {state : State} (ha : turn.action = some "continue") (hs : turn.state = some state)
      (hd : state.data = data) (hc : turn.captured = .empty)
  | advances {state : State} (ha : turn.action = some "continue") (he : turn.error = none)
      (hr : again = false) (hs : turn.state = some state)
      (hd : state.data = data.merge turn.captured) (hc : IsCapture message turn.captured)

/-- What a turn captures: something only if it goes on with the flow, without an error and without
asking again. -/
structure Turn.Captures (turn : Turn) (message : Option String) (again : Bool) : Prop where
  entry : IsCapture message turn.captured
  action : turn.action ≠ some "continue" → turn.captured = .empty
  error : turn.error ≠ none → turn.captured = .empty
  reprompt : again = true → turn.captured = .empty

namespace Turn.Treats

variable {turn : Turn} {data : Assoc String String} {message : Option String} {again : Bool}

theorem captures (h : turn.Treats data message again) : turn.Captures message again := by
  cases h with
  | leaves _ hc | starts _ _ _ hc | asks _ _ _ hc =>
    exact ⟨.inl hc, fun _ => hc, fun _ => hc, fun _ => hc⟩
  | advances ha he hr _ _ hc =>
    exact ⟨hc, fun h => absurd ha h, fun h => absurd he h, fun h => by simp [hr] at h⟩

/-- The state that a turn stores has what is collected with the turn. -/
theorem collected_concat {before : Assoc String String} {turns : List Turn}
    (h : turn.Treats (collected before turns) message again) :
    collected before (turns ++ [turn]) =
      (turn.state.map State.data).getD (collected before turns) := by
  rw [Dialogue.collected_concat]
  cases h with
  | leaves hs hc => simp [Turn.restarts, hs, hc]
  | starts ha hs hd => simp [Turn.restarts, ha, hs, hd]
  | asks ha hs hd hc => simp [Turn.restarts, Turn.continues, ha, hs, hd, hc]
  | advances ha _ _ hs hd => simp [Turn.restarts, Turn.continues, ha, hs, hd]

end Turn.Treats

theorem Slot.isCapture {slot : Slot} {answer : Option String} {captured : Assoc String String}
    (h : slot.capture? (answer.getD "") = some captured) : IsCapture answer captured := by
  cases slot with
  | nothing => exact .inl (Option.some.inj h).symm
  | name key => exact .inr ⟨key, (Option.some.inj h).symm⟩
  | scalar | compound => cases h

/-- A reply has nothing captured, or the answer under one key. -/
theorem Engine.isCapture_of_process {e : Engine} {c : Cursor} {answer : Option String} {r : Reply}
    (h : (e.process c answer).outcome = .ok r) : IsCapture answer r.captured := by
  obtain ⟨id, n, -, -, hr⟩ := process_eq_ok.1 h
  rcases reply_eq_ok.1 hr with ⟨reason, text, options, -, rfl⟩ | ⟨target, captured, -, -, hs, rfl⟩
  · exact .inl rfl
  · exact Slot.isCapture hs

namespace Service

variable {s : Service} {f : Flow} {held : Option State} {message trigger : Option String}
  {turn : Turn}

theorem errorTurn_treats (action : Option String) (kind : String) (data : Assoc String String)
    (again : Bool) : (errorTurn action kind).Treats data message again := .leaves rfl rfl

theorem unhandled_treats (data : Assoc String String) (again : Bool) :
    Turn.unhandled.Treats data message again := .leaves rfl rfl

/-- The user is asked again exactly if it is counted. -/
theorem any_isReprompt_replied (s : Service) (state : State) (r : Reply) (events : List Event) :
    (s.replied state r events).counters.any Counter.isReprompt = r.isReprompt := by
  unfold replied Reply.isReprompt
  cases r.reason <;> simp [Counter.isReprompt]

/-- What a reply captures is stored, unless it asks again. -/
theorem replyTurn_treats (s : Service) (state : State) {r : Reply}
    (hr : IsCapture message r.captured) :
    (s.replyTurn state r).Treats state.data message r.isReprompt := by
  unfold replyTurn
  cases hre : r.isReprompt with
  | true => exact .asks rfl rfl rfl rfl
  | false => exact .advances rfl rfl rfl rfl rfl hr

/-- A turn that belongs to a flow treats the answers of the state that it was given. -/
theorem run_treats (ht : (s.run f held message trigger).outcome = .ok turn) :
    turn.Treats ((held.map State.data).getD .empty) message
      ((s.run f held message trigger).counters.any Counter.isReprompt) := by
  rcases s.run_cases f held message trigger with
    ⟨failure, action, -, hrun⟩ | ⟨e, -, -, hrun⟩ | ⟨e, state, -, hst, hrun⟩
  · rw [hrun] at ht
    obtain ⟨kind, -, rfl⟩ := failed_eq_ok.1 ht
    exact errorTurn_treats _ _ _ _
  · rw [hrun] at ht
    rcases start_eq_ok.1 ht with ⟨x, -, rfl⟩ | ⟨_, _, -, -, rfl⟩
    · exact .starts rfl rfl rfl rfl
    · exact errorTurn_treats _ _ _ _
  · rw [hrun] at ht ⊢
    rw [held_of_continued hst]
    unfold proceed at ht ⊢
    cases hp : (e.process state.cursor message).outcome with
    | ok r =>
      simp only [hp, replied_outcome, any_isReprompt_replied] at ht ⊢
      cases ht
      exact s.replyTurn_treats state (Engine.isCapture_of_process hp)
    | error failure =>
      simp only [hp] at ht
      obtain ⟨kind, -, rfl⟩ := failed_eq_ok.1 ht
      exact errorTurn_treats _ _ _ _

end Service

/-! ### Calls -/

/-- The answers that are stored, if a state is. -/
def Stored.data (stored : Stored) : Assoc String String :=
  match stored.read with
  | .valid (some x) => x.data
  | _ => .empty

@[simp] theorem Stored.data_state (x : State) : (Stored.state x).data = x.data := rfl

theorem Stored.data_of_read {stored : Stored} {held : Option State}
    (h : stored.read = .valid held) : stored.data = (held.map State.data).getD .empty := by
  unfold data
  rw [h]
  cases held <;> rfl

namespace Service

variable {s : Service} {f : Flow} {stored : Stored} {message trigger : Option String}
  {count : Int} {turn : Turn}

theorem leftAlone_treats {reason : String} {data : Assoc String String} {again : Bool}
    (h : (leftAlone reason).outcome = .ok turn) : turn.Treats data message again := by
  cases leftAlone_eq_ok.1 h
  exact unhandled_treats _ _

theorem handleFlow_treats
    (h : (s.handleFlow f stored message trigger count).outcome = .ok turn) :
    turn.Treats stored.data message
      ((s.handleFlow f stored message trigger count).counters.any Counter.isReprompt) := by
  rcases s.handleFlow_cases f stored message trigger count with
    ⟨-, hl⟩ | ⟨-, p, ps, -, ho, -⟩ | ⟨-, held, -, -, hl⟩ | ⟨-, held, hr, -, hl⟩
  · rw [hl] at h
    exact leftAlone_treats h
  · cases ho.symm.trans h
    exact errorTurn_treats _ _ _ _
  · rw [hl] at h
    exact leftAlone_treats h
  · rw [hl] at h ⊢
    rw [Stored.data_of_read hr]
    exact run_treats h

theorem handle_treats {document : Option Document} {depth : Nat}
    (h : (s.handle document stored message trigger count depth).outcome = .ok turn) :
    turn.Treats stored.data message
      ((s.handle document stored message trigger count depth).counters.any
        Counter.isReprompt) := by
  rcases s.handle_cases document stored message trigger count depth with
    ⟨-, hh⟩ | ⟨d, fault, -, -, hh⟩ | ⟨d, f, -, -, hh⟩
  · rw [hh] at h
    cases h
    exact unhandled_treats _ _
  · rw [hh] at h
    obtain ⟨-, rfl⟩ := unusable_eq_ok.1 h
    exact errorTurn_treats _ _ _ _
  · rw [hh] at h ⊢
    exact handleFlow_treats h

end Service

namespace Chat

variable {s : Service} {c : Chat} {call : Call} {turn : Turn}

/-- Every turn of a call treats the stored answers. -/
theorem handling_treats {stored : Stored} {count : Int}
    (h : (handling s stored count call).outcome = .ok turn) :
    turn.Treats stored.data call.message
      ((handling s stored count call).counters.any Counter.isReprompt) := by
  rcases handling_eq_handle s stored count call with ⟨document, -, hh⟩ | ⟨failure, hh⟩
  · rw [hh] at h ⊢
    exact Service.handle_treats h
  · rw [hh] at h
    cases h

/-! ### Runs -/

/-- The turns of a run; a call that fails has none. -/
def turns (xs : List (Handling × Chat)) : List Turn := xs.filterMap fun x => x.1.outcome.toOption

/-- What is stored after a turn has the answers of its state, or those stored before. -/
theorem data_storedAfter {stored : Stored} {outcome : Except Failure Turn} :
    (storedAfter stored outcome).data =
      match outcome with
      | .ok turn => (turn.state.map State.data).getD stored.data
      | .error _ => stored.data := by
  cases outcome with
  | error failure => rfl
  | ok turn => cases hs : turn.state <;> simp [storedAfter, hs]

/-- The step: a call that leaves the stored state to the chat keeps what is stored equal to what is
collected. -/
theorem step_data (hcall : call.stored = none) {data : Assoc String String} {past : List Turn}
    (hc : c.stored.data = collected data past) :
    (step s c call).2.stored.data = collected data (past ++ turns [step s c call]) := by
  have hstored : call.stored.getD c.stored = c.stored := by rw [hcall, Option.getD_none]
  dsimp only [step, turns]
  rw [hstored, data_storedAfter]
  cases ho : (handling s c.stored (call.messageCount.getD c.messageCount) call).outcome with
  | error failure => simpa [ho, Except.toOption] using hc
  | ok turn =>
    have ht := handling_treats ho
    rw [hc] at ht
    simp [Except.toOption, ht.collected_concat, hc]

@[simp] theorem turns_cons (x : Handling × Chat) (xs : List (Handling × Chat)) :
    turns (x :: xs) = turns [x] ++ turns xs := by
  rw [turns, turns, turns, ← List.filterMap_append, List.singleton_append]

/-- The run: if what is stored is what the turns so far have collected, it stays so. -/
theorem run_data_from {calls : List Call} (hcalls : ∀ call ∈ calls, call.stored = none)
    {data : Assoc String String} {past : List Turn} (hc : c.stored.data = collected data past)
    {before after : List (Handling × Chat)} {x : Handling × Chat}
    (h : run s c calls = before ++ x :: after) :
    x.2.stored.data = collected data (past ++ turns (before ++ [x])) := by
  -- by induction on the calls, where the turn of the first call joins those that are past
  induction calls generalizing c past before with
  | nil => simp [run] at h
  | cons call rest ih =>
    obtain ⟨hcall, hrest⟩ := List.forall_mem_cons.1 hcalls
    have hstep := step_data (s := s) hcall hc
    cases before with
    | nil =>
      obtain ⟨rfl, -⟩ := List.cons.inj h
      exact hstep
    | cons y before =>
      obtain ⟨rfl, hafter⟩ := List.cons.inj h
      rw [List.cons_append, turns_cons, ← List.append_assoc]
      exact ih hrest hstep hafter

theorem step_captures (h : (step s c call).1.outcome = .ok turn) :
    turn.Captures call.message ((step s c call).1.counters.any Counter.isReprompt) :=
  (handling_treats h).captures

/-- **Captured answers are neither lost nor invented.** In a chat that starts with anything stored,
what is stored after each call, whichever flow it is with, has the answers that the turns up to it
have collected. Each turn captures at most its message, without outer blanks and under one key, and
it captures nothing if it starts a flow, asks again, is left to others or ends with an error. -/
theorem run_data (stored : Stored) (calls : List Call)
    (hcalls : ∀ call ∈ calls, call.stored = none) :
    (∀ before x after, run s (.initial stored) calls = before ++ x :: after →
      x.2.stored.data = collected stored.data (turns (before ++ [x]))) ∧
    List.Forall₂ (fun call x => ∀ turn, x.1.outcome = .ok turn →
        turn.Captures call.message (x.1.counters.any Counter.isReprompt))
      calls (run s (.initial stored) calls) := by
  constructor
  · intro before x after h
    have hnone : (initial stored).stored.data = collected stored.data [] := rfl
    exact run_data_from hcalls hnone h
  · generalize initial stored = c
    clear hcalls
    induction calls generalizing c with
    | nil => exact .nil
    | cons call rest ih => exact .cons (fun turn => step_captures) (ih _)

/-- The theorem for a chat in which an answer is asked for again, and another one is kept. -/
theorem run_data_helpdesk :
    let calls := [Call.say (.helpdesk "bye") "hi" none, .say (.helpdesk "bye") "yes" none,
      .say (.helpdesk "bye") "no address" none, .say (.helpdesk "bye") " a@b.co " none]
    (∀ call ∈ calls, call.stored = none) ∧
    ((∀ before x after,
        run (.make none none none) (.initial .nothing) calls = before ++ x :: after →
          x.2.stored.data = collected .empty (turns (before ++ [x]))) ∧
    List.Forall₂ (fun call x => ∀ turn, x.1.outcome = .ok turn →
        turn.Captures call.message (x.1.counters.any Counter.isReprompt))
      calls (run (.make none none none) (.initial .nothing) calls)) ∧
    collected .empty (turns (run (.make none none none) (.initial .nothing) calls)) =
      .ofList [("email", "a@b.co")] := by
  intro calls
  have hcalls : ∀ call ∈ calls, call.stored = none := by simp [calls, Call.say]
  exact ⟨hcalls, run_data .nothing calls hcalls, by decide +kernel⟩

end Chat

end Dialogue
