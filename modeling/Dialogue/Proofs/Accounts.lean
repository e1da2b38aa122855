import Dialogue.Proofs.Lifecycle
import Mathlib.Algebra.GroupWithZero.Nat
import Mathlib.Data.List.Count

/-!
# What is counted

The service counts as it handles a turn, and returns the turn afterwards. The counts can be told
from the turns.

* `Tally.total`: the sum of the counts with a property;
* `Tally.count_raise`, `Tally.total_raise`: what raising counters adds to them;
* `Turn.asksAgain`: whether a turn asks again, told from its messages;
* `Turn.counters`, `Turn.IsCounted`: the counters that go with a turn;
* `Service.exempts`: the turns that are not counted themselves;
* `Handling.Accounted`: a turn goes with its counters, and a failure with none;
* `Service.handle_accounted`: so it is with every turn;
* `Chat.Accounts`: the counts of a chat have grown by what its turns show;
* `Chat.history_accounts`: they have, after any list of calls.
-/

namespace Dialogue

/-! ### Raising counters -/

namespace Tally

/-- The sum of the counts of all counters with a property. -/
def total (t : Tally) (p : Counter → Bool) : Nat :=
  ((t.toList.filter fun e => p e.1).map Prod.snd).sum

theorem raise_cons (t : Tally) (c : Counter) (cs : List Counter) :
    raise t (c :: cs) = raise (t.insert c (t.count c + 1)) cs := rfl

/-- A counter has been raised as often as it is in the list. -/
theorem count_raise (t : Tally) (cs : List Counter) (c : Counter) :
    count (raise t cs) c = t.count c + cs.count c := by
  induction cs generalizing t with
  | nil => rfl
  | cons d cs ih =>
    have hinsert : count (t.insert d (t.count d + 1)) c =
        if c = d then t.count d + 1 else t.count c := by
      unfold count
      rw [Assoc.get?_insert]
      split_ifs <;> rfl
    rw [raise_cons, ih, hinsert, List.count_cons]
    by_cases h : c = d
    · subst h
      simp only [if_true, beq_self_eq_true]
      omega
    · have hd : (d == c) = false := by simpa using Ne.symm h
      simp [h, hd]

theorem sum_putEntry (p : Counter → Bool) (c : Counter) (l : List (Counter × Nat)) :
    (((putEntry c ((l.lookup c).getD 0 + 1) l).filter fun e => p e.1).map Prod.snd).sum =
      ((l.filter fun e => p e.1).map Prod.snd).sum + if p c then 1 else 0 := by
  -- by induction on the entries, down to that of the counter
  induction l with
  | nil => cases hp : p c <;> simp [putEntry, hp]
  | cons e r ih =>
    obtain ⟨d, n⟩ := e
    by_cases h : d = c
    · subst h
      simp only [putEntry, lookup_cons_eq, if_true, Option.getD_some]
      cases hp : p d with
      | true =>
        simp only [List.filter_cons, hp, if_true, List.map_cons, List.sum_cons]
        omega
      | false => simp [hp]
    · have hc : c ≠ d := Ne.symm h
      simp only [putEntry, lookup_cons_eq, h, hc, if_false]
      cases hp : p d with
      | true =>
        simp only [List.filter_cons, hp, if_true, List.map_cons, List.sum_cons, ih]
        omega
      | false => simpa [hp] using ih

/-- Raising counters adds one for each that has the property. -/
theorem total_raise (t : Tally) (cs : List Counter) (p : Counter → Bool) :
    total (raise t cs) p = t.total p + cs.countP p := by
  induction cs generalizing t with
  | nil => rfl
  | cons c cs ih =>
    have hinsert : total (t.insert c (t.count c + 1)) p = t.total p + if p c then 1 else 0 :=
      sum_putEntry p c t.toList
    rw [raise_cons, ih, hinsert, List.countP_cons]
    omega

end Tally

/-! ### The counters of a turn -/

/-- Whether it is counted that there was a turn. -/
def Counter.isTurn : Counter → Bool
  | .turn _ _ => true
  | .reprompt _ | .error _ | .captured _ => false

namespace Turn

variable {turn : Turn} {reason : Option RepromptReason} {outcome : Option String} {counted : Bool}
  {cs : List Counter}

/-- Whether a turn asks again: it has a message that comes from no node. -/
def asksAgain (turn : Turn) : Bool := turn.messages.any fun m => m.kind.isNone

/-- The counters of a turn: that of its error, those of the keys that it captures, that of the
`reason` for which it asks again, and that of the turn itself with its `outcome`. -/
def counters (turn : Turn) (reason : Option RepromptReason) (outcome : Option String) :
    List Counter :=
  (turn.error.map Counter.error).toList ++ turn.captured.keys.map Counter.captured
    ++ (reason.map Counter.reprompt).toList
    ++ (outcome.map (Counter.turn (turn.action.getD "none"))).toList

/-- What is counted of the parts of the counters is counted of all of them. -/
theorem countP_counters (p : Counter → Bool) :
    (turn.counters reason outcome).countP p =
      (turn.error.map Counter.error).toList.countP p
        + (turn.captured.keys.map Counter.captured).countP p
        + (reason.map Counter.reprompt).toList.countP p
        + (outcome.map (Counter.turn (turn.action.getD "none"))).toList.countP p := by
  simp only [counters, List.countP_append]

theorem count_counters (c : Counter) :
    (turn.counters reason outcome).count c =
      (turn.error.map Counter.error).toList.count c
        + (turn.captured.keys.map Counter.captured).count c
        + (reason.map Counter.reprompt).toList.count c
        + (outcome.map (Counter.turn (turn.action.getD "none"))).toList.count c :=
  countP_counters _

theorem count_error_counters (kind : String) :
    (turn.counters reason outcome).count (.error kind) =
      if turn.error = some kind then 1 else 0 := by
  have hkeys : (turn.captured.keys.map Counter.captured).count (.error kind) = 0 :=
    List.count_eq_zero.2 (by simp)
  rw [count_counters, hkeys]
  cases turn.error <;> cases reason <;> cases outcome <;> simp [List.count_singleton]

theorem count_captured_counters (field : String) :
    (turn.counters reason outcome).count (.captured field) =
      if turn.captured.contains field then 1 else 0 := by
  have hinj : Function.Injective Counter.captured := fun _ _ h => Counter.captured.inj h
  have hkeys : (turn.captured.keys.map Counter.captured).count (.captured field) =
      if turn.captured.contains field then 1 else 0 := by
    have hnodup : turn.captured.keys.Nodup := turn.captured.nodup
    rw [List.count_map_of_injective _ _ hinj, hnodup.count]
    exact if_congr Assoc.contains_iff.symm rfl rfl
  rw [count_counters, hkeys]
  cases turn.error <;> cases reason <;> cases outcome <;> simp

theorem count_turn_counters (action result : String) :
    (turn.counters reason outcome).count (.turn action result) =
      if turn.action.getD "none" = action ∧ outcome = some result then 1 else 0 := by
  have hkeys : (turn.captured.keys.map Counter.captured).count (.turn action result) = 0 :=
    List.count_eq_zero.2 (by simp)
  rw [count_counters, hkeys]
  cases turn.error <;> cases reason <;> cases outcome <;> simp [List.count_singleton]

theorem countP_isReprompt_counters :
    (turn.counters reason outcome).countP Counter.isReprompt =
      if reason.isSome then 1 else 0 := by
  have hkeys : (turn.captured.keys.map Counter.captured).countP Counter.isReprompt = 0 :=
    List.countP_eq_zero.2 (by simp [Counter.isReprompt])
  rw [countP_counters, hkeys]
  cases turn.error <;> cases reason <;> cases outcome <;>
    simp [List.countP_singleton, Counter.isReprompt]

theorem countP_isTurn_counters :
    (turn.counters reason outcome).countP Counter.isTurn = if outcome.isSome then 1 else 0 := by
  have hkeys : (turn.captured.keys.map Counter.captured).countP Counter.isTurn = 0 :=
    List.countP_eq_zero.2 (by simp [Counter.isTurn])
  rw [countP_counters, hkeys]
  cases turn.error <;> cases reason <;> cases outcome <;>
    simp [List.countP_singleton, Counter.isTurn]

/-- How a turn is counted: with a reason exactly if it asks again, and then it goes on with the flow
and has the outcome `reprompt`, as no other turn. -/
structure IsCounted (turn : Turn) (reason : Option RepromptReason) (outcome : Option String) :
    Prop where
  reason : reason.isSome = turn.asksAgain
  outcome : outcome = some "reprompt" ↔ turn.asksAgain = true
  action : turn.asksAgain = true → turn.action = some "continue"

end Turn

/-- A turn goes with its counters, and a failure with none. The turn itself is among them if it is
to be `counted`. -/
def Handling.Accounted (h : Handling) (counted : Bool) : Prop :=
  match h.outcome with
  | .ok turn => ∃ reason outcome, turn.IsCounted reason outcome ∧ outcome.isSome = counted ∧
      h.counters = turn.counters reason outcome
  | .error _ => h.counters = []

/-! ### Turns -/

/-- What a walk says comes from nodes. -/
@[simp] theorem Walk.any_isNone_messages (w : Walk) :
    (w.messages.any fun m => m.kind.isNone) = false := by
  simp [messages, Node.message]

/-- A reply asks again exactly if it has a message that comes from no node. -/
theorem Engine.any_isNone_of_process {e : Engine} {c : Cursor} {answer : Option String} {r : Reply}
    (h : (e.process c answer).outcome = .ok r) :
    (r.messages.any fun m => m.kind.isNone) = r.isReprompt := by
  obtain ⟨id, n, -, -, hr⟩ := process_eq_ok.1 h
  rcases reply_eq_ok.1 hr with ⟨reason, text, options, -, rfl⟩ | ⟨target, captured, -, -, -, rfl⟩
  · rfl
  · exact Walk.any_isNone_messages _

namespace Service

variable {s : Service} {e : Engine} {f : Flow} {state : State} {held : Option State}
  {stored : Stored} {message trigger : Option String} {count : Int}

theorem isCounted_errorTurn (action : Option String) (kind : String) {outcome : Option String}
    (h : outcome ≠ some "reprompt") : (errorTurn action kind).IsCounted none outcome :=
  ⟨rfl, by simp [h, errorTurn, Turn.asksAgain], by simp [errorTurn, Turn.asksAgain]⟩

theorem failed_accounted (action : String) (failure : Failure) (events : List Event) :
    (failed action failure events).Accounted true := by
  unfold failed
  split_ifs with hd
  · exact ⟨none, "error", isCounted_errorTurn _ _ (by decide), rfl, rfl⟩
  · cases failure.flowKind? with
    | some kind => exact ⟨none, "error", isCounted_errorTurn _ _ (by decide), rfl, rfl⟩
    | none => rfl

theorem leftAlone_accounted {reason : String} (h : reason ≠ "reprompt") :
    (leftAlone reason).Accounted true :=
  ⟨none, reason, ⟨rfl, by simp [h, Turn.unhandled, Turn.asksAgain], nofun⟩, rfl, rfl⟩

theorem start_accounted (e : Engine) : (start e).Accounted true := by
  dsimp only [start]
  cases hb : e.begin.outcome with
  | error failure => exact failed_accounted _ _ _
  | ok x =>
    obtain ⟨id, -, rfl⟩ := Engine.begin_eq_ok.1 hb
    have hasks : (startTurn (e.openingAt id)).asksAgain = false := Walk.any_isNone_messages _
    refine ⟨none, some (if (e.openingAt id).isComplete then "completed" else "waiting"),
      ⟨hasks.symm, ?_, ?_⟩, rfl, rfl⟩
    · rw [hasks]
      split_ifs <;> decide
    · rw [hasks]
      nofun

/-- The announcement at the end of a flow does not ask again. -/
theorem asksAgain_onwardTurn (s : Service) (state : State) (r : Reply) :
    (s.onwardTurn state r).asksAgain = r.messages.any fun m => m.kind.isNone := by
  unfold onwardTurn withTransition Turn.asksAgain
  split_ifs <;> simp

theorem proceed_accounted (s : Service) (e : Engine) (state : State) (message : Option String) :
    (s.proceed e state message).Accounted true := by
  dsimp only [proceed]
  cases hp : (e.process state.cursor message).outcome with
  | error failure => exact failed_accounted _ _ _
  | ok r =>
    have hr := Engine.any_isNone_of_process hp
    dsimp only [replied]
    unfold Reply.isReprompt at hr
    cases hreason : r.reason with
    | some reason =>
      rw [hreason] at hr
      have hasks : (againTurn state r).asksAgain = true := hr
      exact ⟨some reason, "reprompt", ⟨hasks.symm, by simp [hasks], fun _ => rfl⟩, rfl, rfl⟩
    | none =>
      rw [hreason] at hr
      have hasks : (s.onwardTurn state r).asksAgain = false :=
        (s.asksAgain_onwardTurn state r).trans hr
      refine ⟨none, some (if r.isComplete then "completed" else "advanced"),
        ⟨hasks.symm, ?_, ?_⟩, rfl, ?_⟩
      · rw [hasks]
        split_ifs <;> decide
      · rw [hasks]
        nofun
      · simp [Turn.counters, onwardTurn]

theorem run_accounted (s : Service) (f : Flow) (held : Option State)
    (message trigger : Option String) : (s.run f held message trigger).Accounted true := by
  rcases s.run_cases f held message trigger with
    ⟨failure, action, -, hrun⟩ | ⟨e, -, -, hrun⟩ | ⟨e, state, -, -, hrun⟩
  · rw [hrun]
    exact failed_accounted _ _ _
  · rw [hrun]
    exact start_accounted e
  · rw [hrun]
    exact s.proceed_accounted e state message

/-- The turns that are not counted themselves: those without a document, with a document that is no
flow, and those of an enabled flow for which what is stored cannot be read. -/
def exempts (document : Option Document) (stored : Stored) (depth : Nat) : Bool :=
  match document.map (Flow.ofDocument · depth) with
  | none | some (.error _) => true
  | some (.ok f) => f.enabled && !stored.isReadable

theorem handleFlow_accounted (s : Service) (f : Flow) (stored : Stored)
    (message trigger : Option String) (count : Int) :
    (s.handleFlow f stored message trigger count).Accounted
      (!(f.enabled && !stored.isReadable)) := by
  unfold handleFlow Stored.isReadable
  cases f.enabled with
  | false => exact leftAlone_accounted (by decide)
  | true =>
    cases stored.read with
    | invalid p ps => exact ⟨none, none, isCounted_errorTurn _ _ nofun, rfl, rfl⟩
    | valid held =>
      cases ha : s.applies held trigger count with
      | false =>
        simp only [ha]
        exact leftAlone_accounted (by decide)
      | true =>
        simp only [ha]
        exact s.run_accounted f held message trigger

/-- Every turn goes with its counters. -/
theorem handle_accounted (s : Service) (document : Option Document) (stored : Stored)
    (message trigger : Option String) (count : Int) (depth : Nat) :
    (s.handle document stored message trigger count depth).Accounted
      (!exempts document stored depth) := by
  rcases s.handle_cases document stored message trigger count depth with
    ⟨hd, hh⟩ | ⟨d, fault, hd, hf, hh⟩ | ⟨d, f, rfl, hf, hh⟩
  · have hexempts : exempts document stored depth = true := by
      rcases Document.given?_eq_none.1 hd with rfl | rfl
      · rfl
      · rfl
    rw [hh, hexempts]
    exact ⟨none, none, ⟨rfl, by decide, nofun⟩, rfl, rfl⟩
  · obtain ⟨rfl, -⟩ := Document.given?_eq_some.1 hd
    rw [hh]
    unfold exempts unusable
    simp only [hf, Option.map_some]
    split_ifs
    · exact ⟨none, none, isCounted_errorTurn _ _ nofun, rfl, rfl⟩
    · rfl
  · rw [hh]
    unfold exempts
    simp only [hf, Option.map_some]
    exact s.handleFlow_accounted f stored message trigger count

end Service

/-! ### Calls -/

/-- A document that was prepared for a call reads as that of the call. -/
theorem Call.map_ofDocument_of_prepared {call : Call} {document : Option Document}
    (h : call.prepared = .ok document) :
    document.map (Flow.ofDocument · call.depth) =
      call.document.map (Flow.ofDocument · call.depth) := by
  cases document with
  | none =>
    unfold Call.prepared at h
    split_ifs at h with hparsed
    · cases hf : Flow.ofDocument (call.document.getD (.value .null)) call.depth <;>
        simp [hf] at h
    · rw [Except.ok.inj h]
  | some d =>
    cases hf : Flow.ofDocument d call.depth with
    | ok f =>
      obtain ⟨d', hd', hf'⟩ := Call.document_of_prepared h hf
      simp [hd', hf, hf']
    | error fault =>
      unfold Call.prepared at h
      split_ifs at h with hparsed
      · -- a document that was read beforehand is a flow
        cases hf' : Flow.ofDocument (call.document.getD (.value .null)) call.depth with
        | ok f =>
          simp only [hf', Except.ok.injEq, Option.some.injEq] at h
          subst h
          cases hf
        | error fault' => simp [hf'] at h
      · rw [Except.ok.inj h]

namespace Chat

variable {s : Service} {c : Chat} {call : Call} {calls : List Call}

theorem handling_accounted (s : Service) (stored : Stored) (count : Int) (call : Call) :
    (handling s stored count call).Accounted
      (!Service.exempts call.document stored call.depth) := by
  rcases handling_eq_handle s stored count call with ⟨document, hp, hh⟩ | ⟨failure, hh⟩
  · have hexempts : Service.exempts call.document stored call.depth =
        Service.exempts document stored call.depth := by
      unfold Service.exempts
      rw [Call.map_ofDocument_of_prepared hp]
    rw [hh, hexempts]
    exact s.handle_accounted document stored call.message call.trigger count call.depth
  · rw [hh]
    rfl

/-! ### Chats -/

/-- The number of turns with a property among those that calls return. -/
def returned (xs : List Exchange) (p : Turn → Bool) : Nat :=
  (xs.filterMap fun x => x.handling.outcome.toOption).countP p

/-- What is stored when a call is handled. -/
def Exchange.stored (x : Exchange) : Stored := x.call.stored.getD x.before.stored

/-- Whether a call returns a turn that is counted. -/
def Exchange.isCounted (x : Exchange) : Bool :=
  x.handling.outcome.toOption.isSome && !Service.exempts x.call.document x.stored x.call.depth

/-- The counts of a chat have grown by what the turns show: errors by the turns with an error of the
kind, captured keys by the turns that capture the key, and both counts of asking again by the turns
that ask again. The counts of turns have grown by one for every turn that is counted, and a call
that fails has left all counts as they were. -/
structure Accounts (before after : Tally) (xs : List Exchange) : Prop where
  errors : ∀ kind, after.count (.error kind) =
    before.count (.error kind) + returned xs fun turn => turn.error = some kind
  captured : ∀ field, after.count (.captured field) =
    before.count (.captured field) + returned xs fun turn => turn.captured.contains field
  reprompts : after.total Counter.isReprompt =
    before.total Counter.isReprompt + returned xs Turn.asksAgain
  repromptTurns : after.count (.turn "continue" "reprompt") =
    before.count (.turn "continue" "reprompt") + returned xs Turn.asksAgain
  turns : after.total Counter.isTurn =
    before.total Counter.isTurn + xs.countP Exchange.isCounted
  failures : ∀ x ∈ xs, ∀ failure, x.handling.outcome = .error failure →
    x.after.tally = x.before.tally

theorem returned_append (xs ys : List Exchange) (p : Turn → Bool) :
    returned (xs ++ ys) p = returned xs p + returned ys p := by
  unfold returned
  rw [List.filterMap_append, List.countP_append]

theorem Accounts.refl (t : Tally) : Accounts t t [] :=
  ⟨fun _ => rfl, fun _ => rfl, rfl, rfl, rfl, by simp⟩

/-- Accounts of calls and of those after them are put together. -/
theorem Accounts.trans {t₁ t₂ t₃ : Tally} {xs ys : List Exchange} (h : Accounts t₁ t₂ xs)
    (h' : Accounts t₂ t₃ ys) : Accounts t₁ t₃ (xs ++ ys) where
  errors kind := by rw [h'.errors, h.errors, returned_append, Nat.add_assoc]
  captured field := by rw [h'.captured, h.captured, returned_append, Nat.add_assoc]
  reprompts := by rw [h'.reprompts, h.reprompts, returned_append, Nat.add_assoc]
  repromptTurns := by rw [h'.repromptTurns, h.repromptTurns, returned_append, Nat.add_assoc]
  turns := by rw [h'.turns, h.turns, List.countP_append, Nat.add_assoc]
  failures x hx := (List.mem_append.1 hx).elim (h.failures x) (h'.failures x)

theorem returned_singleton {x : Exchange} {turn : Turn} (h : x.handling.outcome = .ok turn)
    (p : Turn → Bool) : returned [x] p = if p turn then 1 else 0 := by
  simp [returned, h, Except.toOption, List.countP_singleton]

theorem returned_of_failure {x : Exchange} {failure : Failure}
    (h : x.handling.outcome = .error failure) (p : Turn → Bool) : returned [x] p = 0 := by
  simp [returned, h, Except.toOption]

theorem exchange_tally (s : Service) (c : Chat) (call : Call) :
    (exchange s c call).after.tally =
      Tally.raise c.tally (exchange s c call).handling.counters := rfl

/-- The step: the counts grow by what the turn of one call shows. -/
theorem exchange_accounts (s : Service) (c : Chat) (call : Call) :
    Accounts c.tally (exchange s c call).after.tally [exchange s c call] := by
  have h : (exchange s c call).handling.Accounted
      (!Service.exempts call.document (exchange s c call).stored call.depth) :=
    handling_accounted s _ (call.messageCount.getD c.messageCount) call
  unfold Handling.Accounted at h
  cases ho : (exchange s c call).handling.outcome with
  | error failure =>
    simp only [ho] at h
    have hsame : (exchange s c call).after.tally = c.tally := by
      rw [exchange_tally, h]
      rfl
    have hcounted : (exchange s c call).isCounted = false := by
      simp [Exchange.isCounted, ho, Except.toOption]
    rw [hsame]
    exact {
      errors := fun kind => by rw [returned_of_failure ho, Nat.add_zero]
      captured := fun field => by rw [returned_of_failure ho, Nat.add_zero]
      reprompts := by rw [returned_of_failure ho, Nat.add_zero]
      repromptTurns := by rw [returned_of_failure ho, Nat.add_zero]
      turns := by simp [hcounted]
      failures := by
        simp only [List.mem_singleton, forall_eq]
        exact fun _ _ => hsame }
  | ok turn =>
    simp only [ho] at h
    obtain ⟨reason, outcome, hturn, hcounted, hcounters⟩ := h
    have hcounted' : (exchange s c call).isCounted = outcome.isSome := by
      simp only [Exchange.isCounted, ho, hcounted]
      rfl
    have hagain : (turn.action.getD "none" = "continue" ∧ outcome = some "reprompt") ↔
        turn.asksAgain = true := by
      rw [hturn.outcome]
      refine and_iff_right_of_imp fun ha => ?_
      rw [hturn.action ha]
      rfl
    rw [exchange_tally, hcounters]
    exact {
      errors := fun kind => by
        rw [Tally.count_raise, Turn.count_error_counters, returned_singleton ho]
        simp
      captured := fun field => by
        rw [Tally.count_raise, Turn.count_captured_counters, returned_singleton ho]
      reprompts := by
        rw [Tally.total_raise, Turn.countP_isReprompt_counters, returned_singleton ho,
          hturn.reason]
      repromptTurns := by
        rw [Tally.count_raise, Turn.count_turn_counters, returned_singleton ho]
        simp only [hagain]
      turns := by
        rw [Tally.total_raise, Turn.countP_isTurn_counters, List.countP_singleton, hcounted']
      failures := by simp [ho] }

/-- **The counts and the returned turns never drift apart.** After any list of calls, with whatever
documents, stored states, messages, triggers and counts of messages, the counts have grown by
exactly what the returned turns show, and by nothing for a call that fails. -/
theorem history_accounts (s : Service) (c : Chat) (calls : List Call) :
    Accounts c.tally (finish s c calls).tally (history s c calls) := by
  -- by induction on the calls: the accounts of the first one and of the rest are put together
  induction calls generalizing c with
  | nil => exact .refl _
  | cons call rest ih =>
    rw [finish_cons, history_cons]
    exact (exchange_accounts s c call).trans (ih _)

end Chat

end Dialogue
