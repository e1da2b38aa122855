import Dialogue.Proofs.Collected
import Dialogue.Proofs.Restart

/-!
# The life of a stored conversation

A chat calls the service again and again, each time with a flow, a message and a trigger of its
own, and stores the state of each turn that has one.

* `Service.run_action`: a turn of a flow starts it, or goes on with the stored state;
* `Call.Joins`: the calls that a flow has a part in;
* `Chat.handling_cases`: a turn comes of such a call, or the service hands it back silently;
* `Chat.Exchange`, `Chat.history`: the calls of a chat, with what is kept before and after each;
* `Chat.finish`: what is kept after all of them;
* `Chat.Exchange.Idle`: the calls that come to nothing;
* `Chat.Lifecycle`: a state that is stored is never lost, only the trigger starts the flow again,
  and it alone changes a state in which the flow has ended;
* `Chat.history_lifecycle`: every chat keeps to this.
-/

namespace Dialogue

/-- A turn that is handed back silently, with or without an error. -/
def Turn.aside (error : Option String) : Turn := ⟨false, none, [], none, .empty, error⟩

namespace Service

variable {s : Service} {f : Flow} {document : Option Document} {stored : Stored}
  {held : Option State} {message trigger : Option String} {count : Int} {turn : Turn}

/-! ### Turns of a flow -/

theorem proceed_action {e : Engine} {state : State}
    (ht : (s.proceed e state message).outcome = .ok turn) : turn.action = some "continue" := by
  rcases proceed_eq_ok.1 ht with ⟨r, -, rfl⟩ | ⟨_, _, -, -, rfl⟩
  · unfold replyTurn
    split_ifs
    · rfl
    · rfl
  · rfl

/-- A turn of a flow starts it exactly if there is no state to go on with. -/
theorem run_action (ht : (s.run f held message trigger).outcome = .ok turn) :
    turn.action = some (if s.continued held trigger = none then "start" else "continue") := by
  by_cases hc : s.continued held trigger = none
  · rw [if_pos hc]
    exact openingTurn?_action ((run_eq_ok_of_start hc).1 ht)
  · rw [if_neg hc]
    obtain ⟨state, hstate⟩ := Option.ne_none_iff_exists'.1 hc
    unfold continued at hstate
    unfold run at ht
    rw [hstate] at ht
    cases hb : Engine.build f s.maxSteps with
    | ok e =>
      rw [hb] at ht
      exact proceed_action ht
    | error failure =>
      rw [hb] at ht
      obtain ⟨kind, -, rfl⟩ := failed_eq_ok.1 ht
      rfl

/-- If a state is held, then only the trigger makes a turn of the flow start it. -/
theorem trigger_of_start {state : State}
    (ht : (s.run f (some state) message trigger).outcome = .ok turn)
    (ha : turn.action = some "start") : trigger = some s.trigger := by
  by_contra htr
  have hc : s.continued (some state) trigger = some state := continued_eq_some.2 ⟨htr, rfl⟩
  have hgo : turn.action = some "continue" := by
    rw [run_action ht, hc]
    rfl
  exact absurd (ha.symm.trans hgo) (by decide)

/-- A turn belongs to the flow, or it is handed back silently. -/
theorem handleFlow_turn_cases
    (ht : (s.handleFlow f stored message trigger count).outcome = .ok turn) :
    (∃ error, turn = .aside error) ∨
      (f.enabled = true ∧ ∃ held, stored.read = .valid held ∧
        s.applies held trigger count = true ∧
        (s.run f held message trigger).outcome = .ok turn) := by
  rcases s.handleFlow_cases f stored message trigger count with
    ⟨-, hl⟩ | ⟨-, p, ps, -, ho, -⟩ | ⟨-, _, -, -, hl⟩ | ⟨he, held, hr, ha, hl⟩
  · rw [hl] at ht
    exact .inl ⟨none, leftAlone_eq_ok.1 ht⟩
  · cases ho.symm.trans ht
    exact .inl ⟨_, rfl⟩
  · rw [hl] at ht
    exact .inl ⟨none, leftAlone_eq_ok.1 ht⟩
  · rw [hl] at ht
    exact .inr ⟨he, held, hr, ha, ht⟩

end Service

/-! ### Calls -/

/-- A call that a flow has a part in: it is with a document of the flow, which is enabled, and the
turn belongs to the flow by what is stored. -/
structure Call.Joins (s : Service) (stored : Stored) (count : Int) (call : Call) (f : Flow)
    (held : Option State) : Prop where
  document : ∃ d, call.document = some d ∧ Flow.ofDocument d call.depth = .ok f
  enabled : f.enabled = true
  read : stored.read = .valid held
  applies : s.applies held call.trigger count = true

/-- A flow that was prepared for a call is that of its document. -/
theorem Call.document_of_prepared {call : Call} {d : Document} {f : Flow}
    (hp : call.prepared = .ok (some d)) (hf : Flow.ofDocument d call.depth = .ok f) :
    ∃ d', call.document = some d' ∧ Flow.ofDocument d' call.depth = .ok f := by
  unfold Call.prepared at hp
  split_ifs at hp with hparsed
  · cases hd : call.document with
    | none =>
      rw [hd] at hp
      cases hp
    | some d' =>
      rw [hd, Option.getD_some] at hp
      cases hf' : Flow.ofDocument d' call.depth with
      | error fault =>
        rw [hf'] at hp
        cases hp
      | ok f' =>
        rw [hf'] at hp
        cases hp
        cases hf
        exact ⟨d', rfl, hf'⟩
  · exact ⟨d, Except.ok.inj hp, hf⟩

namespace Chat

variable {s : Service} {c : Chat} {call : Call} {calls : List Call} {turn : Turn}

/-- A turn is that of a flow that has a part in the call, or it is handed back silently. -/
theorem handling_cases {stored : Stored} {count : Int}
    (ht : (handling s stored count call).outcome = .ok turn) :
    (∃ error, turn = .aside error) ∨
      ∃ f held, call.Joins s stored count f held ∧
        (s.run f held call.message call.trigger).outcome = .ok turn := by
  rcases handling_eq_handle s stored count call with ⟨document, hp, hh⟩ | ⟨failure, hh⟩
  swap
  · rw [hh] at ht
    cases ht
  rw [hh] at ht
  rcases s.handle_cases document stored call.message call.trigger count call.depth with
    ⟨-, hh⟩ | ⟨d, fault, -, -, hh⟩ | ⟨d, f, rfl, hf, hh⟩
  · rw [hh] at ht
    cases ht
    exact .inl ⟨none, rfl⟩
  · rw [hh] at ht
    obtain ⟨-, rfl⟩ := Service.unusable_eq_ok.1 ht
    exact .inl ⟨_, rfl⟩
  · rw [hh] at ht
    rcases Service.handleFlow_turn_cases ht with ha | ⟨he, held, hr, ha, hrun⟩
    · exact .inl ha
    · have hd := Call.document_of_prepared hp hf
      exact .inr ⟨f, held, ⟨hd, he, hr, ha⟩, hrun⟩

/-! ### Exchanges -/

/-- One call of a chat, what came of it, and what was kept before and after it. -/
structure Exchange where
  before : Chat
  call : Call
  handling : Handling
  after : Chat

/-- The exchange that a call makes of a chat. -/
def exchange (s : Service) (c : Chat) (call : Call) : Exchange :=
  ⟨c, call, (step s c call).1, (step s c call).2⟩

/-- The exchanges of a list of calls. -/
def history (s : Service) (c : Chat) : List Call → List Exchange
  | [] => []
  | call :: rest => exchange s c call :: history s (step s c call).2 rest

@[simp] theorem history_cons (s : Service) (c : Chat) (call : Call) (calls : List Call) :
    history s c (call :: calls) = exchange s c call :: history s (step s c call).2 calls := rfl

/-- What is kept after a list of calls. -/
def finish (s : Service) (c : Chat) (calls : List Call) : Chat :=
  ((run s c calls).getLast?.map Prod.snd).getD c

@[simp] theorem finish_nil (s : Service) (c : Chat) : finish s c [] = c := rfl

@[simp] theorem finish_cons (s : Service) (c : Chat) (call : Call) (calls : List Call) :
    finish s c (call :: calls) = finish s (step s c call).2 calls := by
  have hrun : run s c (call :: calls) = step s c call :: run s (step s c call).2 calls := rfl
  unfold finish
  rw [hrun, List.getLast?_cons]
  cases (run s (step s c call).2 calls).getLast? <;> rfl

theorem exists_of_mem_history {x : Exchange} (hx : x ∈ history s c calls) :
    ∃ c' call, call ∈ calls ∧ x = exchange s c' call := by
  induction calls generalizing c with
  | nil => cases hx
  | cons call rest ih =>
    rw [history, List.mem_cons] at hx
    rcases hx with rfl | hx
    · exact ⟨c, call, List.mem_cons_self, rfl⟩
    · obtain ⟨c', call', hm, rfl⟩ := ih hx
      exact ⟨c', call', List.mem_cons_of_mem _ hm, rfl⟩

/-- The count of messages that a call is made with. -/
def Exchange.count (x : Exchange) : Int := x.call.messageCount.getD x.before.messageCount

/-- A call that comes to nothing: it fails, or its turn has an error, or its flow is missing or
disabled, or the turn does not belong to the flow by what is stored. -/
inductive Exchange.Idle (s : Service) (x : Exchange) : Prop
  | fails {failure : Failure} (h : x.handling.outcome = .error failure)
  | errs {turn : Turn} (h : x.handling.outcome = .ok turn) (he : turn.error ≠ none)
  | missing (h : Document.given? x.call.document = none)
  | disabled {d : Document} {f : Flow} (hd : x.call.document = some d)
      (hf : Flow.ofDocument d x.call.depth = .ok f) (he : f.enabled = false)
  | skipped {held : Option State} (hr : x.before.stored.read = .valid held)
      (ha : s.applies held x.call.trigger x.count = false)

/-- The state that a chat holds, if what is stored can be read as one. -/
def Holds (c : Chat) (state : State) : Prop := c.stored.read = .valid (some state)

/-- What holds in the life of a conversation: once a state is stored, one is stored for ever, and
only the trigger starts the flow again; until then a state in which the flow has ended stays, and
the flow says nothing; and a call that comes to nothing leaves what is stored. -/
structure Lifecycle (s : Service) (xs : List Exchange) : Prop where
  forever : xs.Pairwise fun x y => (∃ state, x.after.Holds state) → ∃ state, y.after.Holds state
  restarted : xs.Pairwise fun x y => (∃ state, x.after.Holds state) →
    ∀ turn, y.handling.outcome = .ok turn → turn.action = some "start" →
      y.call.trigger = some s.trigger
  ended : ∀ x ∈ xs, ∀ state, x.before.Holds state → state.isComplete = true →
    x.call.trigger ≠ some s.trigger →
      x.after.stored = x.before.stored ∧
        ∀ turn, x.handling.outcome = .ok turn → turn.handled = false ∧ turn.messages = []
  idle : ∀ x ∈ xs, x.Idle s → x.after.stored = x.before.stored

/-! ### What one exchange keeps -/

section Exchange

variable (hcall : call.stored = none)

include hcall

theorem exchange_stored :
    (exchange s c call).after.stored =
      storedAfter c.stored (exchange s c call).handling.outcome := by
  dsimp only [exchange, step]
  rw [hcall, Option.getD_none]

/-- A turn without a state leaves what is stored, and so does a call that fails. -/
theorem exchange_stored_of_silent
    (hq : ∀ turn, (exchange s c call).handling.outcome = .ok turn → turn.state = none) :
    (exchange s c call).after.stored = c.stored := by
  rw [exchange_stored hcall]
  cases ho : (exchange s c call).handling.outcome with
  | error failure => rfl
  | ok turn =>
    dsimp only [storedAfter]
    rw [hq turn ho]

theorem exchange_cases (ht : (exchange s c call).handling.outcome = .ok turn) :
    (∃ error, turn = .aside error) ∨
      ∃ f held, call.Joins s c.stored (exchange s c call).count f held ∧
        (s.run f held call.message call.trigger).outcome = .ok turn := by
  dsimp only [exchange, step] at ht
  rw [hcall, Option.getD_none] at ht
  exact handling_cases ht

/-- A call that no flow has a part in leaves what is stored, and its turn is handed back
silently. -/
theorem exchange_of_not_joins
    (hj : ∀ f held, ¬call.Joins s c.stored (exchange s c call).count f held) :
    (exchange s c call).after.stored = c.stored ∧
      ∀ turn, (exchange s c call).handling.outcome = .ok turn → ∃ error, turn = .aside error := by
  have hq : ∀ turn, (exchange s c call).handling.outcome = .ok turn →
      ∃ error, turn = .aside error := by
    intro turn ht
    rcases exchange_cases hcall ht with ha | ⟨f, held, hjoins, -⟩
    · exact ha
    · exact absurd hjoins (hj f held)
  refine ⟨exchange_stored_of_silent hcall fun turn ht => ?_, hq⟩
  obtain ⟨error, rfl⟩ := hq turn ht
  rfl

/-- A chat that holds a state holds one after each call. -/
theorem exchange_holds {state : State} (h : c.Holds state) :
    ∃ state', (exchange s c call).after.Holds state' := by
  unfold Holds at h ⊢
  rw [exchange_stored hcall]
  cases (exchange s c call).handling.outcome with
  | error failure => exact ⟨state, h⟩
  | ok turn =>
    dsimp only [storedAfter]
    cases turn.state with
    | none => exact ⟨state, h⟩
    | some next => exact ⟨next, rfl⟩

/-- If a state is held, then only the trigger starts the flow. -/
theorem exchange_restarted {state : State} (h : c.Holds state)
    (ht : (exchange s c call).handling.outcome = .ok turn) (ha : turn.action = some "start") :
    call.trigger = some s.trigger := by
  rcases exchange_cases hcall ht with ⟨error, rfl⟩ | ⟨f, held, hj, hrun⟩
  · cases ha
  · cases hj.read.symm.trans h
    exact Service.trigger_of_start hrun ha

/-- A state in which the flow has ended stays, unless the flow is started again. -/
theorem exchange_ended {state : State} (h : c.Holds state) (hc : state.isComplete = true)
    (htr : call.trigger ≠ some s.trigger) :
    (exchange s c call).after.stored = c.stored ∧
      ∀ turn, (exchange s c call).handling.outcome = .ok turn →
        turn.handled = false ∧ turn.messages = [] := by
  have hj : ∀ f held, ¬call.Joins s c.stored (exchange s c call).count f held := by
    intro f held hj
    cases hj.read.symm.trans h
    have hgo := Service.not_complete_of_applies hj.applies (Service.continued_eq_some.2 ⟨htr, rfl⟩)
    cases hc.symm.trans hgo
  obtain ⟨hs, hq⟩ := exchange_of_not_joins hcall hj
  refine ⟨hs, fun turn ht => ?_⟩
  obtain ⟨error, rfl⟩ := hq turn ht
  exact ⟨rfl, rfl⟩

/-- A turn with an error stores nothing. -/
theorem exchange_stored_of_error (ht : (exchange s c call).handling.outcome = .ok turn)
    (he : turn.error ≠ none) : (exchange s c call).after.stored = c.stored := by
  refine exchange_stored_of_silent hcall fun turn' ht' => ?_
  cases ht.symm.trans ht'
  rcases exchange_cases hcall ht with ⟨error, rfl⟩ | ⟨f, held, -, hrun⟩
  · rfl
  · obtain ⟨kind, hk⟩ := Option.ne_none_iff_exists'.1 he
    obtain ⟨action, rfl⟩ := Service.run_turn_of_error hrun hk
    rfl

/-- A call that comes to nothing leaves what is stored. -/
theorem exchange_idle (h : (exchange s c call).Idle s) :
    (exchange s c call).after.stored = c.stored := by
  cases h with
  | fails hf =>
    refine exchange_stored_of_silent hcall fun turn ht => ?_
    cases hf.symm.trans ht
  | errs ht he => exact exchange_stored_of_error hcall ht he
  | missing hd =>
    refine (exchange_of_not_joins hcall fun f held hj => ?_).1
    obtain ⟨d, hd', hf⟩ := hj.document
    have hgiven : Document.given? call.document = some d := by
      rw [hd']
      exact Document.given?_of_ok hf
    cases hd.symm.trans hgiven
  | disabled hd hf he =>
    refine (exchange_of_not_joins hcall fun f held hj => ?_).1
    obtain ⟨d, hd', hf'⟩ := hj.document
    cases hd.symm.trans hd'
    cases hf.symm.trans hf'
    cases he.symm.trans hj.enabled
  | skipped hr ha =>
    refine (exchange_of_not_joins hcall fun f held hj => ?_).1
    cases hr.symm.trans hj.read
    cases ha.symm.trans hj.applies

end Exchange

/-! ### What a chat keeps -/

/-- A chat that holds a state holds one before and after every call. -/
theorem holds_of_mem_history (hcalls : ∀ call ∈ calls, call.stored = none) {state : State}
    (h : c.Holds state) {x : Exchange} (hx : x ∈ history s c calls) :
    (∃ state, x.before.Holds state) ∧ ∃ state, x.after.Holds state := by
  induction calls generalizing c state with
  | nil => cases hx
  | cons call rest ih =>
    obtain ⟨hcall, hrest⟩ := List.forall_mem_cons.1 hcalls
    obtain ⟨state', h'⟩ := exchange_holds (s := s) hcall h
    rw [history, List.mem_cons] at hx
    rcases hx with rfl | hx
    · exact ⟨⟨state, h⟩, state', h'⟩
    · exact ih hrest h' hx

/-- Once a state is stored, one is held before and after every later call. -/
theorem pairwise_holds (hcalls : ∀ call ∈ calls, call.stored = none) :
    (history s c calls).Pairwise fun x y => (∃ state, x.after.Holds state) →
      (∃ state, y.before.Holds state) ∧ ∃ state, y.after.Holds state := by
  induction calls generalizing c with
  | nil => exact .nil
  | cons call rest ih =>
    obtain ⟨-, hrest⟩ := List.forall_mem_cons.1 hcalls
    refine .cons ?_ (ih hrest)
    rintro y hy ⟨state, h⟩
    exact holds_of_mem_history hrest h hy

/-- **The life of a stored conversation.** Whatever calls a chat makes, with whichever flows,
messages and triggers, they keep to the life of a conversation. -/
theorem history_lifecycle (s : Service) (c : Chat) (calls : List Call)
    (hcalls : ∀ call ∈ calls, call.stored = none) : Lifecycle s (history s c calls) where
  forever := (pairwise_holds hcalls).imp fun h hx => (h hx).2
  restarted := by
    refine (pairwise_holds hcalls).imp_of_mem ?_
    rintro x y - hy h hx turn ht ha
    obtain ⟨c', call, hm, rfl⟩ := exists_of_mem_history hy
    obtain ⟨⟨state, hst⟩, -⟩ := h hx
    exact exchange_restarted (hcalls call hm) hst ht ha
  ended := by
    intro x hx state hst hc htr
    obtain ⟨c', call, hm, rfl⟩ := exists_of_mem_history hx
    exact exchange_ended (hcalls call hm) hst hc htr
  idle := by
    intro x hx hi
    obtain ⟨c', call, hm, rfl⟩ := exists_of_mem_history hx
    exact exchange_idle (hcalls call hm) hi

/-- The theorem for a conversation that is led to its end, talked on and started again, where the
flow is missing once in between. -/
theorem history_lifecycle_helpdesk :
    let calls := [Call.say (.helpdesk "bye") "hi" none,
      ⟨none, false, none, none, "yes", none, false, Json.usualDepth⟩,
      .say (.helpdesk "bye") "yes" none, .say (.helpdesk "bye") "a@b.co" none,
      .say (.helpdesk "bye") "thanks" none, .say (.helpdesk "bye") "" "init_flow"]
    (∀ call ∈ calls, call.stored = none) ∧
    Lifecycle (.make none none none)
      (history (.make none none none) (.initial .nothing) calls) ∧
    (turns (run (.make none none none) (.initial .nothing) calls)).map Turn.action =
      [some "start", none, some "continue", some "continue", none, some "start"] := by
  intro calls
  have hcalls : ∀ call ∈ calls, call.stored = none := by simp [calls, Call.say]
  exact ⟨hcalls, history_lifecycle _ _ calls hcalls, by decide +kernel⟩

end Chat

end Dialogue
