import Dialogue.Proofs.Lifecycle
import Dialogue.Proofs.Refinement

/-!
# The shape of a turn

Callers branch on whether a turn is handled, on its action, its state and its error. Which of these
go together does not depend on the flow or on what is stored.

* `Turn.IsWellFormed`: how the parts of a turn fit together;
* `Service.Gives`: the turns of a service, by where they come from;
* `Service.handle_gives`: every turn is one of them;
* `Service.Gives.isWellFormed`: each of them is well formed;
* `Service.handle_isWellFormed`: hence so is every turn.
-/

namespace Dialogue

/-! ### Merged tables -/

namespace Assoc

variable {κ α : Type} [DecidableEq κ] {t u : Assoc κ α} {l : List (κ × α)} {k : κ} {v : α}

theorem get?_insertAll_of_not_mem (h : k ∉ l.map Prod.fst) : (t.insertAll l).get? k = t.get? k := by
  induction l generalizing t with
  | nil => rfl
  | cons e r ih =>
    rw [List.map_cons, List.mem_cons, not_or] at h
    rw [insertAll_cons, ih h.2, get?_insert, if_neg h.1]

theorem get?_insertAll_of_mem (hl : (l.map Prod.fst).Nodup) (h : (k, v) ∈ l) :
    (t.insertAll l).get? k = some v := by
  induction l generalizing t with
  | nil => cases h
  | cons e r ih =>
    rw [List.map_cons, List.nodup_cons] at hl
    rw [insertAll_cons]
    rcases List.mem_cons.1 h with rfl | hr
    · rw [get?_insertAll_of_not_mem hl.1, get?_insert, if_pos rfl]
    · exact ih hl.2 hr

/-- What overwrites a table is in the result. -/
theorem get?_merge_of_some (h : u.get? k = some v) : (t.merge u).get? k = some v :=
  get?_insertAll_of_mem u.nodup (mem_toList_iff.2 h)

end Assoc

/-! ### Well-formed turns -/

/-- How the parts of a turn fit together. It is handled exactly if it says something, and it has a
state exactly if it has an action and no error. An error comes with nothing else; what is captured
is in the state of a turn that goes on; and if the end of a flow is announced, the last message of a
turn that comes to it says so. -/
structure Turn.IsWellFormed (announces : Bool) (t : Turn) : Prop where
  handled : t.handled = true ↔ t.messages ≠ []
  stored : t.state ≠ none ↔ t.action ≠ none ∧ t.error = none
  failed : t.error ≠ none →
    t.handled = false ∧ t.messages = [] ∧ t.state = none ∧ t.captured = .empty
  captured : t.captured ≠ .empty → t.action = some "continue" ∧
    ∃ x, t.state = some x ∧ ∀ k v, t.captured.get? k = some v → x.data.get? k = some v
  announced : announces = true → t.action = some "continue" →
    ∀ x, t.state = some x → x.isComplete = true →
      ∃ m, t.messages.getLast? = some m ∧ transitionText.toList <:+: m.text.toList

/-- A reply that asks again has one message. -/
theorem Engine.messages_of_isReprompt {e : Engine} {c : Cursor} {answer : Option String} {r : Reply}
    (h : (e.process c answer).outcome = .ok r) (hr : r.isReprompt = true) :
    ∃ m, r.messages = [m] := by
  obtain ⟨id, n, -, -, hreply⟩ := process_eq_ok.1 h
  rcases reply_eq_ok.1 hreply with
    ⟨reason, text, options, -, rfl⟩ | ⟨target, captured, -, -, -, rfl⟩
  · exact ⟨_, rfl⟩
  · cases hr

namespace Service

variable {s : Service} {f : Flow} {document : Option Document} {stored : Stored}
  {held : Option State} {message trigger : Option String} {count : Int} {depth : Nat}
  {turn : Turn}

/-- The turns of a service, by where they come from: the turn is handed back silently, there is a
failure to report, the flow is opened, or an answer gets a reply. -/
inductive Gives (s : Service) : Turn → Prop
  | aside (error : Option String) : Gives s (.aside error)
  | failure (action kind : String) : Gives s (errorTurn (some action) kind)
  | opening (x : Opening) : Gives s (startTurn x)
  | reply {e : Engine} {c : Cursor} {answer : Option String} {r : Reply} (state : State)
      (h : (e.process c answer).outcome = .ok r) : Gives s (s.replyTurn state r)

theorem run_gives (h : (s.run f held message trigger).outcome = .ok turn) : s.Gives turn := by
  rcases s.run_cases f held message trigger with
    ⟨failure, action, -, hrun⟩ | ⟨e, -, -, hrun⟩ | ⟨e, state, -, -, hrun⟩
  · rw [hrun] at h
    obtain ⟨kind, -, rfl⟩ := failed_eq_ok.1 h
    exact .failure action kind
  · rw [hrun] at h
    rcases start_eq_ok.1 h with ⟨x, -, rfl⟩ | ⟨_, kind, -, -, rfl⟩
    · exact .opening x
    · exact .failure "start" kind
  · rw [hrun] at h
    rcases proceed_eq_ok.1 h with ⟨r, hr, rfl⟩ | ⟨_, kind, -, -, rfl⟩
    · exact .reply state hr
    · exact .failure "continue" kind

/-- Every turn comes from one of these. -/
theorem handle_gives
    (h : (s.handle document stored message trigger count depth).outcome = .ok turn) :
    s.Gives turn := by
  rcases s.handle_cases document stored message trigger count depth with
    ⟨-, hh⟩ | ⟨d, fault, -, -, hh⟩ | ⟨d, f, -, -, hh⟩
  · rw [hh] at h
    cases h
    exact .aside none
  · rw [hh] at h
    obtain ⟨-, rfl⟩ := unusable_eq_ok.1 h
    exact .aside (some "invalid_definition")
  · rw [hh] at h
    rcases handleFlow_turn_cases h with ⟨error, rfl⟩ | ⟨-, held, -, -, hrun⟩
    · exact .aside error
    · exact run_gives hrun

/-! ### Each of them is well formed -/

theorem errorTurn_isWellFormed (announces : Bool) (action : Option String) (kind : String) :
    (errorTurn action kind).IsWellFormed announces := by
  constructor <;> simp [errorTurn]

theorem aside_isWellFormed (announces : Bool) (error : Option String) :
    (Turn.aside error).IsWellFormed announces := by
  constructor <;> simp [Turn.aside]

theorem startTurn_isWellFormed (announces : Bool) (x : Opening) :
    (startTurn x).IsWellFormed announces := by
  constructor <;> simp [startTurn]

/-- A turn that asks again is well formed if it says something. -/
theorem againTurn_isWellFormed (announces : Bool) (state : State) {r : Reply}
    (hr : r.messages ≠ []) : (againTurn state r).IsWellFormed announces := by
  constructor <;> simp [againTurn, hr]

/-- If the end of the flow is announced, the last message says so. -/
theorem saysTransition_withTransition (messages : List Message) :
    saysTransition (withTransition messages) = true := by
  unfold withTransition
  split_ifs with h
  · exact h
  · rw [saysTransition_iff]
    exact ⟨.transition, List.getLast?_concat, List.infix_refl _⟩

/-- A turn that goes on is well formed: it stores what it captures, and announces the end. -/
theorem onwardTurn_isWellFormed (s : Service) (state : State) (r : Reply) :
    (s.onwardTurn state r).IsWellFormed s.announces where
  handled := by simp [onwardTurn]
  stored := by simp [onwardTurn]
  failed := by simp [onwardTurn]
  captured _ := ⟨rfl, _, rfl, fun _ _ hk => Assoc.get?_merge_of_some hk⟩
  announced := by
    rintro hs - x hx hc
    cases hx
    have hm : (s.onwardTurn state r).messages = withTransition r.messages := by
      simp [onwardTurn, hs, show r.isComplete = true from hc]
    rw [hm]
    exact saysTransition_iff.1 (saysTransition_withTransition _)

theorem Gives.isWellFormed (h : s.Gives turn) : turn.IsWellFormed s.announces := by
  cases h with
  | aside error => exact aside_isWellFormed _ _
  | failure action kind => exact errorTurn_isWellFormed _ _ _
  | opening x => exact startTurn_isWellFormed _ _
  | @reply e c answer r state h =>
    unfold replyTurn
    split_ifs with hr
    · obtain ⟨m, hm⟩ := Engine.messages_of_isReprompt h hr
      exact againTurn_isWellFormed _ _ (by simp [hm])
    · exact s.onwardTurn_isWellFormed state r

/-- **Every turn is well formed**, whatever the service is, and whatever it is given. -/
theorem handle_isWellFormed
    (h : (s.handle document stored message trigger count depth).outcome = .ok turn) :
    turn.IsWellFormed s.announces := (handle_gives h).isWellFormed

/-- The theorem for a turn that keeps an address and comes to the end of the flow. -/
theorem handle_isWellFormed_helpdesk :
    let s := make none none none
    ∃ turn, (s.handle (some (.flow (.helpdesk "bye"))) (.state ⟨some "mail", false, .empty⟩)
        (some "a@b.co") none 3 Json.usualDepth).outcome = .ok turn ∧
      turn.captured = .ofList [("email", "a@b.co")] ∧
      turn.messages.map (·.text) = ["Goodbye.", "What you want to ask next?"] ∧
      turn.IsWellFormed s.announces := by
  intro s
  have h : ∃ turn, (s.handle (some (.flow (.helpdesk "bye"))) (.state ⟨some "mail", false, .empty⟩)
        (some "a@b.co") none 3 Json.usualDepth).outcome = .ok turn ∧
      turn.captured = .ofList [("email", "a@b.co")] ∧
      turn.messages.map (·.text) = ["Goodbye.", "What you want to ask next?"] :=
    ⟨_, rfl, by decide +kernel, by decide +kernel⟩
  obtain ⟨turn, ht, hc, hm⟩ := h
  exact ⟨turn, ht, hc, hm, handle_isWellFormed ht⟩

end Service

end Dialogue
