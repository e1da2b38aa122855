import Dialogue.Proofs.Agreement
import Dialogue.Proofs.Portions

/-!
# What a bound on steps changes

A bound on steps cuts short what is said, and changes neither whether a call fails nor what is said
before the cut. A bound beyond the number of nodes is never met.

* `Flow.walkFrom_of_le`: under a smaller budget a walk is the same, or is cut where the budget ends;
* `Flow.walk_eq_of_size_lt`: budgets beyond the number of nodes give the same walk;
* `CutAt`: one outcome is another with its messages cut;
* `Engine.begin_cases`, `Engine.processAt_cases`: a call of two engines of one flow fails with both,
  gives the same with both, or leads both to a walk from the same id;
* `Flow.bound_cuts`: what two bounds make of an opening and of an answer.
-/

namespace Dialogue

namespace Flow

variable {f : Flow}

/-! ### Walks under two budgets -/

/-- Under a smaller budget a walk is the same, or it is cut where the budget ends. -/
theorem walkFrom_of_le (f : Flow) {budget budget' : Nat} (h : budget ≤ budget')
    (seen : List String) (link : Option String) :
    f.walkFrom budget seen link = f.walkFrom budget' seen link ∨
      ∃ t, f.walkFrom budget seen link =
        ⟨(f.walkFrom budget' seen link).path.take budget, .bounded t⟩ := by
  -- by induction on the smaller budget: both walks have passed the same ids
  induction budget generalizing budget' seen link with
  | zero =>
    cases link with
    | none => exact .inl (by cases budget' <;> rfl)
    | some id => exact .inr ⟨id, rfl⟩
  | succ budget ih =>
    obtain ⟨budget', rfl⟩ : ∃ b, budget' = b + 1 := ⟨budget' - 1, by omega⟩
    cases link with
    | none => exact .inl rfl
    | some id =>
      by_cases hs : id ∈ seen
      · exact .inl (by simp [walkFrom, hs])
      · cases hn : f.node? id with
        | none => exact .inl (by simp [walkFrom, hs, hn])
        | some n =>
          cases ho : n.onward with
          | inl stop => exact .inl (by simp [walkFrom, hs, hn, ho])
          | inr next =>
            rcases ih (by omega : budget ≤ budget') (id :: seen) next with hrest | ⟨t, hrest⟩
            · exact .inl (by simp [walkFrom, hs, hn, ho, hrest])
            · exact .inr ⟨t, by simp [walkFrom, hs, hn, ho, hrest]⟩

/-- Under a smaller budget a walk passes the first nodes of the walk under a larger one. -/
theorem path_walk_of_le {budget budget' : Nat} (h : budget ≤ budget') (start : String) :
    (f.walk budget start).path = (f.walk budget' start).path.take budget := by
  rcases f.walkFrom_of_le h [] (given (some start)) with hsame | ⟨t, hcut⟩
  · have hlength : (f.walk budget start).path.length ≤ budget :=
      (f.trailFrom_walk budget start).bounded
    have hsame : f.walk budget start = f.walk budget' start := hsame
    rw [← hsame, List.take_of_length_le hlength]
  · exact congrArg Walk.path hcut

theorem messages_walk_of_le {budget budget' : Nat} (h : budget ≤ budget') (start : String) :
    (f.walk budget start).messages = (f.walk budget' start).messages.take budget := by
  rw [Walk.messages, Walk.messages, path_walk_of_le h, List.map_take]

/-- A budget beyond the number of nodes is never met. -/
theorem walk_stop_ne_bounded {budget : Nat} (h : f.nodes.size < budget) (start t : String) :
    (f.walk budget start).stop ≠ .bounded t := by
  intro hs
  have hfits := f.walk_stopFits budget start
  rw [hs] at hfits
  have hlength : (f.walk budget start).path.length = budget := hfits
  have hsize : (f.walk budget start).path.length ≤ f.nodes.size :=
    f.length_walkFrom_le_size budget [] _
  omega

/-- Budgets beyond the number of nodes give the same walk. -/
theorem walk_eq_of_size_lt {budget budget' : Nat} (h : f.nodes.size < budget)
    (h' : f.nodes.size < budget') (start : String) :
    f.walk budget start = f.walk budget' start := by
  -- of two budgets one is the smaller, and that one is not met
  have hsmaller : ∀ {b b' : Nat}, f.nodes.size < b → b ≤ b' → f.walk b start = f.walk b' start := by
    intro b b' hb hle
    rcases f.walkFrom_of_le hle [] (given (some start)) with hsame | ⟨t, hcut⟩
    · exact hsame
    · exact absurd (congrArg Walk.stop hcut) (walk_stop_ne_bounded hb start t)
  rcases Nat.le_total budget budget' with hle | hle
  · exact hsmaller h hle
  · exact (hsmaller h' hle).symm

end Flow

/-! ### Calls under two bounds -/

/-- What a call gives is what another one gives with the messages cut at a bound: both fail, and in
the same way, or the one says the first messages of what the other says. -/
inductive CutAt {α : Type} (bound : Nat) (messages : α → List Message) :
    Except Failure α → Except Failure α → Prop
  | fails (failure : Failure) : CutAt bound messages (.error failure) (.error failure)
  | cut {x y : α} (h : messages x = (messages y).take bound) :
    CutAt bound messages (.ok x) (.ok y)

namespace Engine

variable {e e' : Engine}

/-- Two engines of one flow fail alike to open a conversation, or both walk from the same id. -/
theorem begin_cases (hf : e'.flow = e.flow) :
    (∃ failure, e.begin.outcome = .error failure ∧ e'.begin.outcome = .error failure) ∨
      ∃ id, e.begin.outcome = .ok (e.openingAt id) ∧ e'.begin.outcome = .ok (e'.openingAt id) := by
  rw [begin_outcome, begin_outcome, hf]
  cases e.flow.entry.id? with
  | none => exact .inl ⟨_, rfl, rfl⟩
  | some id => exact .inr ⟨id, rfl, rfl⟩

/-- Two engines of one flow fail alike at an answer, or make the same single message of it, or both
walk from the same id and keep the same of the answer. -/
theorem processAt_cases (hf : e'.flow = e.flow) (p : Position) (answer : Option String) :
    (∃ failure, (e.processAt p answer).outcome = .error failure ∧
      (e'.processAt p answer).outcome = .error failure) ∨
    (∃ r, r.messages.length = 1 ∧ (e.processAt p answer).outcome = .ok r ∧
      (e'.processAt p answer).outcome = .ok r) ∨
    ∃ id target captured,
      (e.processAt p answer).outcome =
        .ok (advance id (e.flow.walk e.maxSteps target) captured) ∧
      (e'.processAt p answer).outcome =
        .ok (advance id (e.flow.walk e'.maxSteps target) captured) := by
  unfold processAt
  cases p.cursor? with
  | error failure => exact .inl ⟨failure, rfl, rfl⟩
  | ok c =>
    simp only [process_outcome, hf]
    cases e.flow.positionId? c.stepId with
    | none => exact .inl ⟨_, rfl, rfl⟩
    | some id =>
      simp only [outcomeAt, hf]
      cases e.flow.node? id with
      | none => exact .inl ⟨_, rfl, rfl⟩
      | some n =>
        simp only [reply, goOn, hf]
        -- only an answer that is taken leads to a walk
        cases n.respond (answer.getD "") with
        | again reason text options => exact .inr (.inl ⟨_, rfl, rfl, rfl⟩)
        | noText | badText => exact .inl ⟨_, rfl, rfl⟩
        | onward target slot =>
          cases slot with
          | nothing => exact .inr (.inr ⟨id, target, _, rfl, rfl⟩)
          | name key => exact .inr (.inr ⟨id, target, _, rfl, rfl⟩)
          | scalar key => exact .inl ⟨_, rfl, rfl⟩
          | compound isList => exact .inl ⟨_, rfl, rfl⟩

theorem begin_cutAt (hf : e'.flow = e.flow) (hb : e.maxSteps ≤ e'.maxSteps) :
    CutAt e.maxSteps Opening.messages e.begin.outcome e'.begin.outcome := by
  rcases begin_cases hf with ⟨failure, h, h'⟩ | ⟨id, h, h'⟩
  · rw [h, h']
    exact .fails failure
  · rw [h, h']
    refine .cut ?_
    show (e.flow.walk e.maxSteps id).messages = (e'.flow.walk e'.maxSteps id).messages.take _
    rw [hf, Flow.messages_walk_of_le hb]

theorem processAt_cutAt (hf : e'.flow = e.flow) (hb : e.maxSteps ≤ e'.maxSteps) (p : Position)
    (answer : Option String) :
    CutAt e.maxSteps Reply.messages (e.processAt p answer).outcome
      (e'.processAt p answer).outcome := by
  rcases processAt_cases hf p answer with
    ⟨failure, h, h'⟩ | ⟨r, hone, h, h'⟩ | ⟨id, target, captured, h, h'⟩
  · rw [h, h']
    exact .fails failure
  · -- a single message is within every bound
    have hpos := e.positive
    rw [h, h']
    exact .cut (List.take_of_length_le (by omega)).symm
  · rw [h, h']
    exact .cut (Flow.messages_walk_of_le hb target)

theorem begin_eq_of_size_lt (hf : e'.flow = e.flow) (h : e.flow.nodes.size < e.maxSteps)
    (h' : e.flow.nodes.size < e'.maxSteps) : e.begin.outcome = e'.begin.outcome := by
  rcases begin_cases hf with ⟨failure, hx, hx'⟩ | ⟨id, hx, hx'⟩
  · rw [hx, hx']
  · rw [hx, hx', openingAt, openingAt, hf, Flow.walk_eq_of_size_lt h h']

theorem processAt_eq_of_size_lt (hf : e'.flow = e.flow) (h : e.flow.nodes.size < e.maxSteps)
    (h' : e.flow.nodes.size < e'.maxSteps) (p : Position) (answer : Option String) :
    (e.processAt p answer).outcome = (e'.processAt p answer).outcome := by
  rcases processAt_cases hf p answer with
    ⟨failure, hx, hx'⟩ | ⟨r, -, hx, hx'⟩ | ⟨id, target, captured, hx, hx'⟩
  · rw [hx, hx']
  · rw [hx, hx']
  · rw [hx, hx', Flow.walk_eq_of_size_lt h h']

end Engine

namespace Flow

/-- With two positive bounds a flow has two engines, or for want of nodes none. -/
theorem build_bounds_cases (f : Flow) {n m : Int} (hn : 1 ≤ n) (hm : 1 ≤ m) :
    (∃ failure, Engine.build f n = .error failure ∧ Engine.build f m = .error failure) ∨
    ∃ e e' : Engine, Engine.build f n = .ok e ∧ Engine.build f m = .ok e' ∧ e.flow = f ∧
      e'.flow = e.flow ∧ e.maxSteps = n.toNat ∧ e'.maxSteps = m.toNat := by
  by_cases he : f.nodes.isEmpty = false
  · have hn : 0 < n.toNat := by omega
    have hm : 0 < m.toNat := by omega
    exact .inr ⟨⟨f, n.toNat, he, hn⟩, ⟨f, m.toNat, he, hm⟩, by simp [Engine.build, he, hn],
      by simp [Engine.build, he, hm], rfl, rfl, rfl, rfl⟩
  · exact .inl ⟨.noNodes, by simp [Engine.build, he], by simp [Engine.build, he]⟩

/-- **A bound on steps only cuts short what is said.** Under the smaller of two positive bounds an
opening and an answer fail exactly when they do under the larger one, and in the same way; else they
say the first messages of what they say under the larger one, as many as the bound allows. Under all
bounds beyond the number of nodes they have the same outcome. -/
theorem bound_cuts (f : Flow) :
    (∀ n m : Int, 1 ≤ n → n ≤ m →
      CutAt n.toNat Opening.messages (f.begins n) (f.begins m) ∧
      ∀ p answer, CutAt n.toNat Reply.messages (f.answersAt n p answer)
        (f.answersAt m p answer)) ∧
    ∀ n m : Int, f.nodes.size < n → f.nodes.size < m →
      f.begins n = f.begins m ∧ ∀ p answer, f.answersAt n p answer = f.answersAt m p answer := by
  unfold begins answersAt
  constructor
  · intro n m hn hnm
    rcases f.build_bounds_cases hn (by omega : 1 ≤ m) with
      ⟨failure, h, h'⟩ | ⟨e, e', h, h', -, hf, hb, hb'⟩
    · rw [h, h']
      exact ⟨.fails failure, fun _ _ => .fails failure⟩
    · have hle : e.maxSteps ≤ e'.maxSteps := by omega
      rw [h, h', ← hb]
      exact ⟨Engine.begin_cutAt hf hle, Engine.processAt_cutAt hf hle⟩
  · intro n m hn hm
    rcases f.build_bounds_cases (by omega : 1 ≤ n) (by omega : 1 ≤ m) with
      ⟨failure, h, h'⟩ | ⟨e, e', h, h', hfe, hf, hb, hb'⟩
    · rw [h, h']
      exact ⟨rfl, fun _ _ => rfl⟩
    · have hlt : e.flow.nodes.size < e.maxSteps := by rw [hfe]; omega
      have hlt' : e.flow.nodes.size < e'.maxSteps := by rw [hfe]; omega
      rw [h, h']
      exact ⟨Engine.begin_eq_of_size_lt hf hlt hlt', Engine.processAt_eq_of_size_lt hf hlt hlt'⟩

/-- The theorem for a tour of four nodes and a link that leads nowhere. A bound of four is not yet
beyond the number of nodes: it is met before that link. -/
theorem bound_cuts_tour :
    (1 : Int) ≤ 2 ∧ (2 : Int) ≤ 3 ∧ tour.nodes.size < (5 : Int) ∧ tour.nodes.size < (9 : Int) ∧
    tour.begins (4 : Int) ≠ tour.begins (5 : Int) ∧
    CutAt 2 Opening.messages (tour.begins (2 : Int)) (tour.begins (3 : Int)) ∧
    (∀ p answer, CutAt 2 Reply.messages (tour.answersAt (2 : Int) p answer)
      (tour.answersAt (3 : Int) p answer)) ∧
    tour.begins (5 : Int) = tour.begins (9 : Int) ∧
    ∀ p answer, tour.answersAt (5 : Int) p answer = tour.answersAt (9 : Int) p answer := by
  have hle : (1 : Int) ≤ 2 ∧ (2 : Int) ≤ 3 := by decide
  have hlt : tour.nodes.size < (5 : Int) ∧ tour.nodes.size < (9 : Int) := by decide
  obtain ⟨hbegins, hanswers⟩ := (bound_cuts tour).1 2 3 hle.1 hle.2
  obtain ⟨hbegins', hanswers'⟩ := (bound_cuts tour).2 5 9 hlt.1 hlt.2
  exact ⟨hle.1, hle.2, hlt.1, hlt.2, by decide +kernel, hbegins, hanswers, hbegins', hanswers'⟩

end Flow

end Dialogue
