import Dialogue.Proofs.Address
import Dialogue.Proofs.Rest

/-!
# Keys that only hold addresses

An answer is checked and kept in two steps, each of which strips it by itself. Under a key that
only checked e-mail nodes save under, what is stored is an address nevertheless.

* `Node.savesUnder`: the nodes that save under a key;
* `Flow.ChecksKey`: all of them are e-mail nodes that check their answers;
* `State.HasAddress`: what a state has under a key, if anything, is an address;
* `Service.turn_hasAddress`: every turn keeps it;
* `Chat.run_hasAddress`: hence it holds of all that a chat stores.
-/

namespace Dialogue

open Text

/-- Whether an answer to a node may be kept under a key. An e-mail node without a name saves under
`email`; other nodes without a name keep nothing, and ends take no answers. -/
def Node.savesUnder (n : Node) (key : String) : Bool :=
  match n.body with
  | .question _ saveAs => decide (given saveAs = some key)
  | .email _ saveAs _ _ => decide ((given (some saveAs)).getD "email" = key)
  | .start _ | .message _ => decide (key ≠ "" ∧ n.extras.get? "save_as" = some (.str key))
  | .ending => false

/-- Every node that saves under a key is an e-mail node that checks its answers. -/
def Flow.ChecksKey (f : Flow) (key : String) : Prop :=
  ∀ id n, f.node? id = some n → n.savesUnder key = true → n.kind = .email ∧ n.checksEmail = true

/-- An address as it is stored: it passes the check, and has neither outer nor any other blanks,
and one `@`. -/
structure IsAddress (v : String) : Prop where
  valid : checkEmail v = none
  stripped : stripString v = v
  noBlank : ∀ c ∈ v.toList, isBlank c = false
  oneAt : v.toList.count '@' = 1

/-- What a state has under a key, if anything, is an address. -/
def State.HasAddress (key : String) (state : State) : Prop :=
  ∀ v, state.data.get? key = some v → IsAddress v

/-! ### Answers -/

/-- What is kept of an answer that passes the check is an address. -/
theorem isAddress_stripString {answer : String} (h : checkEmail answer = none) :
    IsAddress (stripString answer) := by
  have hs : isEmail (strip answer.toList) = true := checkEmail_eq_none_iff.1 h
  obtain ⟨hblank, hat, -⟩ := isEmail_iff.1 hs
  have hlist : (stripString answer).toList = strip answer.toList := String.toList_ofList
  refine ⟨(checkEmail_stripString answer).2 h, stripString_stripString answer, ?_, ?_⟩
  · rw [hlist]
    exact hblank
  · rw [hlist]
    exact hat

theorem Slot.ofEntry_eq_name {j : Json} {key : String} :
    Slot.ofEntry j = .name key ↔ key ≠ "" ∧ j = .str key := by
  unfold Slot.ofEntry
  split_ifs with ht
  · cases j with
    | str s =>
      have hs : s ≠ "" := by simpa [Json.truthy] using ht
      constructor
      · rintro ⟨⟩
        exact ⟨hs, rfl⟩
      · rintro ⟨-, ⟨⟩⟩
        rfl
    | _ => simp
  · constructor
    · simp
    · rintro ⟨hk, rfl⟩
      simp [Json.truthy, hk] at ht

/-- The slot of a node that takes an answer has no other keys. -/
theorem Node.savesUnder_of_slot {n : Node} {key answer target : String}
    (ht : n.target? answer = some target) (hs : n.slot = .name key) : n.savesUnder key = true := by
  unfold target? at ht
  unfold slot at hs
  unfold savesUnder
  cases hb : n.body with
  | question routes saveAs =>
    simp only [hb, Slot.ofName?] at hs
    cases hg : given saveAs <;> simp_all
  | email validates saveAs errorMessage next => simpa [hb] using hs
  | start next | message next =>
    simp only [hb] at hs
    cases he : n.extras.get? "save_as" <;> simp_all [Slot.ofEntry_eq_name]
  | ending => simp [hb] at ht

/-- Under a key that is checked, what is kept of an answer that a node takes is an address. -/
theorem Flow.ChecksKey.isAddress {f : Flow} {key : String} (h : f.ChecksKey key) {id : String}
    {n : Node} (hn : f.node? id = some n) {answer target : String}
    (ha : n.rejects answer = false) (ht : n.target? answer = some target)
    (hs : n.slot = .name key) : IsAddress (stripString answer) := by
  obtain ⟨-, hc⟩ := h id n hn (Node.savesUnder_of_slot ht hs)
  refine isAddress_stripString ?_
  by_contra hv
  rw [Node.rejects_eq_true.2 ⟨hc, hv⟩] at ha
  cases ha

/-! ### Turns -/

namespace State.HasAddress

variable {key : String} {state : State}

theorem of_data_empty {stepId : Option String} {isComplete : Bool} :
    HasAddress key ⟨stepId, isComplete, .empty⟩ := by
  intro v hv
  cases hv

/-- A state keeps what it has when it is given one more answer, if what is given to it under the
key is an address. -/
theorem merge (h : state.HasAddress key) {answer : String} {slot : Slot}
    {captured : Assoc String String} (hc : slot.capture? answer = some captured)
    (hk : slot = .name key → IsAddress (stripString answer)) {stepId : Option String}
    {isComplete : Bool} : HasAddress key ⟨stepId, isComplete, state.data.merge captured⟩ := by
  cases slot with
  | nothing =>
    cases hc
    exact h
  | name key' =>
    cases hc
    intro v hv
    have hv : (state.data.insert key' (stripString answer)).get? key = some v := hv
    rw [Assoc.get?_insert] at hv
    split_ifs at hv with hkey
    · cases hv
      exact hk (hkey ▸ rfl)
    · exact h v hv
  | scalar | compound => cases hc

/-- Every reply keeps it. -/
theorem replyTurn {s : Service} {e : Engine} (hf : e.flow.ChecksKey key)
    (h : state.HasAddress key) {message : Option String} {r : Reply}
    (hr : (e.process state.cursor message).outcome = .ok r) {next : State}
    (hs : (s.replyTurn state r).state = some next) : next.HasAddress key := by
  obtain ⟨id, n, -, hn, hr⟩ := Engine.process_eq_ok.1 hr
  rcases Engine.reply_eq_ok.1 hr with
    ⟨reason, text, options, -, rfl⟩ | ⟨target, captured, ha, ht, hc, rfl⟩
  · -- asked again: the answers are kept
    cases hs
    exact h
  · cases hs
    exact h.merge hc (hf.isAddress hn ha ht)

end State.HasAddress

namespace Service

variable {s : Service} {f : Flow} {held : Option State} {message trigger : Option String}
  {turn : Turn} {key : String}

/-- A turn of a flow keeps what is an address under a key that the flow checks. -/
theorem turn_hasAddress (hf : f.ChecksKey key)
    (hheld : ∀ state, held = some state → state.HasAddress key)
    (ht : (s.run f held message trigger).outcome = .ok turn) {next : State}
    (hs : turn.state = some next) : next.HasAddress key := by
  rcases run_stores ht hs with ⟨e, x, -, -, rfl⟩ | ⟨e, state, r, hb, hst, hr, hs⟩
  · exact .of_data_empty
  · obtain rfl := Engine.build_eq_ok hb
    exact (hheld state (held_of_continued hst)).replyTurn hf hr hs

end Service

namespace Chat

variable {s : Service} {f : Flow} {key : String}

/-- Every turn keeps it; nothing is promised of outcomes. -/
theorem upholds_hasAddress (s : Service) (hf : f.ChecksKey key) :
    Upholds s f (State.HasAddress key) fun _ _ => True where
  quiet := fun _ _ => trivial
  promises := fun _ _ _ _ _ => trivial
  keeps := by
    intro held message trigger hheld _ turn state ht
    exact Service.turn_hasAddress hf hheld ht

/-- **Checked keys only hold addresses.** If every node of a flow that saves under a key is an
e-mail node that checks its answers, then in a chat with it that starts with nothing stored, every
stored state has nothing under the key, or an address without blanks. -/
theorem run_hasAddress (hf : f.ChecksKey key) (calls : List Call)
    (hcalls : ∀ call ∈ calls, call.IsOn f) :
    ∀ x ∈ run s (.initial .nothing) calls, ∀ state, x.2.stored = .state state →
      ∀ v, state.data.get? key = some v → IsAddress v := by
  intro x hx state hst
  have hnothing : (initial .nothing).stored.Keeps (State.HasAddress key) := trivial
  have h := ((upholds_hasAddress s hf).run hcalls hnothing x hx).1
  rw [hst] at h
  exact h

/-- The theorem for a chat in which what is no address is refused, an address with outer blanks is
taken, and the flow is started again. -/
theorem run_hasAddress_helpdesk :
    let calls := [Call.say (.helpdesk "bye") "hi" none, .say (.helpdesk "bye") "yes" none,
      .say (.helpdesk "bye") "no address" none, .say (.helpdesk "bye") " a@b.co " none,
      .say (.helpdesk "bye") "hi" "init_flow"]
    (Flow.helpdesk "bye").ChecksKey "email" ∧ (∀ call ∈ calls, call.IsOn (.helpdesk "bye")) ∧
    ∀ x ∈ run (.make none none none) (.initial .nothing) calls, ∀ state,
      x.2.stored = .state state → ∀ v, state.data.get? "email" = some v → IsAddress v := by
  intro calls
  have hf : (Flow.helpdesk "bye").ChecksKey "email" := by
    have hnodes : ∀ e ∈ (Flow.helpdesk "bye").nodes.toList,
        e.2.savesUnder "email" = true → e.2.kind = .email ∧ e.2.checksEmail = true := by
      decide +kernel
    intro id n hn
    exact hnodes (id, n) (Assoc.mem_toList_iff.2 (Flow.node?_eq_some.1 hn).2)
  have hcalls : ∀ call ∈ calls, call.IsOn (.helpdesk "bye") := by simp [calls, Call.say_isOn]
  exact ⟨hf, hcalls, run_hasAddress hf calls hcalls⟩

end Chat

end Dialogue
