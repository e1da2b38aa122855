import Dialogue.Proofs.Lifecycle

/-!
# Storing states as JSON

A caller may store a state as it is, or as JSON with keys of either style. The service reads back
what was written, and so it makes no difference to a conversation.

* `Field.default_of_styledEntries`: a field is read from a record that is written in one style;
* `State.read_record`: a written state is read back;
* `Chat.Alike`: chats that keep the same, though the state may be stored in different forms;
* `Chat.step_alike`: a call comes to the same in such chats;
* `Chat.runWritten`: a list of calls, where each state is written before the next call;
* `Chat.runWritten_alike`: it comes to the same as with states that are stored as they are, and
  no turn reports a state that cannot be read.
-/

namespace Dialogue

/-! ### Reading back what was written -/

/-- The entries of a record, with keys of one style. -/
def styledEntries (style : KeyStyle) (l : List (Field × Json)) : List (String × Json) :=
  l.map fun e => (e.1.key style, e.2)

/-- A field is read from a record that is written in one style, if the keys differ and no other
field is written under the key that is looked up first. -/
theorem Field.default_of_styledEntries {α : Type} {style : KeyStyle} {l : List (Field × Json)}
    {fd : Field} {v : Json} {absent : α} {read : Json → Checked α}
    (hl : ((l.map Prod.fst).map (key · style)).Nodup)
    (hfirst : ∀ g ∈ l.map Prod.fst, g.key style = fd.camel → g = fd) (hm : (fd, v) ∈ l) :
    fd.default absent read (.ofList (styledEntries style l)) =
      (read v).under (.key (fd.key style)) := by
  have hn : ((styledEntries style l).map Prod.fst).Nodup := by
    simpa [styledEntries, Function.comp_def] using hl
  have hget : ∀ k w, (Assoc.ofList (styledEntries style l)).get? k = some w ↔
      ∃ e ∈ l, e.1.key style = k ∧ e.2 = w := by
    intro k w
    rw [← Assoc.mem_toList_iff, Assoc.toList_ofList hn]
    simp [styledEntries]
  have hv := (hget (fd.key style) v).2 ⟨(fd, v), hm, rfl, rfl⟩
  cases style with
  | camel => exact default_of_camel hv
  | snake =>
    by_cases hk : fd.snake = fd.camel
    · show _ = (read v).under (.key fd.snake)
      rw [hk]
      exact default_of_camel (hk ▸ hv)
    · -- only the field itself could be found under its first key, but it is written under the other
      have hc : (Assoc.ofList (styledEntries .snake l)).get? fd.camel = none := by
        rw [Option.eq_none_iff_forall_ne_some]
        intro w hw
        obtain ⟨e, he, hke, -⟩ := (hget fd.camel w).1 hw
        have hfd := hfirst e.1 (List.mem_map_of_mem he) hke
        rw [hfd] at hke
        exact hk hke
      exact default_of_snake hc hv

/-- A written text that may be absent is read back. -/
theorem readOptional_ofString? (value : Option String) :
    readOptional readString (.ofString? value) = .valid value := by
  cases value <;> rfl

/-- A written table is read back. -/
theorem readStringTable_stringTable (t : Assoc String String) :
    readStringTable (stringTable t) = .valid t := by
  refine readTable_eq_valid.2 ⟨t.mapValues .str, Json.entries?_toList (t.mapValues .str), ?_⟩
  rw [Assoc.toList_mapValues, List.forall₂_map_left_iff]
  exact List.forall₂_same.2 fun x _ => ⟨rfl, rfl⟩

namespace State

/-- The fields of a state. -/
def fields : List Field := [stepField, completeField, dataField]

/-- The fields of a state, with their values. -/
def entries (x : State) : List (Field × Json) :=
  [(stepField, .ofString? x.stepId), (completeField, .bool x.isComplete),
    (dataField, stringTable x.data)]

theorem nodup_keys_fields (style : KeyStyle) : (fields.map (Field.key · style)).Nodup := by
  cases style <;> decide

theorem eq_of_key_eq_camel (style : KeyStyle) :
    ∀ fd ∈ fields, ∀ g ∈ fields, g.key style = fd.camel → g = fd := by
  cases style <;> decide

/-- Every field of a written state is read from it. -/
theorem default_of_mem_entries {α : Type} (style : KeyStyle) {x : State} {fd : Field} {v : Json}
    (hm : (fd, v) ∈ x.entries) (absent : α) (read : Json → Checked α) :
    fd.default absent read (.ofList (styledEntries style x.entries)) =
      (read v).under (.key (fd.key style)) := by
  have hfields : x.entries.map Prod.fst = fields := rfl
  have hfd : fd ∈ fields := hfields ▸ List.mem_map_of_mem hm
  exact Field.default_of_styledEntries (nodup_keys_fields style)
    (eq_of_key_eq_camel style fd hfd) hm

/-- A written state is read back. -/
theorem read_record (style : KeyStyle) (x : State) : State.read (x.record style) = .valid x := by
  have hstep : (stepField, Json.ofString? x.stepId) ∈ x.entries := by simp [entries]
  have hcomplete : (completeField, Json.bool x.isComplete) ∈ x.entries := by simp [entries]
  have hdata : (dataField, stringTable x.data) ∈ x.entries := by simp [entries]
  have hread : State.read (x.record style) = State.mk <$>
      stepField.optional readString (.ofList (styledEntries style x.entries))
        <*> completeField.default false readBool (.ofList (styledEntries style x.entries))
        <*> dataField.default .empty readStringTable (.ofList (styledEntries style x.entries)) := by
    have hx : x.record style = .object (styledEntries style x.entries) := rfl
    rw [hx, State.read, readRecord, Json.entries?_object]
  rw [hread, Field.optional, default_of_mem_entries style hstep,
    default_of_mem_entries style hcomplete, default_of_mem_entries style hdata,
    readOptional_ofString?, readStringTable_stringTable]
  rfl

end State

/-! ### Stored forms -/

namespace Stored

/-- What is stored, with a state written as JSON. -/
def written (style : KeyStyle) : Stored → Stored
  | .nothing => .nothing
  | .state x => .json (x.record style)
  | .json j => .json j

/-- What was written is read as before. -/
theorem read_written (style : KeyStyle) (stored : Stored) :
    (stored.written style).read = stored.read := by
  cases stored with
  | nothing | json j => rfl
  | state x =>
    show some <$> State.read (x.record style) = .valid (some x)
    rw [State.read_record]
    rfl

/-- What can be read beforehand depends on how it is read. -/
theorem typed?_eq (stored : Stored) :
    stored.typed? = match stored.read with
      | .valid none => Stored.typed? .nothing
      | .valid (some x) => .ok (.state x)
      | .invalid p ps => .error (.malformed .state p ps) := by
  cases stored with
  | nothing | state x => rfl
  | json j =>
    by_cases hj : j = .null
    · -- null is no state: it fails as nothing does
      subst hj
      rfl
    · rw [read_json hj]
      show state <$> Position.ofChecked .state (State.read j) = match some <$> State.read j with
        | .valid none => Stored.typed? .nothing
        | .valid (some x) => .ok (.state x)
        | .invalid p ps => .error (.malformed .state p ps)
      cases State.read j <;> rfl

end Stored

namespace Service

variable {s : Service} {document : Option Document} {stored stored' : Stored}
  {message trigger : Option String} {count : Int} {depth : Nat} {turn : Turn}

/-- No failure is reported as a state that cannot be read. -/
theorem reported?_ne_invalid_state (failure : Failure) :
    failure.reported? ≠ some "invalid_state" := by
  unfold Failure.reported?
  split_ifs
  · decide
  · cases failure <;> simp [Failure.flowKind?]

/-- If what is stored can be read, then no turn reports that it cannot. -/
theorem handle_error_ne_of_isReadable (hr : stored.isReadable = true)
    (ht : (s.handle document stored message trigger count depth).outcome = .ok turn) :
    turn.error ≠ some "invalid_state" := by
  intro herror
  rcases s.handle_cases document stored message trigger count depth with
    ⟨-, hh⟩ | ⟨d, fault, -, -, hh⟩ | ⟨d, f, -, -, hh⟩
  · rw [hh] at ht
    cases ht
    cases herror
  · rw [hh] at ht
    obtain ⟨-, rfl⟩ := unusable_eq_ok.1 ht
    revert herror
    decide
  · rw [hh] at ht
    obtain ⟨-, ⟨⟨p, ps, hi⟩, -⟩ | ⟨_, -, -, failure, -, hk⟩⟩ :=
      handleFlow_error_eq_some.1 ⟨turn, ht, herror⟩
    · simp [Stored.isReadable, hi, Checked.value?] at hr
    · exact reported?_ne_invalid_state failure hk

end Service

/-! ### Chats with different forms -/

namespace Chat

variable {s : Service} {c c' : Chat} {call : Call}

/-- Chats that keep the same, though the state may be stored in different forms. -/
structure Alike (c c' : Chat) : Prop where
  stored : c'.stored.read = c.stored.read
  messageCount : c'.messageCount = c.messageCount
  tally : c'.tally = c.tally
  unread : c'.unread = c.unread

theorem Alike.refl (c : Chat) : c.Alike c := ⟨rfl, rfl, rfl, rfl⟩

/-- What is kept, with a state written as JSON. -/
def written (style : KeyStyle) (c : Chat) : Chat := { c with stored := c.stored.written style }

theorem Alike.written (h : c.Alike c') (style : KeyStyle) : c.Alike (c'.written style) :=
  ⟨(c'.stored.read_written style).trans h.stored, h.messageCount, h.tally, h.unread⟩

theorem handling_congr {stored stored' : Stored} (h : stored'.read = stored.read) (count : Int)
    (call : Call) : handling s stored' count call = handling s stored count call := by
  unfold handling
  rw [stored'.typed?_eq, stored.typed?_eq, h]
  cases call.prepared with
  | error failure => rfl
  | ok document =>
    cases call.typed with
    | true => rfl
    | false => exact s.handle_congr h _ _ _ _ _

theorem read_storedAfter_congr {stored stored' : Stored} (h : stored'.read = stored.read)
    (outcome : Except Failure Turn) :
    (storedAfter stored' outcome).read = (storedAfter stored outcome).read := by
  cases outcome with
  | error failure => exact h
  | ok turn =>
    dsimp only [storedAfter]
    cases turn.state with
    | none => exact h
    | some x => rfl

/-- A call comes to the same in chats that keep the same. -/
theorem step_alike (h : c.Alike c') (call : Call) :
    (step s c' call).1 = (step s c call).1 ∧ (step s c call).2.Alike (step s c' call).2 := by
  have hstored : (call.stored.getD c'.stored).read = (call.stored.getD c.stored).read := by
    cases call.stored with
    | none => exact h.stored
    | some stored => rfl
  have hhandling := handling_congr (s := s) hstored (call.messageCount.getD c.messageCount) call
  unfold step
  simp only [h.messageCount, h.tally, h.unread, hhandling]
  exact ⟨trivial, read_storedAfter_congr hstored _, rfl, rfl, rfl⟩

/-- What is readable stays so after a turn. -/
theorem isReadable_storedAfter {stored : Stored} (h : stored.isReadable = true)
    (outcome : Except Failure Turn) : (storedAfter stored outcome).isReadable = true := by
  cases outcome with
  | error failure => exact h
  | ok turn =>
    dsimp only [storedAfter]
    cases turn.state with
    | none => exact h
    | some x => rfl

/-- A call leaves what is stored readable, and does not report that it cannot be read. -/
theorem step_isReadable (hcall : call.stored = none) (hc : c.stored.isReadable = true) :
    (step s c call).2.stored.isReadable = true ∧
      ∀ turn, (step s c call).1.outcome = .ok turn → turn.error ≠ some "invalid_state" := by
  dsimp only [step]
  rw [hcall, Option.getD_none]
  refine ⟨isReadable_storedAfter hc _, fun turn ht => ?_⟩
  rcases handling_eq_handle s c.stored (call.messageCount.getD c.messageCount) call with
    ⟨document, -, hh⟩ | ⟨failure, hh⟩
  · rw [hh] at ht
    exact Service.handle_error_ne_of_isReadable hc ht
  · rw [hh] at ht
    cases ht

/-- A list of calls, each with the style in which the state is written after it: what comes of
each, and what is kept after it. -/
def runWritten (s : Service) (c : Chat) : List (Call × KeyStyle) → List (Handling × Chat)
  | [] => []
  | (call, style) :: rest =>
    let x := step s c call
    (x.1, x.2.written style) :: runWritten s (x.2.written style) rest

/-- In chats that keep the same all calls come to the same, whether states are written or not. -/
theorem run_alike (h : c.Alike c') (calls : List (Call × KeyStyle)) :
    List.Forall₂ (fun x y => y.1 = x.1 ∧ x.2.Alike y.2) (run s c (calls.map Prod.fst))
      (runWritten s c' calls) := by
  induction calls generalizing c c' with
  | nil => exact .nil
  | cons x rest ih =>
    obtain ⟨call, style⟩ := x
    obtain ⟨hhandling, hkept⟩ := step_alike (s := s) h call
    exact .cons ⟨hhandling, hkept.written style⟩ (ih (hkept.written style))

/-- If what is stored can be read, then no later turn reports that it cannot. -/
theorem runWritten_readable (hc : c.stored.isReadable = true) (calls : List (Call × KeyStyle))
    (hcalls : ∀ x ∈ calls, x.1.stored = none) :
    ∀ y ∈ runWritten s c calls, ∀ turn, y.1.outcome = .ok turn →
      turn.error ≠ some "invalid_state" := by
  induction calls generalizing c with
  | nil => simp [runWritten]
  | cons x rest ih =>
    obtain ⟨call, style⟩ := x
    obtain ⟨hcall, hrest⟩ := List.forall_mem_cons.1 hcalls
    obtain ⟨hreadable, hturn⟩ := step_isReadable (s := s) hcall hc
    have hwritten : ((step s c call).2.written style).stored.isReadable = true := by
      rw [Stored.isReadable, written, Stored.read_written]
      exact hreadable
    exact List.forall_mem_cons.2 ⟨hturn, ih hwritten hrest⟩

/-- **Storing states as JSON changes nothing.** Let a conversation begin with nothing stored, or
with what can be read, and go on with what the calls store. If each state is written as JSON after
its call, with keys of any style, then every call comes to the same as with states that are stored
as they are, and the same is kept after it. No turn reports a state that cannot be read. -/
theorem runWritten_alike (hc : c.stored.isReadable = true) (calls : List (Call × KeyStyle))
    (hcalls : ∀ x ∈ calls, x.1.stored = none) :
    List.Forall₂ (fun x y => y.1 = x.1 ∧ x.2.Alike y.2) (run s c (calls.map Prod.fst))
        (runWritten s c calls) ∧
      ∀ y ∈ runWritten s c calls, ∀ turn, y.1.outcome = .ok turn →
        turn.error ≠ some "invalid_state" :=
  ⟨run_alike (.refl c) calls, runWritten_readable hc calls hcalls⟩

/-- The theorem for a conversation whose states are written in both styles. -/
theorem runWritten_alike_helpdesk :
    let s := Service.make none none none
    let calls : List (Call × KeyStyle) := [(.say (.helpdesk "bye") "hi" none, .camel),
      (.say (.helpdesk "bye") "yes" none, .snake),
      (.say (.helpdesk "bye") "no address" none, .camel),
      (.say (.helpdesk "bye") "a@b.co" none, .snake)]
    (initial .nothing).stored.isReadable = true ∧ (∀ x ∈ calls, x.1.stored = none) ∧
    List.Forall₂ (fun x y => y.1 = x.1 ∧ x.2.Alike y.2)
        (run s (initial .nothing) (calls.map Prod.fst)) (runWritten s (initial .nothing) calls) ∧
      ∀ y ∈ runWritten s (initial .nothing) calls, ∀ turn, y.1.outcome = .ok turn →
        turn.error ≠ some "invalid_state" := by
  intro s calls
  have hcalls : ∀ x ∈ calls, x.1.stored = none := by simp [calls, Call.say]
  exact ⟨rfl, hcalls, runWritten_alike rfl calls hcalls⟩

end Chat

end Dialogue
