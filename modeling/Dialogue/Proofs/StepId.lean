import Dialogue.Proofs.Rest
import Dialogue.Proofs.Storage

/-!
# What an engine reads of a position

A caller may tell an engine where a conversation is paused by a cursor, by a stored state, or by the
record of either with keys of any style. Only the step id counts: what has been captured, whether the
flow has ended, and what else a record holds make no difference to the reply.

* `Field.default_of_not_written`: what a field is if no entry of a record is written under its keys;
* `Cursor.Widens`: a table with the entries of another one, and with further entries only under keys
  that a cursor is not read from;
* `Cursor.read_record`, `Cursor.read_state_record`: a cursor is read from its own record and from that
  of a state;
* `Position.Tells`: the forms of a position at a step id;
* `Position.Tells.exists_cursor?`: each of them stands for a cursor at this step id;
* `Engine.processAt_eq_of_tells`: hence the reply is the same for all of them.
-/

namespace Dialogue

/-! ### Fields of wider records -/

namespace Field

variable {α : Type} {fd : Field} {absent : α} {read : Json → Checked α}

/-- A field is absent from a record if no entry is written under its keys. -/
theorem default_of_not_written {style : KeyStyle} {l : List (Field × Json)}
    (h : ∀ g ∈ l.map Prod.fst, g.key style ≠ fd.camel ∧ g.key style ≠ fd.snake)
    (hl : ((l.map Prod.fst).map (key · style)).Nodup) :
    fd.default absent read (.ofList (styledEntries style l)) = .valid absent := by
  have hn : ((styledEntries style l).map Prod.fst).Nodup := by
    simpa [styledEntries, Function.comp_def] using hl
  have hget : ∀ k, (∀ g ∈ l.map Prod.fst, g.key style ≠ k) →
      (Assoc.ofList (styledEntries style l)).get? k = none := by
    intro k hk
    rw [Assoc.get?_eq_none, Assoc.keys, Assoc.toList_ofList hn]
    intro hm
    obtain ⟨e, he, rfl⟩ := List.mem_map.1 hm
    obtain ⟨x, hx, rfl⟩ := List.mem_map.1 he
    exact hk x.1 (List.mem_map_of_mem hx) rfl
  exact default_of_none (hget _ fun g hg => (h g hg).1) (hget _ fun g hg => (h g hg).2)

end Field

namespace Cursor

/-- The fields of a cursor. -/
def fields : List Field := [stepField, capturedField]

/-- The keys that a cursor is read from. -/
def keys : List String := fields.flatMap fun fd => [fd.camel, fd.snake]

/-- A table with the entries of another one, and with further entries only under keys that a cursor
is not read from. -/
structure Widens (t u : Assoc String Json) : Prop where
  keeps : ∀ k v, t.get? k = some v → u.get? k = some v
  further : ∀ k ∈ keys, t.get? k = none → u.get? k = none

theorem Widens.get?_eq {t u : Assoc String Json} (h : Widens t u) {k : String} (hk : k ∈ keys) :
    u.get? k = t.get? k := by
  cases ht : t.get? k with
  | none => exact h.further k hk ht
  | some v => exact h.keeps k v ht

/-- A field of a cursor is read from a wider table as from the table itself. -/
theorem Widens.default_eq {α : Type} {t u : Assoc String Json} (h : Widens t u) {fd : Field}
    (hf : fd ∈ fields) (absent : α) (read : Json → Checked α) :
    fd.default absent read u = fd.default absent read t := by
  have hkeys : fd.camel ∈ keys ∧ fd.snake ∈ keys := by
    constructor <;> exact List.mem_flatMap.2 ⟨fd, hf, by simp⟩
  exact Field.default_congr (h.get?_eq hkeys.1) (h.get?_eq hkeys.2)

/-- A cursor is read from a wider object as from the object itself. -/
theorem read_of_widens {r j : Json} {t u : Assoc String Json} (hr : r.entries? = some t)
    (hj : j.entries? = some u) (h : Widens t u) : Cursor.read j = Cursor.read r := by
  have hstep : stepField ∈ fields := by decide
  have hcaptured : capturedField ∈ fields := by decide
  unfold Cursor.read readRecord Field.optional
  rw [hr, hj]
  dsimp only
  rw [h.default_eq hstep, h.default_eq hcaptured]

/-! ### Cursors read from records -/

/-- The fields of a cursor, with their values. -/
def entries (c : Cursor) : List (Field × Json) :=
  [(stepField, .ofString? c.stepId), (capturedField, stringTable c.captured)]

theorem nodup_keys_fields (style : KeyStyle) : (fields.map (Field.key · style)).Nodup := by
  cases style <;> decide

theorem eq_of_key_eq_camel (style : KeyStyle) :
    ∀ fd ∈ fields, ∀ g ∈ fields, g.key style = fd.camel → g = fd := by
  cases style <;> decide

/-- A cursor is read from an object field by field. -/
theorem read_object (l : List (String × Json)) : Cursor.read (.object l) = Cursor.mk <$>
    stepField.optional readString (.ofList l)
      <*> capturedField.default .empty readStringTable (.ofList l) := by
  rw [Cursor.read, readRecord, Json.entries?_object]

/-- A written cursor is read back. -/
theorem read_record (style : KeyStyle) (c : Cursor) : Cursor.read (c.record style) = .valid c := by
  have hc : c.record style = .object (styledEntries style c.entries) := rfl
  have hfield : ∀ {α : Type} {fd : Field} {v : Json}, (fd, v) ∈ c.entries →
      ∀ (absent : α) (read : Json → Checked α),
        fd.default absent read (.ofList (styledEntries style c.entries)) =
          (read v).under (.key (fd.key style)) := by
    intro α fd v hm absent read
    have hfd : fd ∈ fields := List.mem_map_of_mem (f := Prod.fst) hm
    exact Field.default_of_styledEntries (nodup_keys_fields style)
      (eq_of_key_eq_camel style fd hfd) hm
  have hstep : (stepField, Json.ofString? c.stepId) ∈ c.entries := by simp [entries]
  have hcaptured : (capturedField, stringTable c.captured) ∈ c.entries := by simp [entries]
  rw [hc, read_object, Field.optional, hfield hstep, hfield hcaptured, readOptional_ofString?,
    readStringTable_stringTable]
  rfl

/-- From a written state a cursor is read that has captured nothing: a state keeps its data under a
key of its own. -/
theorem read_state_record (style : KeyStyle) (x : State) :
    Cursor.read (x.record style) = .valid ⟨x.stepId, .empty⟩ := by
  have hx : x.record style = .object (styledEntries style x.entries) := rfl
  have hstep : (stepField, Json.ofString? x.stepId) ∈ x.entries := by simp [State.entries]
  have hother : ∀ g ∈ State.fields,
      g.key style ≠ capturedField.camel ∧ g.key style ≠ capturedField.snake := by
    cases style <;> decide
  have hcaptured : capturedField.default .empty readStringTable
      (.ofList (styledEntries style x.entries)) = .valid .empty :=
    Field.default_of_not_written (l := x.entries) hother (State.nodup_keys_fields style)
  rw [hx, read_object, hcaptured, Field.optional, State.default_of_mem_entries style hstep,
    readOptional_ofString?]
  rfl

end Cursor

/-! ### Positions at a step id -/

/-- The forms of a position at a step id: none, or null, if the id is null; a cursor or a state with
the id; and the record of either, which may be widened. -/
inductive Position.Tells (stepId : Option String) : Position → Prop
  | nowhere (h : stepId = none) : Tells stepId .nowhere
  | null (h : stepId = none) : Tells stepId (.json .null)
  | cursor (captured : Assoc String String) : Tells stepId (.cursor ⟨stepId, captured⟩)
  | state (isComplete : Bool) (data : Assoc String String) :
      Tells stepId (.state ⟨stepId, isComplete, data⟩)
  | cursorRecord {j : Json} {t u : Assoc String Json} (style : KeyStyle)
      (captured : Assoc String String)
      (ht : (Cursor.record style ⟨stepId, captured⟩).entries? = some t)
      (hu : j.entries? = some u) (h : Cursor.Widens t u) : Tells stepId (.json j)
  | stateRecord {j : Json} {t u : Assoc String Json} (style : KeyStyle) (isComplete : Bool)
      (data : Assoc String String)
      (ht : (State.record style ⟨stepId, isComplete, data⟩).entries? = some t)
      (hu : j.entries? = some u) (h : Cursor.Widens t u) : Tells stepId (.json j)

/-- Every form of a position stands for a cursor at its step id. -/
theorem Position.Tells.exists_cursor? {stepId : Option String} {p : Position}
    (h : p.Tells stepId) : ∃ captured, p.cursor? = .ok ⟨stepId, captured⟩ := by
  cases h with
  | nowhere h | null h =>
    subst h
    exact ⟨.empty, rfl⟩
  | cursor captured => exact ⟨captured, rfl⟩
  | state isComplete data => exact ⟨data, rfl⟩
  | cursorRecord style captured ht hu h =>
    refine ⟨captured, ?_⟩
    rw [cursor?_json (Json.ne_null_of_entries? hu), Cursor.read_of_widens ht hu h,
      Cursor.read_record]
    rfl
  | stateRecord style isComplete data ht hu h =>
    refine ⟨.empty, ?_⟩
    rw [cursor?_json (Json.ne_null_of_entries? hu), Cursor.read_of_widens ht hu h,
      Cursor.read_state_record]
    rfl

namespace Engine

variable {e : Engine} {stepId : Option String} {p q : Position}

/-- A reply does not depend on what the cursor has captured. -/
theorem process_congr {c c' : Cursor} (h : c'.stepId = c.stepId) (answer : Option String) :
    e.process c' answer = e.process c answer := by
  unfold process positionId
  rw [h]

/-- **Only the step id of a position counts.** In whatever form a caller tells where a conversation
is paused, the reply to an answer and what is noted on the way to it are the same for all positions
at one step id, and for no position at all if the id is null. -/
theorem processAt_eq_of_tells (hp : p.Tells stepId) (hq : q.Tells stepId)
    (answer : Option String) : e.processAt p answer = e.processAt q answer := by
  obtain ⟨captured, hp⟩ := hp.exists_cursor?
  obtain ⟨captured', hq⟩ := hq.exists_cursor?
  unfold processAt
  rw [hp, hq]
  exact process_congr rfl answer

/-- The theorem for a cursor at an e-mail node and the record of a state that is over, has other
data and is kept with a note. -/
theorem processAt_eq_of_tells_helpdesk :
    let e : Engine := ⟨.helpdesk "bye", 20, rfl, by decide⟩
    let p : Position := .cursor ⟨"mail", .empty⟩
    let q : Position := .json (.object [("note", .str "Call back."), ("current_step_id", .str "mail"),
      ("is_complete", .bool true), ("data", .object [("email", .str "a@b.co")])])
    p.Tells "mail" ∧ q.Tells "mail" ∧
      ∀ answer, e.processAt p answer = e.processAt q answer := by
  intro e p q
  have hp : p.Tells "mail" := .cursor _
  have hq : q.Tells "mail" := by
    refine .stateRecord .snake true (.ofList [("email", "a@b.co")]) rfl rfl ⟨?_, by decide⟩
    intro k v hk
    rw [← Assoc.mem_toList_iff] at hk ⊢
    exact List.mem_cons_of_mem _ hk
  exact ⟨hp, hq, processAt_eq_of_tells hp hq⟩

end Engine

end Dialogue
