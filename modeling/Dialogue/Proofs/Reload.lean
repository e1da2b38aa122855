import Dialogue.Proofs.Record

/-!
# Flows that are written and read again

* `Node.Tidy`: what holds of every node that was read from a document;
* `Node.table`: the entries that a node is written with;
* `Body.open?`: a field under two keys that is null, and so is not written. A further entry under
  its other key takes its place when the node is read again;
* `Node.KeepsShape`: such an entry is null or a text;
* `Node.reloaded`: the node that is read again;
* `Node.read_document`: exactly the nodes that keep their shape are read again, and so;
* `Flow.ofDocument_document`: the same for flows.
-/

namespace Dialogue

open Text

/-! ### Keys of fields -/

/-- The key under which a field is found. -/
theorem Field.find?_key {fd : Field} {o : Assoc String Json} {k : String} :
    (fd.find? o).map Prod.fst = some k ↔
      (o.get? fd.camel ≠ none ∧ fd.camel = k) ∨
        (o.get? fd.camel = none ∧ o.get? fd.snake ≠ none ∧ fd.snake = k) := by
  unfold find?
  cases o.get? fd.camel with
  | some v => simp
  | none => cases o.get? fd.snake <;> simp

/-- An entry is known exactly if its key is that of a field that is found under it. -/
theorem get?_unknownEntries {fields : List Field} {o : Assoc String Json} {k : String} :
    (unknownEntries fields o).get? k =
      (o.get? k).filter fun _ =>
        !(fields.filterMap fun fd => (fd.find? o).map Prod.fst).contains k := by
  rw [unknownEntries, Assoc.get?_filter]

/-- No entry under the first key of a field is unknown. -/
theorem get?_camel_unknownEntries {fields : List Field} {o : Assoc String Json} {fd : Field}
    (hf : fd ∈ fields) : (unknownEntries fields o).get? fd.camel = none := by
  rw [get?_unknownEntries]
  cases hv : o.get? fd.camel with
  | none => rfl
  | some v =>
    have hk : fd.camel ∈ fields.filterMap fun fd => (fd.find? o).map Prod.fst :=
      List.mem_filterMap.2 ⟨fd, hf, Field.find?_key.2 (.inl ⟨by simp [hv], rfl⟩)⟩
    have hc := List.contains_iff_mem.2 hk
    simp only [Option.filter, hc]
    rfl

namespace Node

variable {n : Node} {k : NodeKind} {o : Assoc String Json} {id : String}

/-! ### Nodes that were read -/

/-- What holds of every node that was read from a document: no further entry has the first key of
a field, the keys of the further entries are whole, and an e-mail address has a name. -/
structure Tidy (n : Node) : Prop where
  extras : ∀ fd ∈ fields n.kind, n.extras.get? fd.camel = none
  whole : n.extras.keys.all isWhole = true
  named : ∀ validates saveAs errorMessage next,
    n.body = .email validates saveAs errorMessage next → saveAs ≠ ""

theorem kind_of_body {body : Body} (h : n.body = body) : n.kind = body.kind := by rw [kind, h]

theorem kind_of_readBody {body : Body} (h : readBody k o = .valid body) : body.kind = k := by
  unfold readBody at h
  cases k <;> simp only [Checked.map_eq, Checked.seq_eq, Checked.ap_eq_valid,
    Checked.map_eq_valid, Checked.valid.injEq] at h
  · obtain ⟨next, -, rfl⟩ := h
    rfl
  · obtain ⟨next, -, rfl⟩ := h
    rfl
  · obtain ⟨_, saveAs, ⟨routes, -, rfl⟩, -, rfl⟩ := h
    rfl
  · obtain ⟨_, next, ⟨_, errorMessage, ⟨_, saveAs, ⟨validates, -, rfl⟩, -, rfl⟩, -, rfl⟩, -, rfl⟩ :=
      h
    rfl
  · subst h
    rfl

theorem readEmailKey_ne_empty {j : Json} {s : String} (h : readEmailKey j = .valid s) : s ≠ "" := by
  unfold readEmailKey at h
  split_ifs at h with ht
  · cases j <;> simp_all [readString, Json.truthy]
  · cases h
    decide

theorem named_of_readBody {validates : Bool} {saveAs : String} {errorMessage next : Option String}
    (h : readBody k o = .valid (.email validates saveAs errorMessage next)) : saveAs ≠ "" := by
  have hk := kind_of_readBody h
  subst hk
  simp only [readBody, Body.kind, Checked.map_eq, Checked.seq_eq, Checked.ap_eq_valid,
    Checked.map_eq_valid] at h
  obtain ⟨_, next', ⟨_, message', ⟨_, saveAs', ⟨validates', -, rfl⟩, hs, rfl⟩, -, rfl⟩, -, he⟩ := h
  cases he
  unfold Field.default at hs
  cases hf : saveAsField.find? o with
  | none =>
    rw [hf] at hs
    cases hs
    decide
  | some e =>
    rw [hf] at hs
    exact readEmailKey_ne_empty (Checked.under_eq_valid.1 hs)

theorem tidy_of_readKind (h : readKind k id o = .valid n) : n.id = id ∧ n.Tidy := by
  dsimp only [readKind] at h
  split_ifs at h with hw
  · simp only [Checked.map_eq, Checked.seq_eq, Checked.ap_eq_valid, Checked.map_eq_valid] at h
    obtain ⟨_, body, ⟨_, options, ⟨text, -, rfl⟩, -, rfl⟩, hb, rfl⟩ := h
    refine ⟨rfl, ?_, hw, ?_⟩
    · intro fd hf
      have hk : body.kind = k := kind_of_readBody hb
      exact get?_camel_unknownEntries (hk ▸ hf)
    · rintro validates saveAs errorMessage next rfl
      exact named_of_readBody hb
  · simp at h

/-- Every node that is read is tidy, and has the key it stands under as its id. -/
theorem tidy_of_read {j : Json} (h : read id j = .valid n) : n.id = id ∧ n.Tidy := by
  unfold read at h
  split at h
  · simp at h
  · split at h
    · simp at h
    · split at h
      · exact tidy_of_readKind (Checked.under_eq_valid.1 h)
      · simp at h
    · simp at h

/-! ### Written nodes -/

/-- The entries that a node is written with for its fields. -/
def written (n : Node) : List (String × Json) :=
  [(textField.camel, .str n.text), (optionsField.camel, .ofStrings n.options),
    (typeField.camel, .str n.kind.name)] ++ bodyDocument n.body

/-- The further entries that a node is written with. -/
def kept (n : Node) : Assoc String Json := n.extras.filter fun _ v => v != .null

/-- The entries that a node is written with. -/
def table (n : Node) : Assoc String Json := .ofList (n.written ++ n.kept.toList)

theorem entries?_document (n : Node) : n.document.entries? = some n.table :=
  Json.entries?_object _

/-- The fields of a node are written under their first keys, in order. -/
theorem keys_written_sublist (n : Node) :
    (n.written.map Prod.fst).Sublist ((fields n.kind).map Field.camel) := by
  unfold written kind
  cases n.body with
  | start next | message next => cases next <;> exact List.isSublist_iff_sublist.1 rfl
  | question routes saveAs => cases saveAs <;> exact List.isSublist_iff_sublist.1 rfl
  | email validates saveAs errorMessage next =>
    cases validates <;> cases errorMessage <;> cases next <;>
      exact List.isSublist_iff_sublist.1 rfl
  | ending => exact List.isSublist_iff_sublist.1 rfl

theorem nodup_camel (k : NodeKind) : ((fields k).map Field.camel).Nodup := by
  cases k <;> decide

theorem Tidy.get?_kept (h : n.Tidy) {fd : Field} (hf : fd ∈ fields n.kind) :
    n.kept.get? fd.camel = none := by
  rw [kept, Assoc.get?_filter, h.extras fd hf]
  rfl

theorem Tidy.toList_table (h : n.Tidy) : n.table.toList = n.written ++ n.kept.toList := by
  refine Assoc.toList_ofList ?_
  rw [List.map_append, List.nodup_append]
  refine ⟨n.keys_written_sublist.nodup (nodup_camel _), n.kept.nodup, ?_⟩
  -- no further entry has the key of a written field
  rintro _ hw k hk rfl
  obtain ⟨fd, hf, rfl⟩ := List.mem_map.1 (n.keys_written_sublist.subset hw)
  exact Assoc.get?_eq_none.1 (h.get?_kept hf) hk

theorem Tidy.get?_table (h : n.Tidy) (k : String) :
    n.table.get? k = (n.written.lookup k).or ((n.extras.get? k).filter (· != .null)) := by
  rw [Assoc.get?, h.toList_table, List.lookup_append]
  congr 1
  exact Assoc.get?_filter _ _ _

/-- A field is found under its first key if it is written. -/
theorem Tidy.get?_camel (h : n.Tidy) {fd : Field} (hf : fd ∈ fields n.kind) :
    n.table.get? fd.camel = n.written.lookup fd.camel := by
  rw [h.get?_table, h.extras fd hf, Option.filter_none, Option.or_none]

end Node

/-- The text that a value is, if it is one. -/
def Json.asText? : Json → Option String
  | .str s => some s
  | _ => none

/-- A field under two keys that is null, and so is not written. -/
def Body.open? : Body → Option Field
  | .question _ none => some Node.saveAsField
  | .email _ _ none _ => some Node.errorMessageField
  | _ => none

namespace Node

variable {n : Node} {k : NodeKind} {id : String}

theorem two_keys (k : NodeKind) : ∀ fd ∈ fields k, fd.snake ≠ fd.camel →
    (k = .question ∧ fd = saveAsField) ∨
      (k = .email ∧ (fd = saveAsField ∨ fd = errorMessageField)) := by
  cases k <;> decide

/-- The open field of a node is the one that has two keys and is not written. -/
theorem open?_eq_some {fd : Field} :
    n.body.open? = some fd ↔
      fd ∈ fields n.kind ∧ fd.snake ≠ fd.camel ∧ n.written.lookup fd.camel = none := by
  have two := two_keys n.body.kind fd
  unfold written kind
  generalize n.body = body at two ⊢
  cases body with
  | start next | message next | ending =>
    simp only [Body.kind, reduceCtorEq, false_and, or_false] at two
    simp only [Body.open?, reduceCtorEq, false_iff]
    exact fun h => two h.1 h.2.1
  | question routes saveAs =>
    simp only [Body.kind, true_and, reduceCtorEq, false_and, or_false] at two
    cases saveAs with
    | none =>
      refine ⟨?_, fun h => by rw [two h.1 h.2.1]; rfl⟩
      rintro ⟨⟩
      exact ⟨by simp [fields, Body.kind], by decide, rfl⟩
    | some s =>
      simp only [Body.open?, reduceCtorEq, false_iff]
      rintro ⟨hf, hs, hl⟩
      rw [two hf hs] at hl
      cases hl
  | email validates saveAs errorMessage next =>
    simp only [Body.kind, true_and, reduceCtorEq, false_and, false_or] at two
    cases errorMessage with
    | none =>
      constructor
      · rintro ⟨⟩
        exact ⟨by simp [fields, Body.kind], by decide, by cases validates <;> cases next <;> rfl⟩
      · rintro ⟨hf, hs, hl⟩
        rcases two hf hs with rfl | rfl
        · cases validates <;> cases hl
        · rfl
    | some s =>
      simp only [Body.open?, reduceCtorEq, false_iff]
      rintro ⟨hf, hs, hl⟩
      rcases two hf hs with rfl | rfl <;> cases validates <;> cases hl

/-- The key of a written field is known. -/
theorem Tidy.known_of_mem_written (h : n.Tidy) {e : String × Json} (he : e ∈ n.written) :
    e.1 ∈ (fields n.kind).filterMap fun fd => (fd.find? n.table).map Prod.fst := by
  have hs : e.1 ∈ (fields n.kind).map Field.camel :=
    n.keys_written_sublist.subset (List.mem_map_of_mem he)
  obtain ⟨fd, hf, hc⟩ := List.mem_map.1 hs
  have hm : (e.1, e.2) ∈ n.table.toList := by
    rw [h.toList_table]
    exact List.mem_append_left _ he
  refine List.mem_filterMap.2 ⟨fd, hf, Field.find?_key.2 (.inl ⟨?_, hc⟩)⟩
  rw [hc, Assoc.mem_toList_iff.1 hm]
  simp

/-- The key of a further entry is known exactly if it is the other key of the open field. -/
theorem Tidy.known_of_mem_kept (h : n.Tidy) {e : String × Json} (he : e ∈ n.kept.toList) :
    e.1 ∈ ((fields n.kind).filterMap fun fd => (fd.find? n.table).map Prod.fst) ↔
      n.body.open?.map Field.snake = some e.1 := by
  -- so it is known only if it has the other key of a field that is not written
  have hne : ∀ fd ∈ fields n.kind, fd.camel ≠ e.1 := by
    intro fd hf hc
    have hg := h.get?_kept hf
    rw [hc, Assoc.mem_toList_iff.1 (show (e.1, e.2) ∈ n.kept.toList from he)] at hg
    cases hg
  have hg : n.table.get? e.1 ≠ none := by
    have hm : (e.1, e.2) ∈ n.table.toList := by
      rw [h.toList_table]
      exact List.mem_append_right _ he
    rw [Assoc.mem_toList_iff.1 hm]
    simp
  rw [List.mem_filterMap, Option.map_eq_some_iff]
  constructor
  · rintro ⟨fd, hf, hk⟩
    rcases Field.find?_key.1 hk with ⟨-, hc⟩ | ⟨hc, -, hs⟩
    · exact absurd hc (hne fd hf)
    · refine ⟨fd, open?_eq_some.2 ⟨hf, fun heq => hne fd hf (heq ▸ hs), ?_⟩, hs⟩
      rwa [h.get?_camel hf] at hc
  · rintro ⟨fd, ho, hs⟩
    obtain ⟨hf, -, hl⟩ := open?_eq_some.1 ho
    exact ⟨fd, hf, Field.find?_key.2 (.inr ⟨(h.get?_camel hf).trans hl, hs ▸ hg, hs⟩)⟩

/-- Among the further entries only that under the other key of the open field is taken for a
field. -/
theorem Tidy.unknown_table (h : n.Tidy) :
    unknownEntries (fields n.kind) n.table =
      n.kept.filter fun k _ => decide (n.body.open?.map Field.snake ≠ some k) := by
  refine Assoc.ext ?_
  rw [unknownEntries, Assoc.toList_filter, Assoc.toList_filter, h.toList_table,
    List.filter_append, List.filter_eq_nil_iff.2, List.nil_append]
  · refine List.filter_congr fun e he => ?_
    have hk := h.known_of_mem_kept he
    rw [← List.contains_iff_mem] at hk
    rw [Bool.eq_iff_iff]
    simp only [Bool.not_eq_true', decide_eq_true_eq, Ne, ← hk, Bool.not_eq_true]
  · intro e he
    rw [List.contains_iff_mem.2 (h.known_of_mem_written he)]
    simp

/-! ### Nodes read again -/

/-- The text that stands under the other key of the open field. -/
def lent? (n : Node) : Option String :=
  n.body.open?.bind fun fd => (n.extras.get? fd.snake).bind Json.asText?

theorem lent?_of_question {routes : List Route} (hb : n.body = .question routes none) :
    n.lent? = (n.extras.get? "save_as").bind Json.asText? := by
  rw [lent?, hb]
  rfl

theorem lent?_of_email {validates : Bool} {saveAs : String} {next : Option String}
    (hb : n.body = .email validates saveAs none next) :
    n.lent? = (n.extras.get? "error_message").bind Json.asText? := by
  rw [lent?, hb]
  rfl

/-- An entry under the other key of the open field is null or a text. -/
def KeepsShape (n : Node) : Prop :=
  ∀ fd, n.body.open? = some fd → ∀ v, n.extras.get? fd.snake = some v →
    v = .null ∨ ∃ s, v = .str s

end Node

/-- A body with a text for its open field, as it is read again: an e-mail address is always
checked. -/
def Body.reloaded (lent : Option String) : Body → Body
  | .question routes none => .question routes lent
  | .email _ saveAs none next => .email true saveAs lent next
  | .email _ saveAs (some s) next => .email true saveAs (some s) next
  | body => body

namespace Node

variable {n : Node} {k : NodeKind} {id : String}

/-- The node that is read again. -/
def reloaded (n : Node) : Node where
  id := n.id
  text := n.text
  options := n.options
  body := n.body.reloaded n.lent?
  extras := n.kept.filter fun k _ => decide (n.body.open?.map Field.snake ≠ some k)

theorem camel_ne_snake (k : NodeKind) : ∀ fd ∈ fields k, fd.snake ≠ fd.camel →
    ∀ fd' ∈ fields k, fd'.camel ≠ fd.snake := by
  cases k <;> decide

/-- Under the other key of the open field stands the further entry, unless it is null. -/
theorem Tidy.get?_snake (h : n.Tidy) {fd : Field} (ho : n.body.open? = some fd) :
    n.table.get? fd.snake = (n.extras.get? fd.snake).filter (· != .null) := by
  obtain ⟨hf, hs, -⟩ := open?_eq_some.1 ho
  have hl : n.written.lookup fd.snake = none := by
    rw [List.lookup_eq_none_iff]
    intro e he
    have hm : e.1 ∈ (fields n.kind).map Field.camel :=
      n.keys_written_sublist.subset (List.mem_map_of_mem he)
    obtain ⟨fd', hf', hc⟩ := List.mem_map.1 hm
    simpa [hc] using (camel_ne_snake _ fd hf hs fd' hf').symm
  rw [h.get?_table, hl, Option.none_or]

/-- The open field is read from the entry under its other key, which must be null or a text. -/
theorem Tidy.read_open (h : n.Tidy) {fd : Field} (ho : n.body.open? = some fd)
    {value : Option String} :
    fd.optional readString n.table = .valid value ↔ n.KeepsShape ∧ value = n.lent? := by
  obtain ⟨hf, hs, hl⟩ := open?_eq_some.1 ho
  have hc : n.table.get? fd.camel = none := (h.get?_camel hf).trans hl
  have hg := h.get?_snake ho
  have hshape : n.KeepsShape ↔ ∀ v, n.extras.get? fd.snake = some v →
      v = .null ∨ ∃ s, v = .str s := by
    simp [KeepsShape, ho]
  rw [hshape, lent?, ho, Option.bind_some]
  -- nothing or null under the other key is no entry of the table, so the field stays null
  cases he : n.extras.get? fd.snake with
  | none =>
    rw [he] at hg
    rw [Field.optional, Field.default_of_none hc hg]
    simp [eq_comm]
  | some v =>
    rw [he] at hg
    cases v with
    | null =>
      rw [Field.optional, Field.default_of_none hc hg]
      simp [Json.asText?, eq_comm]
    | str s =>
      rw [Field.optional, Field.default_of_snake hc hg]
      simp [readOptional, readString, Json.asText?, eq_comm]
    | _ =>
      rw [Field.optional, Field.default_of_snake hc hg]
      simp [readOptional, readString, Checked.under, Checked.map, Checked.fail]

theorem keepsShape_of_open?_eq_none (h : n.body.open? = none) : n.KeepsShape := by
  simp [KeepsShape, h]

/-- The link of a node is read back. -/
theorem Tidy.read_next (h : n.Tidy) (hf : nextField ∈ fields n.kind) {next : Option String}
    (hl : n.written.lookup "next" = next.map .str) :
    nextField.optional readString n.table = .valid next :=
  Field.plain_readString ((h.get?_camel hf).trans hl)

theorem Tidy.readBody_question (h : n.Tidy) {routes : List Route} {saveAs : Option String}
    (hb : n.body = .question routes saveAs) {body : Body} :
    readBody .question n.table = .valid body ↔
      n.KeepsShape ∧ body = (Body.question routes saveAs).reloaded n.lent? := by
  have hk : n.kind = .question := kind_of_body hb
  have hroutes : routesField.default [] (readOr [] (readList Route.read)) n.table =
      .valid routes := by
    have hg : n.table.get? routesField.camel = some (.arr (routes.map Route.document)) := by
      rw [h.get?_camel (by simp [fields, hk]), written, hb]
      rfl
    rw [Field.default_of_camel hg, readOr_arr, readList_map_eq_valid fun r _ => r.read_document]
    rfl
  simp only [readBody, hroutes, Checked.map_eq, Checked.seq_eq, Checked.map_valid]
  cases saveAs with
  | none =>
    -- the name is the open field
    have ho : ∀ value, saveAsField.optional readString n.table = .valid value ↔
        n.KeepsShape ∧ value = n.lent? := fun value => h.read_open (by rw [hb]; rfl)
    simp only [Checked.ap_eq_valid, Checked.valid.injEq, ho, Body.reloaded]
    constructor
    · rintro ⟨_, _, rfl, ⟨hs, rfl⟩, rfl⟩
      exact ⟨hs, rfl⟩
    · rintro ⟨hs, rfl⟩
      exact ⟨_, _, rfl, ⟨hs, rfl⟩, rfl⟩
  | some s =>
    have hs : saveAsField.optional readString n.table = .valid (some s) := by
      refine Field.optional_readString ?_ (by simp)
      rw [h.get?_camel (by simp [fields, hk]), written, hb]
      rfl
    have hshape : n.KeepsShape := keepsShape_of_open?_eq_none (by rw [hb]; rfl)
    simp [hs, Body.reloaded, hshape, eq_comm]

/-- The fields of an e-mail node other than its text for refused answers: whether the address is
checked is not kept. -/
theorem Tidy.read_email (h : n.Tidy) {validates : Bool} {saveAs : String}
    {errorMessage next : Option String} (hb : n.body = .email validates saveAs errorMessage next) :
    validationField.default true readValidation n.table = .valid true ∧
      saveAsField.default "email" readEmailKey n.table = .valid saveAs ∧
        nextField.optional readString n.table = .valid next := by
  have hk : n.kind = .email := kind_of_body hb
  refine ⟨?_, ?_, ?_⟩
  · have hg : n.table.get? "validation" = if validates then some (.str "email") else none := by
      refine (h.get?_camel (show validationField ∈ fields n.kind by simp [fields, hk])).trans ?_
      rw [written, hb]
      cases validates <;> cases errorMessage <;> cases next <;> rfl
    cases validates with
    | false => exact Field.default_of_none hg hg
    | true =>
      rw [Field.default_of_camel hg]
      simp [readValidation]
  · have hg : n.table.get? saveAsField.camel = some (.str saveAs) := by
      rw [h.get?_camel (by simp [fields, hk]), written, hb]
      cases validates <;> rfl
    have hne : saveAs ≠ "" := h.named _ _ _ _ hb
    rw [Field.default_of_camel hg]
    simp [readEmailKey, Json.truthy, readString, hne]
  · refine h.read_next (by simp [fields, hk]) ?_
    rw [written, hb]
    cases validates <;> cases errorMessage <;> cases next <;> rfl

theorem Tidy.readBody_email (h : n.Tidy) {validates : Bool} {saveAs : String}
    {errorMessage next : Option String} (hb : n.body = .email validates saveAs errorMessage next)
    {body : Body} :
    readBody .email n.table = .valid body ↔
      n.KeepsShape ∧ body = (Body.email validates saveAs errorMessage next).reloaded n.lent? := by
  have hk : n.kind = .email := kind_of_body hb
  obtain ⟨hv, hs, hn⟩ := h.read_email hb
  simp only [readBody, hv, hs, hn, Checked.map_eq, Checked.seq_eq, Checked.map_valid,
    Checked.ap_valid]
  cases errorMessage with
  | none =>
    -- the text for refused answers is the open field
    have ho : ∀ value, errorMessageField.optional readString n.table = .valid value ↔
        n.KeepsShape ∧ value = n.lent? := fun value => h.read_open (by rw [hb]; rfl)
    simp only [Checked.ap_eq_valid, Checked.valid.injEq, ho, Body.reloaded]
    constructor
    · rintro ⟨_, _, ⟨_, _, rfl, ⟨hs, rfl⟩, rfl⟩, rfl, rfl⟩
      exact ⟨hs, rfl⟩
    · rintro ⟨hs, rfl⟩
      exact ⟨_, _, ⟨_, _, rfl, ⟨hs, rfl⟩, rfl⟩, rfl, rfl⟩
  | some m =>
    have hm : errorMessageField.optional readString n.table = .valid (some m) := by
      refine Field.optional_readString ?_ (by simp)
      rw [h.get?_camel (by simp [fields, hk]), written, hb]
      cases validates <;> rfl
    have hshape : n.KeepsShape := keepsShape_of_open?_eq_none (by rw [hb]; rfl)
    simp [hm, Body.reloaded, hshape, eq_comm]

/-- A body is read again exactly if the node keeps its shape. -/
theorem Tidy.readBody_table (h : n.Tidy) {body : Body} :
    readBody n.kind n.table = .valid body ↔ n.KeepsShape ∧ body = n.body.reloaded n.lent? := by
  cases hb : n.body with
  | question routes saveAs =>
    rw [kind_of_body hb]
    exact h.readBody_question hb
  | email validates saveAs errorMessage next =>
    rw [kind_of_body hb]
    exact h.readBody_email hb
  | start next | message next =>
    have hshape : n.KeepsShape := keepsShape_of_open?_eq_none (by rw [hb]; rfl)
    have hn : nextField.optional readString n.table = .valid next := by
      refine h.read_next (by simp [fields, kind, hb, Body.kind]) ?_
      rw [written, hb]
      cases next <;> rfl
    rw [kind, hb]
    simp [readBody, Body.kind, hn, Body.reloaded, hshape, eq_comm]
  | ending =>
    have hshape : n.KeepsShape := keepsShape_of_open?_eq_none (by rw [hb]; rfl)
    rw [kind, hb]
    simp [readBody, Body.kind, Body.reloaded, hshape, eq_comm]

theorem Tidy.readKind_table (h : n.Tidy) {n' : Node} :
    readKind n.kind n.id n.table = .valid n' ↔ n.KeepsShape ∧ n' = n.reloaded := by
  have htext : textField.default "" (readOr "" readString) n.table = .valid n.text := by
    have hg : n.table.get? textField.camel = some (.str n.text) :=
      (h.get?_camel (by simp [fields])).trans rfl
    rw [Field.default_of_camel hg, readOr_str]
    rfl
  have hoptions : optionsField.default [] (readOr [] (readList readString)) n.table =
      .valid n.options := by
    have hg : n.table.get? optionsField.camel = some (.ofStrings n.options) :=
      (h.get?_camel (by simp [fields])).trans rfl
    rw [Field.default_of_camel hg, Json.ofStrings, readOr_arr]
    exact Checked.under_eq_valid.2 (readList_ofStrings _)
  have hwhole : (unknownEntries (fields n.kind) n.table).keys.all isWhole = true := by
    rw [h.unknown_table, List.all_eq_true]
    intro k hk
    have hsub : (n.kept.filter fun k _ => decide (n.body.open?.map Field.snake ≠ some k)).keys ⊆
        n.extras.keys :=
      List.map_subset _ fun e he => (List.mem_filter.1 (List.mem_filter.1 he).1).1
    exact List.all_eq_true.1 h.whole k (hsub hk)
  dsimp only [readKind]
  rw [if_pos hwhole, htext, hoptions, h.unknown_table]
  simp only [Checked.map_eq, Checked.seq_eq, Checked.map_valid, Checked.ap_valid,
    Checked.ap_eq_valid, Checked.valid.injEq, h.readBody_table]
  constructor
  · rintro ⟨_, _, rfl, ⟨hk, rfl⟩, rfl⟩
    exact ⟨hk, rfl⟩
  · rintro ⟨hk, rfl⟩
    exact ⟨_, _, rfl, ⟨hk, rfl⟩, rfl⟩

/-- Exactly the nodes that keep their shape are read again. -/
theorem Tidy.read_document (h : n.Tidy) {n' : Node} :
    read n.id n.document = .valid n' ↔ n.KeepsShape ∧ n' = n.reloaded := by
  have htype : n.table.get? "type" = some (.str n.kind.name) :=
    (h.get?_camel (show typeField ∈ fields n.kind by simp [fields])).trans rfl
  rw [read, n.entries?_document]
  simp only [typeField, Field.plain, htype, NodeKind.ofName?_name, Checked.under_eq_valid,
    h.readKind_table]

end Node

/-! ### Flows read again -/

namespace Flow

variable {f g : Flow} {depth : Nat}

/-- An object is read as its entries are. -/
theorem ofJson_eq_ok {j : Json} :
    ofJson j = .ok f ↔ ∃ o, j.entries? = some o ∧ readEntries o = .valid f := by
  unfold ofJson
  cases j.entries? with
  | none => simp
  | some o =>
    simp only [Option.some.injEq, exists_eq_left']
    cases readEntries o <;> simp

theorem ofJson_of_entries {j : Json} {o : Assoc String Json} (h : j.entries? = some o) :
    ofJson j = .ok f ↔ readEntries o = .valid f := by
  rw [ofJson_eq_ok, h]
  simp

/-- An object is no text, so how deep it is nested does not matter. -/
theorem ofDocument_value {j : Json} {o : Assoc String Json} (h : j.entries? = some o) :
    ofDocument (.value j) depth = ofJson j := by
  cases j <;> first | rfl | cases h

theorem ofDocument_eq_ok {j : Json} {o : Assoc String Json} (h : j.entries? = some o) :
    ofDocument (.value j) depth = .ok f ↔ readEntries o = .valid f := by
  rw [ofDocument_value h, ofJson_of_entries h]

/-- What holds of every flow that was read from a document. -/
def Tidy (f : Flow) : Prop := ∀ e ∈ f.nodes.toList, e.2.id = e.1 ∧ e.2.Tidy

theorem tidy_of_readEntries {o : Assoc String Json} (h : readEntries o = .valid f) : f.Tidy := by
  simp only [readEntries, Checked.map_eq, Checked.seq_eq, Checked.ap_eq_valid,
    Checked.map_eq_valid] at h
  obtain ⟨_, nodes, ⟨_, _, ⟨_, -, rfl⟩, -, rfl⟩, hn, rfl⟩ := h
  unfold Field.default at hn
  cases hf : nodesField.find? o with
  | none =>
    rw [hf] at hn
    cases hn
    simp [Tidy]
  | some e =>
    rw [hf] at hn
    obtain ⟨o', -, hr⟩ := readTable_eq_valid.1 (Checked.under_eq_valid.1 hn)
    refine forall_mem_of_forall₂ hr fun e x hx => ?_
    rw [hx.1]
    exact Node.tidy_of_read hx.2

theorem tidy_of_ofDocument {d : Document} (hd : ∀ f', d ≠ .flow f')
    (h : ofDocument d depth = .ok f) : f.Tidy := by
  have of_json : ∀ {r : Except DocumentFault Json}, r.bind ofJson = .ok f → f.Tidy := by
    intro r hr
    cases r with
    | error fault => cases hr
    | ok j =>
      obtain ⟨o, -, ho⟩ := ofJson_eq_ok.1 hr
      exact tidy_of_readEntries ho
  cases d with
  | value j => exact of_json h
  | bytes b => exact of_json h
  | flow f' => exact absurd rfl (hd f')

/-- The flow that is read again. -/
def reloaded (f : Flow) : Flow := ⟨f.enabled, f.startNodeId, f.nodes.mapValues Node.reloaded⟩

theorem forall₂_read_document {l : List (String × Node)}
    (hl : ∀ e ∈ l, e.2.id = e.1 ∧ e.2.Tidy) {r : List (String × Node)} :
    List.Forall₂ (fun e x => x.1 = e.1 ∧ Node.read e.1 e.2.document = .valid x.2) l r ↔
      (∀ e ∈ l, e.2.KeepsShape) ∧ r = l.map fun e => (e.1, e.2.reloaded) := by
  induction l generalizing r with
  | nil => simp
  | cons e l ih =>
    obtain ⟨⟨he, ht⟩, hl⟩ := List.forall_mem_cons.1 hl
    rw [List.forall₂_cons_left_iff, List.forall_mem_cons, List.map_cons, ← he]
    constructor
    · rintro ⟨x, r', ⟨hx, hread⟩, hr, rfl⟩
      obtain ⟨hk, hx'⟩ := ht.read_document.1 hread
      obtain ⟨hks, rfl⟩ := (ih hl).1 hr
      exact ⟨⟨hk, hks⟩, by rw [← hx, ← hx']⟩
    · rintro ⟨⟨hk, hks⟩, rfl⟩
      exact ⟨_, _, ⟨rfl, ht.read_document.2 ⟨hk, rfl⟩⟩, (ih hl).2 ⟨hks, rfl⟩, rfl⟩

/-- The entries that a flow is written with. -/
def written (f : Flow) : List (String × Json) :=
  [(enabledField.camel, .bool f.enabled)] ++ optionalText startNodeIdField.camel f.startNodeId
    ++ [(nodesField.camel, .obj (f.nodes.mapValues Node.document).toList)]

theorem nodup_written (f : Flow) : (f.written.map Prod.fst).Nodup := by
  unfold written
  cases f.startNodeId <;> simp [optionalText, optionalEntry] <;> decide

/-- The table that a flow is written as. -/
def table (f : Flow) : Assoc String Json := .ofList f.written

theorem get?_table (f : Flow) (k : String) :
    f.table.get? k =
      ((if k = "enabled" then some (.bool f.enabled) else none).or
        (if k = "startNodeId" then f.startNodeId.map .str else none)).or
        (if k = "nodes" then some (.obj (f.nodes.mapValues Node.document).toList) else none) := by
  rw [table, Assoc.get?_ofList f.nodup_written, written, List.lookup_append, List.lookup_append,
    lookup_optionalText, lookup_cons_eq, lookup_cons_eq]
  rfl

/-- The nodes of a written flow are read again if they keep their shape. -/
theorem Tidy.readTable_document (h : f.Tidy) {t : Assoc String Node} :
    readTable Node.read (.obj (f.nodes.mapValues Node.document).toList) = .valid t ↔
      (∀ e ∈ f.nodes.toList, e.2.KeepsShape) ∧ t = f.nodes.mapValues Node.reloaded := by
  rw [readTable_eq_valid, Json.entries?_toList]
  simp only [Option.some.injEq, exists_eq_left', Assoc.toList_mapValues,
    List.forall₂_map_left_iff, forall₂_read_document h]
  refine and_congr_right fun _ => ⟨fun ht => Assoc.ext ht, ?_⟩
  rintro rfl
  rfl

/-- Exactly the flows whose nodes keep their shape are read again. -/
theorem Tidy.ofDocument_document (h : f.Tidy) :
    ofDocument (.value f.document) depth = .ok g ↔
      (∀ e ∈ f.nodes.toList, e.2.KeepsShape) ∧ g = f.reloaded := by
  have hread : ofDocument (.value f.document) depth = .ok g ↔ readEntries f.table = .valid g :=
    ofDocument_eq_ok (Json.entries?_object _)
  have he : enabledField.default true (readOr true readBool) f.table = .valid f.enabled := by
    have hg : f.table.get? enabledField.camel = some (.bool f.enabled) := f.get?_table _
    rw [Field.default_of_camel hg]
    rfl
  have hs : startNodeIdField.optional readString f.table = .valid f.startNodeId := by
    refine Field.optional_readString ((f.get?_table _).trans ?_) fun _ => f.get?_table _
    cases f.startNodeId <;> rfl
  have hn : ∀ t, nodesField.default .empty (readTable Node.read) f.table = .valid t ↔
      (∀ e ∈ f.nodes.toList, e.2.KeepsShape) ∧ t = f.nodes.mapValues Node.reloaded := by
    intro t
    have hg : f.table.get? nodesField.camel =
        some (.obj (f.nodes.mapValues Node.document).toList) := by
      refine (f.get?_table _).trans ?_
      cases f.startNodeId <;> rfl
    rw [Field.default_of_camel hg, Checked.under_eq_valid, h.readTable_document]
  rw [hread, readEntries, he, hs]
  simp only [Checked.map_eq, Checked.seq_eq, Checked.map_valid, Checked.ap_valid,
    Checked.ap_eq_valid, Checked.valid.injEq, hn]
  constructor
  · rintro ⟨_, _, rfl, ⟨hk, rfl⟩, rfl⟩
    exact ⟨hk, rfl⟩
  · rintro ⟨hk, rfl⟩
    exact ⟨_, _, rfl, ⟨hk, rfl⟩, rfl⟩

end Flow

end Dialogue
