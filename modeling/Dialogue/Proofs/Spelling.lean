import Dialogue.Proofs.NodeByNode

/-!
# Spellings of a document

Editors write one flow in many ways: a key in camel case or in snake case, and a field without a value
as null or not at all. A document is read the same in all of them: it is read as the same flow, or the
same faults are found in it.

* `Checked.verdict`: what a check comes to, whatever the places of its problems are;
* `Field.given?`: the value of a field, under whichever of its keys it stands; null counts as none;
* `Field.Respells`: two tables that give the same values to some fields and have the same other entries;
* `Field.default_verdict_congr`, `unknownEntries_of_single`: what is read of such tables;
* `Route.Respells`, `Node.Respells`, `Flow.Respells`: the records of two documents that differ in their
  spelling only;
* `Flow.read_respelled`: they are read alike.
-/

namespace Dialogue

open Text

variable {α β : Type}

/-! ### Verdicts -/

namespace Checked

/-- What a check comes to: its value, or the faults that were found, wherever they are. -/
def verdict : Checked α → Except (List Fault) α
  | valid a => .ok a
  | invalid p ps => .error ((p :: ps).map Problem.fault)

@[simp] theorem verdict_valid (a : α) : (valid a).verdict = .ok a := rfl

@[simp] theorem verdict_under (s : Step) (x : Checked α) : (x.under s).verdict = x.verdict := by
  cases x with
  | valid a => rfl
  | invalid p ps => simp [under, verdict, lower]

theorem verdict_map_congr (f : α → β) {x x' : Checked α} (h : x'.verdict = x.verdict) :
    (x'.map f).verdict = (x.map f).verdict := by
  cases x <;> cases x' <;> simp_all [verdict, map]

theorem verdict_ap_congr {f f' : Checked (α → β)} {x x' : Checked α} (hf : f'.verdict = f.verdict)
    (hx : x'.verdict = x.verdict) : (f'.ap x').verdict = (f.ap x).verdict := by
  cases f <;> cases f' <;> cases x <;> cases x' <;> simp_all [verdict, ap, map, problems]

theorem verdict_eq_ok {x : Checked α} {a : α} : x.verdict = .ok a ↔ x = .valid a := by
  cases x <;> simp [verdict]

/-- The faults of two checks are the same if they come to the same. -/
theorem faults_of_verdict {x x' : Checked α} (h : x'.verdict = x.verdict) :
    x'.problems.map Problem.fault = x.problems.map Problem.fault := by
  cases x <;> cases x' <;> simp_all [verdict, problems]

end Checked

/-! ### Fields and their values -/

namespace Field

variable {fd : Field} {fds : List Field} {o o' : Assoc String Json}

/-- The value that is given to a field, under whichever of its keys. Null counts as none. -/
def given? (fd : Field) (o : Assoc String Json) : Option Json :=
  ((fd.find? o).map Prod.snd).filter fun v => decide (v ≠ .null)

/-- A field is not given under both of its keys. -/
def IsSingle (fd : Field) (o : Assoc String Json) : Prop :=
  fd.camel = fd.snake ∨ o.get? fd.camel = none ∨ o.get? fd.snake = none

instance (fd : Field) (o : Assoc String Json) : Decidable (fd.IsSingle o) :=
  inferInstanceAs (Decidable (_ ∨ _))

/-- The keys of some fields. -/
def keys (fds : List Field) : List String := fds.flatMap fun fd => [fd.camel, fd.snake]

theorem mem_keys {k : String} : k ∈ keys fds ↔ ∃ fd ∈ fds, k = fd.camel ∨ k = fd.snake := by
  simp [keys]

/-- The entries of a table that belong to none of some fields. -/
def others (fds : List Field) (o : Assoc String Json) : Assoc String Json :=
  o.filter fun k _ => !(keys fds).contains k

/-- Two tables that give values to some fields which correspond, each under one of its keys, and that
have the same other entries. -/
structure Respells (fds : List Field) (R : Field → Json → Json → Prop) (o o' : Assoc String Json) :
    Prop where
  single : ∀ fd ∈ fds, fd.IsSingle o ∧ fd.IsSingle o'
  given : ∀ fd ∈ fds, Option.Rel (R fd) (fd.given? o) (fd.given? o')
  others : others fds o' = others fds o

/-- What stands under a key of no field is the same. -/
theorem Respells.get?_eq {R : Field → Json → Json → Prop} (h : Respells fds R o o') {k : String}
    (hk : k ∉ keys fds) : o'.get? k = o.get? k := by
  have hget : ∀ o : Assoc String Json, (Field.others fds o).get? k = o.get? k := by
    intro o
    have hc : (keys fds).contains k = false := by simpa using hk
    rw [Field.others, Assoc.get?_filter, hc]
    cases o.get? k <;> rfl
  rw [← hget, h.others, hget]

/-- Of more fields too the other entries are the same. -/
theorem Respells.others_eq {R : Field → Json → Json → Prop} (h : Respells fds R o o')
    {more : List Field} (hm : fds ⊆ more) : Field.others more o' = Field.others more o := by
  have hothers : ∀ o, Field.others more o = Field.others more (Field.others fds o) := by
    intro o
    ext1
    rw [Field.others, Field.others, Field.others, Assoc.toList_filter, Assoc.toList_filter,
      Assoc.toList_filter, List.filter_filter]
    refine List.filter_congr fun e _ => ?_
    have hsub : e.1 ∈ keys fds → e.1 ∈ keys more := by
      rw [mem_keys, mem_keys]
      rintro ⟨fd, hf, hk⟩
      exact ⟨fd, hm hf, hk⟩
    by_cases hk : e.1 ∈ keys more
    · simp [hk]
    · simp [hk, mt hsub hk]
  rw [hothers o', h.others, ← hothers]

/-- A field that is the same for null as if it were absent is read off its value. -/
theorem verdict_default {absent : α} {read : Json → Checked α} (hnull : read .null = .valid absent) :
    (fd.default absent read o).verdict =
      match fd.given? o with
      | some v => (read v).verdict
      | none => .ok absent := by
  unfold default given?
  cases fd.find? o with
  | none => rfl
  | some e =>
    by_cases hv : e.2 = .null
    · simp [hv, hnull, Option.filter]
    · simp [hv, Option.filter]

/-- Two tables that give the same values to some fields, each under one of its keys, and that have the
same other entries. -/
theorem Respells.of_given_eq {R : Field → Json → Json → Prop} (hR : ∀ fd v, R fd v v)
    (h : ∀ fd ∈ fds, (fd.IsSingle o ∧ fd.IsSingle o') ∧ fd.given? o' = fd.given? o)
    (hothers : Field.others fds o' = Field.others fds o) : Respells fds R o o' := by
  refine ⟨fun fd hf => (h fd hf).1, fun fd hf => ?_, hothers⟩
  rw [(h fd hf).2]
  cases fd.given? o with
  | none => exact .none
  | some v => exact .some (hR fd v)

/-- Fields whose values correspond come to the same, if corresponding values do. -/
theorem default_verdict_congr {R : Json → Json → Prop} {absent : α} {read : Json → Checked α}
    (h : Option.Rel R (fd.given? o) (fd.given? o')) (hnull : read .null = .valid absent)
    (hR : ∀ v v', R v v' → (read v').verdict = (read v).verdict) :
    (fd.default absent read o').verdict = (fd.default absent read o).verdict := by
  rw [verdict_default hnull, verdict_default hnull]
  revert h
  generalize fd.given? o = v, fd.given? o' = v'
  rintro (hv | _)
  · exact hR _ _ hv
  · rfl

end Field

/-- If no field is given under both of its keys, the unknown entries are those under other keys. -/
theorem unknownEntries_of_single {fds : List Field} {o : Assoc String Json}
    (h : ∀ fd ∈ fds, fd.IsSingle o) : unknownEntries fds o = Field.others fds o := by
  ext1
  rw [unknownEntries, Field.others, Assoc.toList_filter, Assoc.toList_filter]
  refine List.filter_congr fun e he => ?_
  have hget : o.get? e.1 ≠ none := by simp [Assoc.mem_toList_iff.1 he]
  -- a key of a field is the one under which the field is found
  have hfound : ∀ fd ∈ fds, ((fd.find? o).map Prod.fst = some e.1 ↔ e.1 = fd.camel ∨ e.1 = fd.snake) := by
    intro fd hf
    rw [Field.find?_key]
    constructor
    · rintro (⟨-, hk⟩ | ⟨-, -, hk⟩)
      · exact .inl hk.symm
      · exact .inr hk.symm
    · intro hk
      rcases hk with hk | hk
      · exact .inl ⟨hk ▸ hget, hk.symm⟩
      · rcases h fd hf with hs | hs | hs
        · exact .inl ⟨hs ▸ hk ▸ hget, hs ▸ hk.symm⟩
        · exact .inr ⟨hs, hk ▸ hget, hk.symm⟩
        · exact absurd (hk ▸ hs) hget
  have hmem : e.1 ∈ fds.filterMap (fun fd => (fd.find? o).map Prod.fst) ↔ e.1 ∈ Field.keys fds := by
    rw [List.mem_filterMap, Field.mem_keys]
    exact exists_congr fun fd => and_congr_right fun hf => hfound fd hf
  rw [Bool.eq_iff_iff]
  simp [hmem]

/-! ### Values that correspond -/

namespace Json

/-- Two values that are the same, or objects whose tables correspond. -/
inductive Matches (R : Assoc String Json → Assoc String Json → Prop) (j : Json) : Json → Prop
  | same : Matches R j j
  | tables {j' : Json} {o o' : Assoc String Json} (ho : j.entries? = some o)
      (ho' : j'.entries? = some o') (h : R o o') : Matches R j j'

/-- Two values that are the same, or lists whose items correspond one by one. -/
inductive ItemsMatch (R : Json → Json → Prop) : Json → Json → Prop
  | same {j : Json} : ItemsMatch R j j
  | items {l l' : List Json} (h : List.Forall₂ R l l') : ItemsMatch R (.arr l) (.arr l')

/-- Two tables with the same keys in the same order, whose values correspond one by one. -/
def ValuesMatch (R : Json → Json → Prop) (o o' : Assoc String Json) : Prop :=
  List.Forall₂ (fun e e' => e'.1 = e.1 ∧ R e.2 e'.2) o.toList o'.toList

end Json

/-- Lists whose items are read alike are read alike. -/
theorem readList_verdict_congr {R : Json → Json → Prop} {read : Json → Checked α}
    (hR : ∀ j j', R j j' → (read j').verdict = (read j).verdict) {j j' : Json}
    (h : j.ItemsMatch R j') : (readList read j').verdict = (readList read j).verdict := by
  have hitems : ∀ {l l' : List Json}, List.Forall₂ R l l' → ∀ i,
      (readItems read i l').verdict = (readItems read i l).verdict := by
    intro l l' h
    induction h with
    | nil => intro i; rfl
    | @cons a b _ _ hab _ ih =>
      intro i
      refine Checked.verdict_ap_congr (Checked.verdict_map_congr _ ?_) (ih (i + 1))
      rw [Checked.verdict_under, Checked.verdict_under]
      exact hR a b hab
  cases h with
  | same => rfl
  | items h => exact hitems h 0

/-- Tables whose values are read alike are read alike. -/
theorem readTable_verdict_congr {R : Json → Json → Prop} {read : String → Json → Checked α}
    (hR : ∀ k j j', R j j' → (read k j').verdict = (read k j).verdict) {j j' : Json}
    (h : j.Matches (Json.ValuesMatch R) j') :
    (readTable read j').verdict = (readTable read j).verdict := by
  have hentries : ∀ {l l' : List (String × Json)},
      List.Forall₂ (fun e e' => e'.1 = e.1 ∧ R e.2 e'.2) l l' →
        (readEntries read l').verdict = (readEntries read l).verdict := by
    intro l l' h
    induction h with
    | nil => rfl
    | @cons e e' _ _ he _ ih =>
      obtain ⟨k, v⟩ := e
      obtain ⟨k', v'⟩ := e'
      obtain ⟨rfl, hv⟩ := he
      refine Checked.verdict_ap_congr (Checked.verdict_map_congr _ ?_) ih
      rw [Checked.verdict_under, Checked.verdict_under]
      exact Checked.verdict_map_congr _ (hR _ v v' hv)
  cases h with
  | same => rfl
  | tables ho ho' h =>
    rw [readTable, readTable, ho, ho']
    exact Checked.verdict_map_congr _ (hentries h)

/-! ### Routes -/

namespace Route

/-- The fields of a route that may be null or absent. -/
def freeFields : List Field := [valueField, nextField]

/-- Two routes of documents that differ in their spelling only. -/
def Respells : Json → Json → Prop := Json.Matches (Field.Respells freeFields fun _ => Eq)

theorem read_verdict {j j' : Json} (h : Respells j j') : (read j').verdict = (read j).verdict := by
  cases h with
  | same => rfl
  | @tables _ o o' ho ho' h =>
    have hfield : ∀ fd ∈ freeFields,
        (fd.optional readString o').verdict = (fd.optional readString o).verdict := by
      intro fd hf
      exact Field.default_verdict_congr (h.given fd hf) rfl (by rintro v _ rfl; rfl)
    have hcondition : conditionField.default Condition.default.name readString o' =
        conditionField.default Condition.default.name readString o :=
      Field.default_congr (h.get?_eq (by decide)) (h.get?_eq (by decide))
    rw [read, readRecord, readRecord, ho, ho']
    dsimp only
    rw [hcondition]
    exact Checked.verdict_ap_congr
      (Checked.verdict_ap_congr rfl (hfield valueField (by decide))) (hfield nextField (by decide))

end Route

/-! ### Nodes -/

namespace Node

/-- The kind of a node, as its document tells it. -/
def kindOf? (o : Assoc String Json) : Option NodeKind :=
  match o.get? typeField.camel with
  | some (.str s) => NodeKind.ofName? s
  | _ => none

/-- The fields of a node that may be null or absent, or given under either of two keys. Those that
every node has are free in a node of no kind too. -/
def freeFields (k : Option NodeKind) : List Field :=
  [textField, optionsField] ++
    match k with
    | some .start | some .message => [nextField]
    | some .question => [routesField, saveAsField]
    | some .email => [saveAsField, errorMessageField, nextField]
    | some .ending | none => []

/-- Two values of a field that are the same, or the routes of a question, spelled differently. -/
def SameValue (fd : Field) (v v' : Json) : Prop :=
  v = v' ∨ fd = routesField ∧ v.ItemsMatch Route.Respells v'

/-- Two nodes of documents that differ in their spelling only. -/
def Respells : Json → Json → Prop :=
  Json.Matches fun o o' => Field.Respells (freeFields (kindOf? o)) SameValue o o'

theorem freeFields_subset (k : NodeKind) : freeFields (some k) ⊆ fields k := by
  cases k <;> decide

/-- The fields of a node that are not free have one key. -/
theorem mem_freeFields_or_plain (k : NodeKind) :
    ∀ fd ∈ fields k, fd ∈ freeFields (some k) ∨ fd.camel = fd.snake := by
  cases k <;> decide

/-- The keys of fields that are never free. -/
theorem not_mem_keys_freeFields (k : Option NodeKind) :
    typeField.camel ∉ Field.keys (freeFields k) ∧ validationField.camel ∉ Field.keys (freeFields k) := by
  rcases k with _ | k
  · decide
  · cases k <;> decide

section Read

variable {k : NodeKind} {o o' : Assoc String Json}

/-- A free field other than the routes is read alike. -/
theorem default_verdict_of_ne (h : Field.Respells (freeFields (some k)) SameValue o o') {fd : Field}
    (hf : fd ∈ freeFields (some k)) (hne : fd ≠ routesField) {absent : α} {read : Json → Checked α}
    (hnull : read .null = .valid absent) :
    (fd.default absent read o').verdict = (fd.default absent read o).verdict := by
  refine Field.default_verdict_congr (h.given fd hf) hnull ?_
  rintro v v' (rfl | ⟨hr, -⟩)
  · rfl
  · exact absurd hr hne

theorem routes_verdict (h : Field.Respells (freeFields (some k)) SameValue o o')
    (hf : routesField ∈ freeFields (some k)) :
    (routesField.default [] (readOr [] (readList Route.read)) o').verdict =
      (routesField.default [] (readOr [] (readList Route.read)) o).verdict := by
  refine Field.default_verdict_congr (h.given routesField hf) rfl ?_
  rintro v v' (rfl | ⟨-, hi⟩)
  · rfl
  · cases hi with
    | same => rfl
    | items hl => exact readList_verdict_congr (fun _ _ hr => Route.read_verdict hr) (.items hl)

theorem readBody_verdict (h : Field.Respells (freeFields (some k)) SameValue o o') :
    (readBody k o').verdict = (readBody k o).verdict := by
  cases k with
  | start | message =>
    exact Checked.verdict_map_congr _ (default_verdict_of_ne h (by decide) (by decide) rfl)
  | question =>
    exact Checked.verdict_ap_congr (Checked.verdict_map_congr _ (routes_verdict h (by decide)))
      (default_verdict_of_ne h (by decide) (by decide) rfl)
  | email =>
    have hv : o'.get? validationField.camel = o.get? validationField.camel :=
      h.get?_eq (not_mem_keys_freeFields _).2
    have hvalidation : validationField.default true readValidation o' =
        validationField.default true readValidation o := Field.default_congr hv hv
    dsimp only [readBody]
    rw [hvalidation]
    exact Checked.verdict_ap_congr (Checked.verdict_ap_congr (Checked.verdict_ap_congr rfl
      (default_verdict_of_ne h (by decide) (by decide) rfl))
      (default_verdict_of_ne h (by decide) (by decide) rfl))
      (default_verdict_of_ne h (by decide) (by decide) rfl)
  | ending => rfl

/-- The further entries of a node do not depend on its spelling. -/
theorem unknownEntries_respelled (h : Field.Respells (freeFields (some k)) SameValue o o') :
    unknownEntries (fields k) o' = unknownEntries (fields k) o := by
  have hsingle : ∀ fd ∈ fields k, fd.IsSingle o ∧ fd.IsSingle o' := by
    intro fd hf
    rcases mem_freeFields_or_plain k fd hf with hf | hp
    · exact h.single fd hf
    · exact ⟨.inl hp, .inl hp⟩
  rw [unknownEntries_of_single fun fd hf => (hsingle fd hf).1,
    unknownEntries_of_single fun fd hf => (hsingle fd hf).2, h.others_eq (freeFields_subset k)]

theorem readKind_verdict (h : Field.Respells (freeFields (some k)) SameValue o o') (id : String) :
    (readKind k id o').verdict = (readKind k id o).verdict := by
  dsimp only [readKind]
  rw [unknownEntries_respelled h]
  split
  · have hfree : textField ∈ freeFields (some k) ∧ optionsField ∈ freeFields (some k) := by
      simp [freeFields]
    exact Checked.verdict_ap_congr (Checked.verdict_ap_congr
      (Checked.verdict_map_congr _ (default_verdict_of_ne h hfree.1 (by decide) rfl))
      (default_verdict_of_ne h hfree.2 (by decide) rfl)) (readBody_verdict h)
  · rfl

end Read

theorem read_verdict {j j' : Json} (h : Respells j j') (id : String) :
    (read id j').verdict = (read id j).verdict := by
  cases h with
  | same => rfl
  | @tables _ o o' ho ho' h =>
    have htype : o'.get? typeField.snake = o.get? typeField.snake :=
      h.get?_eq (not_mem_keys_freeFields _).1
    rw [read, read, ho, ho']
    dsimp only
    rw [htype]
    cases ht : o.get? typeField.snake with
    | none => rfl
    | some tag =>
      cases tag with
      | str s =>
        dsimp only
        cases hk : NodeKind.ofName? s with
        | none => rfl
        | some k =>
          have hkind : kindOf? o = some k := by
            have ht : o.get? typeField.camel = some (.str s) := ht
            rw [kindOf?, ht]
            exact hk
          rw [hkind] at h
          rw [Checked.verdict_under, Checked.verdict_under]
          exact readKind_verdict h id
      | _ => rfl

end Node

/-! ### Flows -/

namespace Flow

/-- The fields of a flow that may be null or absent, or given under either of two keys. -/
def freeFields : List Field := [enabledField, startNodeIdField]

/-- The records of two flows that differ in their spelling only, in their own fields and in those of
their nodes. -/
structure RespellsTable (o o' : Assoc String Json) : Prop where
  rest : Field.Respells freeFields (fun _ => Eq) (o.without nodesField.camel)
    (o'.without nodesField.camel)
  nodes : Option.Rel (Json.Matches (Json.ValuesMatch Node.Respells)) (o.get? nodesField.camel)
    (o'.get? nodesField.camel)

/-- Two documents that differ in their spelling only: in which of two keys they use for a field of a
flow or of a node, and in whether they write null for a field or leave it out. -/
def Respells : Json → Json → Prop := Json.Matches RespellsTable

theorem RespellsTable.readEntries_verdict {o o' : Assoc String Json} (h : RespellsTable o o') :
    (readEntries o').verdict = (readEntries o).verdict := by
  have hfield : ∀ {α : Type} {fd : Field}, fd ∈ freeFields → fd.camel ≠ nodesField.camel →
      fd.snake ≠ nodesField.camel → ∀ {absent : α} {read : Json → Checked α},
        read .null = .valid absent →
          (fd.default absent read o').verdict = (fd.default absent read o).verdict := by
    intro α fd hf hc hs absent read hnull
    rw [← fd.default_without hc hs absent read o', ← fd.default_without hc hs absent read o]
    exact Field.default_verdict_congr (h.rest.given fd hf) hnull (by rintro v _ rfl; rfl)
  have hnodes : (nodesField.default .empty (readTable Node.read) o').verdict =
      (nodesField.default .empty (readTable Node.read) o).verdict := by
    have hn := h.nodes
    revert hn
    generalize hv : o.get? nodesField.camel = v
    generalize hv' : o'.get? nodesField.camel = v'
    rintro (hm | _)
    · rw [Field.default_of_camel hv, Field.default_of_camel hv', Checked.verdict_under,
        Checked.verdict_under]
      refine readTable_verdict_congr ?_ hm
      intro k v v' hv
      exact Node.read_verdict hv k
    · rw [Field.default_of_none hv hv, Field.default_of_none hv' hv']
  exact Checked.verdict_ap_congr (Checked.verdict_ap_congr
    (Checked.verdict_map_congr _ (hfield (by decide) (by decide) (by decide) rfl))
    (hfield (by decide) (by decide) (by decide) rfl)) hnodes

end Flow

/-! ### Documents -/

/-- The JSON value of a document that is not yet a flow, if its text can be read with call stack
for `depth` lists and objects. -/
def Document.json? (d : Document) (depth : Nat) : Option Json :=
  match d with
  | .value j => (Json.ofStored j depth).toOption
  | .bytes b => (Json.ofBytes b depth).toOption
  | .flow _ => none

namespace Flow

theorem ofDocument_of_json? {d : Document} {depth : Nat} {j : Json} (h : d.json? depth = some j) :
    ofDocument d depth = ofJson j := by
  have of_read : ∀ r : Except DocumentFault Json, r.toOption = some j → r.bind ofJson = ofJson j := by
    intro r hr
    cases r with
    | error fault => cases hr
    | ok j' =>
      cases hr
      rfl
  cases d with
  | value j' => exact of_read _ h
  | bytes b => exact of_read _ h
  | flow f => cases h

/-- **The spelling of a document does not matter.** Take two documents that differ in their spelling
only, and that give no field under both of its keys, each as a value, as a text or in bytes. One is read
as a flow exactly if the other is read as the same flow, with all its fields and further entries, in the
same order. If they are not read, the same faults are found in them, in the same order. -/
theorem read_respelled {d d' : Document} {depth depth' : Nat} {j j' : Json}
    (hd : d.json? depth = some j) (hd' : d'.json? depth' = some j') (h : Respells j j') :
    (∀ f, ofDocument d depth = .ok f ↔ ofDocument d' depth' = .ok f) ∧
      ∀ fault fault', ofDocument d depth = .error fault → ofDocument d' depth' = .error fault' →
        fault'.problems.map Problem.fault = fault.problems.map Problem.fault := by
  rw [ofDocument_of_json? hd, ofDocument_of_json? hd']
  cases h with
  | same =>
    refine ⟨fun f => Iff.rfl, fun fault fault' hf hf' => ?_⟩
    cases hf.symm.trans hf'
    rfl
  | tables ho ho' h =>
    have hv := h.readEntries_verdict
    refine ⟨fun f => ?_, fun fault fault' hf hf' => ?_⟩
    · rw [ofJson_of_entries ho, ofJson_of_entries ho', ← Checked.verdict_eq_ok,
        ← Checked.verdict_eq_ok, hv]
    · rw [problems_of_ofJson ho hf, problems_of_ofJson ho' hf']
      exact Checked.faults_of_verdict hv

/-- The nodes of a document that asks whether to write, and where. -/
def signupNodes (ask route mail bye : List (String × Json)) : Json :=
  .obj [
    ("ask", .obj ([("type", .str "question"), ("note", .str "Be brief."),
      ("routes", .arr [
        .obj [("condition", .str "equals"), ("value", .str "yes"), ("next", .str "mail")],
        .obj (("next", .str "bye") :: route)])] ++ ask)),
    ("mail", .obj ([("type", .str "email"), ("text", .str "Where?"), ("next", .str "bye")] ++ mail)),
    ("bye", .obj (("type", .str "end") :: bye))]

/-- The document in camel case, with null for most fields that have no value. -/
def signup : Json :=
  .obj [("enabled", .null), ("startNodeId", .str "ask"),
    ("nodes", signupNodes [("text", .str "Shall we write?"), ("saveAs", .str "wants")]
      [("value", .null)] [("saveAs", .null), ("errorMessage", .str "Sorry?")] [("text", .null)])]

/-- The document in snake case, with null for other fields that have no value. -/
def signupRespelled : Json :=
  .obj [("nodes", signupNodes [("save_as", .str "wants"), ("text", .str "Shall we write?"),
      ("options", .null)] [] [("error_message", .str "Sorry?")] []),
    ("start_node_id", .str "ask")]

/-- The flow of both documents. -/
def signupFlow : Flow where
  enabled := true
  startNodeId := "ask"
  nodes := .ofList [
    ("ask", ⟨"ask", "Shall we write?", [],
      .question [⟨"equals", "yes", "mail"⟩, ⟨"default", none, "bye"⟩] "wants",
      .ofList [("note", .str "Be brief.")]⟩),
    ("mail", ⟨"mail", "Where?", [], .email true "email" "Sorry?" "bye", .empty⟩),
    ("bye", ⟨"bye", "", [], .ending, .empty⟩)]

theorem signup_respells : Respells signup signupRespelled := by
  have hroutes : Json.ItemsMatch Route.Respells
      (.arr [.obj [("condition", .str "equals"), ("value", .str "yes"), ("next", .str "mail")],
        .obj [("next", .str "bye"), ("value", .null)]])
      (.arr [.obj [("condition", .str "equals"), ("value", .str "yes"), ("next", .str "mail")],
        .obj [("next", .str "bye")]]) := by
    refine .items (.cons .same (.cons (.tables rfl rfl ?_) .nil))
    exact .of_given_eq (fun _ _ => rfl) (by decide +kernel) (by decide +kernel)
  have hsame : ∀ fd v, Node.SameValue fd v v := fun _ _ => .inl rfl
  refine .tables rfl rfl ⟨.of_given_eq (fun _ _ => rfl) (by decide +kernel) (by decide +kernel), ?_⟩
  refine .some (.tables rfl rfl (.cons ⟨rfl, .tables rfl rfl ?_⟩ (.cons ⟨rfl, .tables rfl rfl ?_⟩
    (.cons ⟨rfl, .tables rfl rfl ?_⟩ .nil))))
  · refine ⟨by decide +kernel, ?_, by decide +kernel⟩
    intro fd hf
    have hf : fd ∈ [Node.textField, Node.optionsField, Node.routesField, Node.saveAsField] := hf
    simp only [List.mem_cons, List.not_mem_nil, or_false] at hf
    rcases hf with rfl | rfl | rfl | rfl
    · exact .some (hsame _ _)
    · exact .none
    · exact .some (.inr ⟨rfl, hroutes⟩)
    · exact .some (hsame _ _)
  · exact .of_given_eq hsame (by decide +kernel) (by decide +kernel)
  · exact .of_given_eq hsame (by decide +kernel) (by decide +kernel)

/-- The theorem for two spellings of a document that differ in every kind of field. -/
theorem read_respelled_signup :
    Respells signup signupRespelled ∧ ofDocument (.value signup) Json.usualDepth = .ok signupFlow ∧
      ofDocument (.value signupRespelled) Json.usualDepth = .ok signupFlow := by
  have hf : ofDocument (.value signup) Json.usualDepth = .ok signupFlow := by decide +kernel
  have hd : (Document.value signup).json? Json.usualDepth = some signup := rfl
  have hd' : (Document.value signupRespelled).json? Json.usualDepth = some signupRespelled := rfl
  exact ⟨signup_respells, hf, ((read_respelled hd hd' signup_respells).1 signupFlow).1 hf⟩

end Flow

end Dialogue
