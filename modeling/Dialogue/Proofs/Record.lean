import Dialogue.Flow.Dump
import Mathlib.Data.List.Forall2
import Mathlib.Tactic.SplitIfs

/-!
# Reading records back

* `Checked.map_eq_valid`, `Checked.ap_eq_valid`, `Checked.under_eq_valid`: a check that succeeds,
  taken apart;
* `Assoc.mapValues`: a table with its values replaced;
* `Assoc.get?_filter`, `Assoc.get?_ofList`: looking up in tables made from others;
* `Field.default_of_camel`, `Field.default_of_snake`, `Field.default_of_none`,
  `Field.default_congr`: what a field is read from;
* `readList_map_eq_valid`, `readTable_eq_valid`: lists and objects, part by part;
* `Route.read_document`: a written route is read back.
-/

namespace Dialogue

/-! ### Checks -/

namespace Checked

variable {α β : Type}

theorem map_eq_valid {f : α → β} {x : Checked α} {b : β} :
    x.map f = .valid b ↔ ∃ a, x = .valid a ∧ f a = b := by
  cases x <;> simp [map]

theorem ap_eq_valid {f : Checked (α → β)} {x : Checked α} {b : β} :
    f.ap x = .valid b ↔ ∃ g a, f = .valid g ∧ x = .valid a ∧ g a = b := by
  cases f <;> cases x <;> simp [ap, map]

theorem under_eq_valid {x : Checked α} {s : Step} {a : α} :
    x.under s = .valid a ↔ x = .valid a := by
  cases x <;> simp [under]

@[simp] theorem fail_ne_valid {f : Fault} {a : α} : (fail f : Checked α) ≠ .valid a := nofun

@[simp] theorem map_valid (f : α → β) (a : α) : (valid a).map f = .valid (f a) := rfl

@[simp] theorem ap_valid (f : α → β) (a : α) : (valid f).ap (valid a) = .valid (f a) := rfl

@[simp] theorem under_valid (s : Step) (a : α) : (valid a).under s = .valid a := rfl

@[simp] theorem problems_valid (a : α) : (valid a).problems = [] := rfl

end Checked

/-! ### Tables -/

namespace Assoc

variable {κ α β : Type}

/-- The table with every value replaced. -/
def mapValues (g : α → β) (t : Assoc κ α) : Assoc κ β :=
  ⟨t.toList.map fun e => (e.1, g e.2), by simpa [Function.comp_def] using t.nodup⟩

@[simp] theorem toList_mapValues (g : α → β) (t : Assoc κ α) :
    (t.mapValues g).toList = t.toList.map fun e => (e.1, g e.2) := rfl

theorem lookup_map_snd [DecidableEq κ] (g : α → β) (l : List (κ × α)) (k : κ) :
    (l.map fun e => (e.1, g e.2)).lookup k = (l.lookup k).map g := by
  induction l with
  | nil => rfl
  | cons e r ih =>
    obtain ⟨k', v⟩ := e
    simp only [List.map_cons, lookup_cons_eq, ih]
    split_ifs <;> rfl

@[simp] theorem get?_mapValues [DecidableEq κ] (g : α → β) (t : Assoc κ α) (k : κ) :
    (t.mapValues g).get? k = (t.get? k).map g := lookup_map_snd g t.toList k

theorem get?_eq_none [DecidableEq κ] {t : Assoc κ α} {k : κ} : t.get? k = none ↔ k ∉ t.keys := by
  rw [← contains_iff, contains, Bool.not_eq_true, Option.isSome_eq_false_iff,
    Option.isNone_iff_eq_none]

/-- Looking up in the entries with a property. -/
@[simp] theorem get?_filter [DecidableEq κ] (t : Assoc κ α) (p : κ → α → Bool) (k : κ) :
    (t.filter p).get? k = (t.get? k).filter (p k) := by
  ext v
  rw [← mem_toList_iff, toList_filter, List.mem_filter, mem_toList_iff,
    Option.filter_eq_some_iff]

theorem get?_ofList [DecidableEq κ] {l : List (κ × α)} (h : (l.map Prod.fst).Nodup) (k : κ) :
    (ofList l).get? k = l.lookup k := by
  rw [get?, toList_ofList h]

end Assoc

@[simp] theorem Json.entries?_object (l : List (String × Json)) :
    (Json.object l).entries? = some (Assoc.ofList l) := by
  simp [Json.object, Json.entries?]

theorem Json.ne_null_of_entries? {j : Json} {o : Assoc String Json} (h : j.entries? = some o) :
    j ≠ .null := by
  rintro rfl
  cases h

@[simp] theorem Json.entries?_toList (t : Assoc String Json) :
    (Json.obj t.toList).entries? = some t := by
  simp [Json.entries?]

theorem lookup_optionalText (key k : String) (value : Option String) :
    (optionalText key value).lookup k = if k = key then value.map .str else none := by
  cases value with
  | none => simp [optionalText, optionalEntry]
  | some s => simp [optionalText, optionalEntry, lookup_cons_eq]

/-! ### Fields -/

namespace Field

variable {α : Type} {fd : Field} {o : Assoc String Json} {absent : α} {read : Json → Checked α}

theorem default_of_camel {v : Json} (h : o.get? fd.camel = some v) :
    fd.default absent read o = (read v).under (.key fd.camel) := by
  rw [default, find?, h]

theorem default_of_snake {v : Json} (hc : o.get? fd.camel = none) (h : o.get? fd.snake = some v) :
    fd.default absent read o = (read v).under (.key fd.snake) := by
  rw [default, find?, hc]
  simp [h]

theorem default_of_none (hc : o.get? fd.camel = none) (h : o.get? fd.snake = none) :
    fd.default absent read o = .valid absent := by
  rw [default, find?, hc]
  simp [h]

/-- A field is read from the entries under its two keys. -/
theorem default_congr {o' : Assoc String Json} (hc : o'.get? fd.camel = o.get? fd.camel)
    (hs : o'.get? fd.snake = o.get? fd.snake) :
    fd.default absent read o' = fd.default absent read o := by
  unfold default find?
  rw [hc, hs]

/-- A written text is read back. -/
theorem optional_readString {value : Option String}
    (hc : o.get? fd.camel = value.map .str) (h : value = none → o.get? fd.snake = none) :
    fd.optional readString o = .valid value := by
  cases value with
  | none => exact default_of_none hc (h rfl)
  | some s => exact default_of_camel hc

theorem plain_readString {name : String} {value : Option String}
    (h : o.get? name = value.map .str) : (plain name).optional readString o = .valid value :=
  optional_readString h fun hv => by rw [hv] at h; exact h

end Field

/-! ### Lists and objects -/

variable {α : Type}

theorem readItems_map_eq_valid {read : Json → Checked α} {write : α → Json} {l : List α}
    (h : ∀ a ∈ l, read (write a) = .valid a) (i : Nat) :
    readItems read i (l.map write) = .valid l := by
  induction l generalizing i with
  | nil => rfl
  | cons a r ih =>
    obtain ⟨ha, hr⟩ := List.forall_mem_cons.1 h
    rw [List.map_cons, readItems, ha, ih hr]
    rfl

/-- A written list is read back if its items are. -/
theorem readList_map_eq_valid {read : Json → Checked α} {write : α → Json} {l : List α}
    (h : ∀ a ∈ l, read (write a) = .valid a) : readList read (.arr (l.map write)) = .valid l :=
  readItems_map_eq_valid h 0

/-- Written texts are read back. -/
@[simp] theorem readList_ofStrings (l : List String) :
    readList readString (.ofStrings l) = .valid l :=
  readList_map_eq_valid fun _ _ => rfl

@[simp] theorem readOr_arr {absent : α} {read : Json → Checked α} (l : List Json) :
    readOr absent read (.arr l) = read (.arr l) := rfl

@[simp] theorem readOr_str {absent : α} {read : Json → Checked α} (s : String) :
    readOr absent read (.str s) = read (.str s) := rfl

/-- The entries of an object are read one by one. -/
theorem readEntries_eq_valid {read : String → Json → Checked α} {l : List (String × Json)}
    {r : List (String × α)} :
    readEntries read l = .valid r ↔
      List.Forall₂ (fun e x => x.1 = e.1 ∧ read e.1 e.2 = .valid x.2) l r := by
  induction l generalizing r with
  | nil => cases r <;> simp [readEntries]
  | cons e l ih =>
    obtain ⟨k, j⟩ := e
    simp only [readEntries, Checked.map_eq, Checked.seq_eq, Checked.ap_eq_valid,
      Checked.map_eq_valid, Checked.under_eq_valid, ih]
    constructor
    · rintro ⟨_, r', ⟨_, ⟨x, hx, rfl⟩, rfl⟩, hr, rfl⟩
      exact .cons ⟨rfl, hx⟩ hr
    · intro h
      cases h with
      | @cons _ x _ r' hx hr =>
        obtain ⟨rfl, hx⟩ := hx
        exact ⟨_, r', ⟨_, ⟨x.2, hx, rfl⟩, rfl⟩, hr, rfl⟩

theorem keys_of_forall₂ {R : String × Json → String × α → Prop} {l : List (String × Json)}
    {r : List (String × α)} (h : List.Forall₂ (fun e x => x.1 = e.1 ∧ R e x) l r) :
    r.map Prod.fst = l.map Prod.fst := by
  induction h with
  | nil => rfl
  | cons hx _ ih => rw [List.map_cons, List.map_cons, hx.1, ih]

theorem forall_mem_of_forall₂ {β γ : Type} {R : β → γ → Prop} {P : γ → Prop} {l : List β}
    {r : List γ} (h : List.Forall₂ R l r) (hP : ∀ b c, R b c → P c) : ∀ c ∈ r, P c := by
  induction h with
  | nil => simp
  | cons hx _ ih => exact List.forall_mem_cons.2 ⟨hP _ _ hx, ih⟩

theorem exists_mem_of_forall₂ {β γ : Type} {R : β → γ → Prop} {l : List β} {r : List γ}
    (h : List.Forall₂ R l r) : ∀ b ∈ l, ∃ c ∈ r, R b c := by
  induction h with
  | nil => simp
  | cons hx _ ih =>
    exact List.forall_mem_cons.2 ⟨⟨_, List.mem_cons_self, hx⟩, fun b hb =>
      let ⟨c, hc, hbc⟩ := ih b hb
      ⟨c, List.mem_cons_of_mem _ hc, hbc⟩⟩

/-- A table is read entry by entry, in order. -/
theorem readTable_eq_valid {read : String → Json → Checked α} {j : Json} {t : Assoc String α} :
    readTable read j = .valid t ↔
      ∃ o, j.entries? = some o ∧
        List.Forall₂ (fun e x => x.1 = e.1 ∧ read e.1 e.2 = .valid x.2) o.toList t.toList := by
  unfold readTable
  cases j.entries? with
  | none => simp
  | some o =>
    simp only [Checked.map_eq, Checked.map_eq_valid, readEntries_eq_valid, Option.some.injEq,
      exists_eq_left']
    -- the keys that are read are those of the object, so none of them is lost
    constructor
    · rintro ⟨r, hr, rfl⟩
      rwa [Assoc.toList_ofList (keys_of_forall₂ hr ▸ o.nodup)]
    · intro h
      exact ⟨t.toList, h, Assoc.ofList_toList t⟩

/-! ### Routes -/

/-- The entries that a route is written with. -/
def Route.written (r : Route) : List (String × Json) :=
  [(conditionField.camel, .str r.condition)] ++ optionalText valueField.camel r.value
    ++ optionalText nextField.camel r.next

theorem Route.nodup_written (r : Route) : (r.written.map Prod.fst).Nodup := by
  obtain ⟨condition, value, next⟩ := r
  cases value <;> cases next <;> simp [written, optionalText, optionalEntry] <;> decide

/-- A written route is read back. -/
theorem Route.read_document (r : Route) : Route.read r.document = .valid r := by
  have hg : ∀ k, (Assoc.ofList r.written).get? k =
      ((if k = "condition" then some (.str r.condition) else none).or
        (if k = "value" then r.value.map .str else none)).or
        (if k = "next" then r.next.map .str else none) := by
    intro k
    rw [Assoc.get?_ofList r.nodup_written, written, List.lookup_append, List.lookup_append,
      lookup_optionalText, lookup_optionalText, lookup_cons_eq]
    rfl
  have hc : (Assoc.ofList r.written).get? "condition" = some (.str r.condition) := by simp [hg]
  have hv : (Assoc.ofList r.written).get? "value" = r.value.map .str := by simp [hg]
  have hn : (Assoc.ofList r.written).get? "next" = r.next.map .str := by simp [hg]
  have hread : Route.read r.document = Route.mk <$>
      conditionField.default Condition.default.name readString (Assoc.ofList r.written)
        <*> valueField.optional readString (Assoc.ofList r.written)
        <*> nextField.optional readString (Assoc.ofList r.written) := by
    have hd : r.document = .object r.written := rfl
    rw [hd, Route.read, readRecord, Json.entries?_object]
  rw [hread, Field.default_of_camel hc, valueField, Field.plain_readString hv, nextField,
    Field.plain_readString hn]
  rfl

end Dialogue
