/-!
# Tables in order of insertion

A table holds one value per key and remembers the order in which its keys were
first written.

* `Assoc κ α`: a list of entries whose keys are distinct;
* `get?`, `contains`, `keys`: what stands under a key;
* `insert`: overwrites in place, or appends a new key;
* `ofList`: of several entries with one key the last value counts, at the place of
  the first;
* `filter`, `merge`: the entries that are kept, and the overwriting of one table by
  another.

An entry is in the list exactly if its key looks up its value (`mem_toList_iff`), and a list
with distinct keys is the list of its table (`toList_ofList`).
-/

namespace Dialogue

variable {κ α : Type}

/-- Write `v` under `k`: in place if `k` is there, else at the end. -/
def putEntry [DecidableEq κ] (k : κ) (v : α) : List (κ × α) → List (κ × α)
  | [] => [(k, v)]
  | e :: r => if e.1 = k then (k, v) :: r else e :: putEntry k v r

theorem mem_keys_putEntry [DecidableEq κ] {k x : κ} {v : α} {l : List (κ × α)} :
    x ∈ (putEntry k v l).map Prod.fst ↔ x = k ∨ x ∈ l.map Prod.fst := by
  induction l with
  | nil => simp [putEntry]
  | cons e r ih =>
    by_cases h : e.1 = k
    · subst h; simp [putEntry]
    · simp only [putEntry, h, if_false, List.map_cons, List.mem_cons, ih]
      grind

theorem nodup_keys_putEntry [DecidableEq κ] {k : κ} {v : α} {l : List (κ × α)}
    (h : (l.map Prod.fst).Nodup) : ((putEntry k v l).map Prod.fst).Nodup := by
  induction l with
  | nil => simp [putEntry]
  | cons e r ih =>
    rw [List.map_cons, List.nodup_cons] at h
    by_cases hk : e.1 = k
    · subst hk; simpa [putEntry] using h
    · simp only [putEntry, hk, if_false, List.map_cons, List.nodup_cons, mem_keys_putEntry]
      exact ⟨by grind, ih h.2⟩

theorem lookup_cons_eq [DecidableEq κ] (k x : κ) (v : α) (l : List (κ × α)) :
    ((k, v) :: l).lookup x = if x = k then some v else l.lookup x := by
  by_cases h : x = k
  · simp [h]
  · have hb : (x == k) = false := by simpa using h
    simp [List.lookup_cons, hb, h]

theorem lookup_putEntry [DecidableEq κ] {k x : κ} {v : α} {l : List (κ × α)} :
    (putEntry k v l).lookup x = if x = k then some v else l.lookup x := by
  induction l with
  | nil => rw [putEntry, lookup_cons_eq]
  | cons e r ih =>
    obtain ⟨k', v'⟩ := e
    by_cases hk : k' = k
    · subst hk
      simp only [putEntry, if_true, lookup_cons_eq]
      split <;> rfl
    · simp only [putEntry, hk, if_false, lookup_cons_eq, ih]
      by_cases hx : x = k
      · have hn : k ≠ k' := fun h => hk h.symm
        simp [hx, hn]
      · simp [hx]

/-- A new key goes to the end. -/
theorem putEntry_of_not_mem [DecidableEq κ] {k : κ} {v : α} {l : List (κ × α)}
    (h : k ∉ l.map Prod.fst) : putEntry k v l = l ++ [(k, v)] := by
  induction l with
  | nil => rfl
  | cons e r ih =>
    rw [List.map_cons, List.mem_cons, not_or] at h
    have hk : e.1 ≠ k := fun he => h.1 he.symm
    simp [putEntry, hk, ih h.2]

/-- Under distinct keys an entry is what its key looks up. -/
theorem mem_iff_lookup_eq_some [DecidableEq κ] {k : κ} {v : α} {l : List (κ × α)}
    (h : (l.map Prod.fst).Nodup) : (k, v) ∈ l ↔ l.lookup k = some v := by
  induction l with
  | nil => simp
  | cons e r ih =>
    rw [List.map_cons, List.nodup_cons] at h
    obtain ⟨k', v'⟩ := e
    by_cases hk : k = k'
    · subst hk
      have hr : (k, v) ∉ r := fun hm => h.1 (List.mem_map.mpr ⟨_, hm, rfl⟩)
      simp [hr, eq_comm]
    · simp [lookup_cons_eq, hk, ih h.2]

/-- A table with distinct keys, in the order of their first writing. -/
structure Assoc (κ α : Type) where
  toList : List (κ × α)
  nodup : (toList.map Prod.fst).Nodup
  deriving DecidableEq

namespace Assoc

/-- The table without entries. -/
def empty : Assoc κ α := ⟨[], by simp⟩

instance : Inhabited (Assoc κ α) := ⟨empty⟩

/-- The keys, in order. -/
def keys (t : Assoc κ α) : List κ := t.toList.map Prod.fst

/-- The values, in order. -/
def values (t : Assoc κ α) : List α := t.toList.map Prod.snd

/-- The number of entries. -/
def size (t : Assoc κ α) : Nat := t.toList.length

/-- Whether there is no entry. -/
def isEmpty (t : Assoc κ α) : Bool := t.toList.isEmpty

/-- The value under a key. -/
def get? [DecidableEq κ] (t : Assoc κ α) (k : κ) : Option α := t.toList.lookup k

/-- Whether a key is present. -/
def contains [DecidableEq κ] (t : Assoc κ α) (k : κ) : Bool := (t.get? k).isSome

/-- Write a value: in place if the key is present, else at the end. -/
def insert [DecidableEq κ] (t : Assoc κ α) (k : κ) (v : α) : Assoc κ α :=
  ⟨putEntry k v t.toList, nodup_keys_putEntry t.nodup⟩

/-- Overwrite `t` by the entries of a list, from left to right. -/
def insertAll [DecidableEq κ] (t : Assoc κ α) (l : List (κ × α)) : Assoc κ α :=
  l.foldl (fun u e => u.insert e.1 e.2) t

/-- The table of a list: the last value of a key, at the place of its first entry. -/
def ofList [DecidableEq κ] (l : List (κ × α)) : Assoc κ α := empty.insertAll l

/-- Overwrite `t` by the entries of `u`. -/
def merge [DecidableEq κ] (t u : Assoc κ α) : Assoc κ α := t.insertAll u.toList

/-- The entries with a property, in order. -/
def filter (p : κ → α → Bool) (t : Assoc κ α) : Assoc κ α :=
  ⟨t.toList.filter fun e => p e.1 e.2, (List.filter_sublist.map _).nodup t.nodup⟩

@[simp] theorem toList_empty : (empty : Assoc κ α).toList = [] := rfl

@[simp] theorem toList_insert [DecidableEq κ] (t : Assoc κ α) (k : κ) (v : α) :
    (t.insert k v).toList = putEntry k v t.toList := rfl

@[simp] theorem toList_filter (p : κ → α → Bool) (t : Assoc κ α) :
    (t.filter p).toList = t.toList.filter fun e => p e.1 e.2 := rfl

@[simp] theorem get?_empty [DecidableEq κ] (k : κ) : (empty : Assoc κ α).get? k = none := rfl

@[simp] theorem get?_insert [DecidableEq κ] (t : Assoc κ α) (k x : κ) (v : α) :
    (t.insert k v).get? x = if x = k then some v else t.get? x := lookup_putEntry

theorem mem_toList_iff [DecidableEq κ] {t : Assoc κ α} {k : κ} {v : α} :
    (k, v) ∈ t.toList ↔ t.get? k = some v := mem_iff_lookup_eq_some t.nodup

theorem contains_iff [DecidableEq κ] {t : Assoc κ α} {k : κ} :
    t.contains k = true ↔ k ∈ t.keys := by
  rw [contains, Option.isSome_iff_exists, keys, List.mem_map]
  constructor
  · rintro ⟨v, hv⟩
    exact ⟨(k, v), mem_toList_iff.mpr hv, rfl⟩
  · rintro ⟨⟨k', v⟩, hm, rfl⟩
    exact ⟨v, mem_toList_iff.mp hm⟩

@[simp] theorem insertAll_nil [DecidableEq κ] (t : Assoc κ α) : t.insertAll [] = t := rfl

@[simp] theorem insertAll_cons [DecidableEq κ] (t : Assoc κ α) (e : κ × α) (l : List (κ × α)) :
    t.insertAll (e :: l) = (t.insert e.1 e.2).insertAll l := rfl

@[simp] theorem ofList_nil [DecidableEq κ] : ofList ([] : List (κ × α)) = empty := rfl

@[ext] theorem ext {t u : Assoc κ α} (h : t.toList = u.toList) : t = u := by
  cases t; cases u; cases h; rfl

/-- Entries with new and distinct keys are appended in their order. -/
theorem toList_insertAll [DecidableEq κ] {t : Assoc κ α} {l : List (κ × α)}
    (h : ((t.toList ++ l).map Prod.fst).Nodup) : (t.insertAll l).toList = t.toList ++ l := by
  induction l generalizing t with
  | nil => simp
  | cons e r ih =>
    have hd : ∀ x ∈ t.toList.map Prod.fst, x ≠ e.1 := by
      intro x hx hxe
      rw [List.map_append, List.nodup_append] at h
      exact h.2.2 x hx e.1 (by simp) hxe
    have hp : (t.insert e.1 e.2).toList = t.toList ++ [e] :=
      putEntry_of_not_mem fun hm => hd _ hm rfl
    rw [insertAll_cons, ih (by rw [hp]; simpa using h), hp]
    simp

/-- A list with distinct keys is the list of its table. -/
theorem toList_ofList [DecidableEq κ] {l : List (κ × α)} (h : (l.map Prod.fst).Nodup) :
    (ofList l).toList = l := by
  simpa [ofList] using toList_insertAll (t := empty) (l := l) (by simpa using h)

@[simp] theorem ofList_toList [DecidableEq κ] (t : Assoc κ α) : ofList t.toList = t :=
  ext (toList_ofList t.nodup)

end Assoc

end Dialogue
