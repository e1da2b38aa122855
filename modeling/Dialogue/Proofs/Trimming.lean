import Dialogue.Text.Blank
import Mathlib.Data.List.DropRight

/-!
# Texts without outer blanks

A text is the blanks at its front, what is left when it is stripped, and the blanks at its end.

* `strip_eq_self_iff`: the stripped texts are those that neither begin nor end with a blank;
* `strip_strip`: a text is stripped once;
* `exists_strip`, `strip_append`: the blanks around a stripped text, which do not matter.
-/

namespace Dialogue.Text

/-- A text of blanks only. -/
def Blank (s : List Char) : Prop := ∀ c ∈ s, isBlank c = true

instance (s : List Char) : Decidable (Blank s) := List.decidableBAll _ s

@[simp] theorem blank_nil : Blank [] := by simp [Blank]

@[simp] theorem blank_cons {c : Char} {s : List Char} :
    Blank (c :: s) ↔ isBlank c = true ∧ Blank s := List.forall_mem_cons

theorem strip_eq (s : List Char) : strip s = (s.dropWhile isBlank).rdropWhile isBlank := rfl

/-! ### The blanks at the ends -/

/-- A text is what is left of it when it is stripped, with blanks around it. -/
theorem exists_strip (s : List Char) :
    ∃ l r, Blank l ∧ Blank r ∧ s = l ++ strip s ++ r := by
  refine ⟨s.takeWhile isBlank, (s.dropWhile isBlank).rtakeWhile isBlank,
    fun c => List.mem_takeWhile_imp, fun c => List.mem_rtakeWhile_imp, ?_⟩
  rw [strip_eq, List.append_assoc, List.rdropWhile_append_rtakeWhile,
    List.takeWhile_append_dropWhile]

theorem dropWhile_blank_append {l : List Char} (hl : Blank l) (s : List Char) :
    (l ++ s).dropWhile isBlank = s.dropWhile isBlank :=
  List.dropWhile_append_of_pos hl

theorem rdropWhile_append_blank {r : List Char} (hr : Blank r) (s : List Char) :
    (s ++ r).rdropWhile isBlank = s.rdropWhile isBlank := by
  have hr' : ∀ c ∈ r.reverse, isBlank c = true := fun c hc => hr c (List.mem_reverse.1 hc)
  rw [List.rdropWhile, List.rdropWhile, List.reverse_append, List.dropWhile_append_of_pos hr']

/-- Blanks around a text make no difference to what is left of it. -/
theorem strip_append {l r : List Char} (hl : Blank l) (hr : Blank r) (s : List Char) :
    strip (l ++ s ++ r) = strip s := by
  rw [strip_eq, strip_eq, List.append_assoc, dropWhile_blank_append hl, List.dropWhile_append]
  split_ifs with hs
  · -- the text is blank, so nothing is left on either side
    have hnil : s.dropWhile isBlank = [] := List.isEmpty_iff.1 hs
    rw [hnil, List.dropWhile_eq_nil_iff.2 hr]
  · exact rdropWhile_append_blank hr _

/-! ### Stripped texts -/

/-- The stripped texts are those that neither begin nor end with a blank. -/
theorem strip_eq_self_iff {s : List Char} :
    strip s = s ↔ (∀ c ∈ s.head?, isBlank c = false) ∧ ∀ c ∈ s.getLast?, isBlank c = false := by
  have hfront : s.dropWhile isBlank = s ↔ ∀ c ∈ s.head?, isBlank c = false := by
    rw [List.dropWhile_eq_self_iff]
    cases s <;> simp
  have hback : s.rdropWhile isBlank = s ↔ ∀ c ∈ s.getLast?, isBlank c = false := by
    rw [List.rdropWhile_eq_self_iff]
    cases s with
    | nil => simp
    | cons c r => simp [List.getLast?_eq_some_getLast]
  rw [strip_eq, ← hfront, ← hback]
  constructor
  · intro h
    -- nothing was dropped on either side, for then the text would be shorter
    have hle : s.length ≤ (s.dropWhile isBlank).length := by
      conv_lhs => rw [← h]
      exact (List.rdropWhile_prefix isBlank _).length_le
    have hd : s.dropWhile isBlank = s := (List.dropWhile_suffix isBlank).eq_of_length_le hle
    exact ⟨hd, by rwa [hd] at h⟩
  · rintro ⟨hd, hr⟩
    rw [hd, hr]

theorem head?_strip (s : List Char) : ∀ c ∈ (strip s).head?, isBlank c = false := by
  intro c hc
  -- the front of what is left is that of the text without the blanks at its front
  have hp : strip s <+: s.dropWhile isBlank := List.rdropWhile_prefix isBlank _
  obtain ⟨r, hr⟩ := List.head?_eq_some_iff.1 hc
  obtain ⟨t, ht⟩ := hp
  have hd := List.dropWhile_idempotent isBlank s
  rw [← ht, hr, List.cons_append, List.dropWhile_eq_self_iff] at hd
  simpa using hd (by simp)

theorem getLast?_strip (s : List Char) : ∀ c ∈ (strip s).getLast?, isBlank c = false := by
  intro c hc
  have hne : strip s ≠ [] := by
    intro h
    simp [h] at hc
  have hl : c = (strip s).getLast hne := by
    rw [List.getLast?_eq_some_getLast hne] at hc
    exact (Option.some.inj hc).symm
  rw [hl, ← Bool.not_eq_true]
  exact List.rdropWhile_last_not isBlank (s.dropWhile isBlank) hne

/-- A text is stripped once. -/
@[simp] theorem strip_strip (s : List Char) : strip (strip s) = strip s :=
  strip_eq_self_iff.2 ⟨head?_strip s, getLast?_strip s⟩

/-- A text without blanks is stripped. -/
theorem strip_of_forall {s : List Char} (h : ∀ c ∈ s, isBlank c = false) : strip s = s :=
  strip_eq_self_iff.2
    ⟨fun c hc => h c (List.mem_of_mem_head? hc), fun c hc => h c (List.mem_of_mem_getLast? hc)⟩

@[simp] theorem stripString_stripString (s : String) :
    stripString (stripString s) = stripString s := by
  simp [stripString]

end Dialogue.Text
