import Mathlib.Data.List.DropRight
import QueryLayout.Text.Blank

namespace QueryLayout

/-- A text of blanks only, such as may stand between two tokens. -/
def IsGap (text : List Char) : Prop :=
  ∀ c ∈ text, isBlank c

@[simp] theorem isGap_nil : IsGap [] := by
  simp [IsGap]

@[simp] theorem isGap_cons {c : Char} {text : List Char} :
    IsGap (c :: text) ↔ isBlank c ∧ IsGap text := by
  simp [IsGap]

@[simp] theorem isGap_append {first second : List Char} :
    IsGap (first ++ second) ↔ IsGap first ∧ IsGap second := by
  simp [IsGap, or_imp, forall_and]

theorem IsGap.replicate_flatten {unit : List Char} (gap : IsGap unit) (count : Nat) :
    IsGap (List.replicate count unit).flatten := by
  induction count with
  | zero => simp
  | succ count ih => simpa [List.replicate_succ] using ⟨gap, ih⟩

theorem trimEnd_eq_rdropWhile (text : List Char) : trimEnd text = text.rdropWhile isBlank :=
  rfl

@[simp] theorem trimEnd_nil : trimEnd [] = [] := rfl

theorem trimEnd_concat (text : List Char) (c : Char) :
    trimEnd (text ++ [c]) = if isBlank c then trimEnd text else text ++ [c] :=
  List.rdropWhile_concat isBlank text c

theorem trimEnd_eq_nil_iff {text : List Char} : trimEnd text = [] ↔ IsGap text := by
  rw [trimEnd_eq_rdropWhile, List.rdropWhile_eq_nil_iff]
  rfl

@[simp] theorem trimEnd_trimEnd (text : List Char) : trimEnd (trimEnd text) = trimEnd text :=
  List.rdropWhile_idempotent isBlank text

/-- Trimming cuts off a gap and nothing else. -/
theorem trimEnd_append_gap (text : List Char) : ∃ gap, IsGap gap ∧ text = trimEnd text ++ gap := by
  refine ⟨text.rtakeWhile isBlank, fun c member => List.mem_rtakeWhile_imp member, ?_⟩
  rw [trimEnd_eq_rdropWhile, List.rdropWhile_append_rtakeWhile]

/-- A text that keeps a visible character protects all that stands before
it from trimming. -/
theorem trimEnd_append (first second : List Char) :
    trimEnd (first ++ second) =
      if trimEnd second = [] then trimEnd first else first ++ trimEnd second := by
  induction second using List.reverseRecOn with
  | nil => simp
  | append_singleton second c ih =>
    rw [← List.append_assoc]
    simp only [trimEnd_concat]
    by_cases blank : isBlank c
    · simpa [blank] using ih
    · simp [blank]

theorem IsGap.trimEnd_append {gap : List Char} (blank : IsGap gap) (text : List Char) :
    trimEnd (text ++ gap) = trimEnd text := by
  rw [QueryLayout.trimEnd_append, if_pos (trimEnd_eq_nil_iff.mpr blank)]

theorem trimEnd_append_of_visible (first : List Char) {second : List Char}
    (trimmed : trimEnd second = second) (visible : second ≠ []) :
    trimEnd (first ++ second) = first ++ second := by
  rw [trimEnd_append, trimmed, if_neg visible]

theorem trimEnd_append_of_trimmed {first : List Char} (trimmed : trimEnd first = first) (second : List Char) :
    trimEnd (first ++ second) = first ++ trimEnd second := by
  rw [trimEnd_append]
  split
  · rename_i empty
    rw [empty, trimmed, List.append_nil]
  · rfl

theorem trimEnd_of_forall {text : List Char} (visible : ∀ c ∈ text, isBlank c = false) : trimEnd text = text := by
  rcases List.eq_nil_or_concat text with rfl | ⟨front, c, rfl⟩
  · rfl
  · rw [List.concat_eq_append] at visible ⊢
    rw [trimEnd_concat, visible c (by simp)]
    rfl

theorem trimEnd_cons_of_visible {c : Char} (visible : isBlank c = false) (text : List Char) :
    trimEnd (c :: text) = c :: trimEnd text := by
  have single : trimEnd [c] = [c] := trimEnd_of_forall (by simpa using visible)
  exact trimEnd_append_of_trimmed single text

theorem trimEnd_append_trimEnd (first second : List Char) :
    trimEnd (first ++ trimEnd second) = trimEnd (first ++ second) := by
  rw [trimEnd_append, trimEnd_append, trimEnd_trimEnd]

theorem trimStart_append (first second : List Char) :
    trimStart (first ++ second) = if trimStart first = [] then trimStart second else trimStart first ++ second := by
  unfold trimStart
  rw [List.dropWhile_append]
  by_cases empty : first.dropWhile isBlank = [] <;> simp [empty]

theorem trimStart_append_trimStart (first second : List Char) :
    trimStart (trimStart first ++ second) = trimStart (first ++ second) := by
  have twice : trimStart (trimStart first) = trimStart first := List.dropWhile_idempotent isBlank first
  rw [trimStart_append, trimStart_append, twice]

theorem trimStart_cons_of_visible {c : Char} (visible : isBlank c = false) (text : List Char) :
    trimStart (c :: text) = c :: text :=
  List.dropWhile_cons_of_neg (by simp [visible])

/-- A visible character protects all that stands behind it. -/
theorem trimStart_append_cons (first : List Char) {c : Char} (visible : isBlank c = false) (second : List Char) :
    trimStart (first ++ c :: second) = trimStart first ++ c :: second := by
  rw [trimStart_append, trimStart_cons_of_visible visible]
  split
  · rename_i empty
    rw [empty, List.nil_append]
  · rfl

theorem trimStart_trimEnd (text : List Char) : trimStart (trimEnd text) = trimEnd (trimStart text) := by
  induction text with
  | nil => rfl
  | cons c text ih =>
    by_cases blank : isBlank c
    · have skip : ∀ later, trimStart (c :: later) = trimStart later := fun later => List.dropWhile_cons_of_pos blank
      have gone : trimEnd [c] = [] := trimEnd_eq_nil_iff.mpr (isGap_cons.mpr ⟨blank, isGap_nil⟩)
      rw [skip, ← ih, show c :: text = [c] ++ text from rfl, trimEnd_append, gone]
      split
      · rename_i empty
        rw [empty]
      · exact skip (trimEnd text)
    · have visible : isBlank c = false := by simpa using blank
      rw [trimEnd_cons_of_visible visible, trimStart_cons_of_visible visible, trimStart_cons_of_visible visible,
        trimEnd_cons_of_visible visible]

/-- What is trimmed anyway may be trimmed before. -/
theorem trim_append_trim (first middle second : List Char) :
    trim (trim first ++ middle ++ trim second) = trim (trimEnd first ++ middle ++ trimStart second) := by
  have outer : ∀ text, trim text = trimStart (trimEnd text) := fun text => (trimStart_trimEnd text).symm
  have inner : trim second = trimEnd (trimStart second) := rfl
  rw [outer first, List.append_assoc, trim, trimStart_append_trimStart, ← List.append_assoc, ← trim, outer, inner,
    trimEnd_append_trimEnd, ← outer]

end QueryLayout
