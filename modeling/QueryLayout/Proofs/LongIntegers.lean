import QueryLayout.Toml.Value

namespace QueryLayout.Toml

/-- An integer stands in a value: it is the value, or it stands in an item or an entry of it. -/
inductive Value.Holds (count : Int) : Value → Prop
  | integer : Holds count (.integer count)
  | item {items : List Value} {item : Value} : item ∈ items → Holds count item → Holds count (.array items)
  | entry {entries : List (List Char × Value)} {entry : List Char × Value} : entry ∈ entries →
      Holds count entry.2 → Holds count (.table entries)

/-- An integer with too many digits to be shown stands in a value. -/
def Value.HoldsLong (value : Value) : Prop :=
  ∃ count, value.Holds count ∧ isLong count

theorem Value.holdsLong_integer {count : Int} : (Value.integer count).HoldsLong ↔ isLong count := by
  constructor
  · rintro ⟨_, ⟨⟩, long⟩
    exact long
  · exact fun long => ⟨count, .integer, long⟩

theorem Value.holdsLong_array {items : List Value} :
    (Value.array items).HoldsLong ↔ ∃ item ∈ items, item.HoldsLong := by
  constructor
  · rintro ⟨count, holds, long⟩
    cases holds with
    | item member holds => exact ⟨_, member, count, holds, long⟩
  · rintro ⟨item, member, count, holds, long⟩
    exact ⟨count, .item member holds, long⟩

theorem Value.holdsLong_table {entries : List (List Char × Value)} :
    (Value.table entries).HoldsLong ↔ ∃ entry ∈ entries, entry.2.HoldsLong := by
  constructor
  · rintro ⟨count, holds, long⟩
    cases holds with
    | entry member holds => exact ⟨_, member, count, holds, long⟩
  · rintro ⟨entry, member, count, holds, long⟩
    exact ⟨count, .entry member holds, long⟩

mutual

/-- A value is shown unless an integer in it is too long. -/
theorem Value.display?_eq_none_iff : ∀ value : Value, value.display? = none ↔ value.HoldsLong
  | .integer count => by
    rw [Value.display?, Value.holdsLong_integer]
    split <;> simp [*]
  | .array items => by
    rw [Value.display?, Option.map_eq_none_iff, displayItems?_eq_none_iff items, Value.holdsLong_array]
  | .table entries => by
    rw [Value.display?, Option.map_eq_none_iff, displayEntries?_eq_none_iff entries, Value.holdsLong_table]
  | .boolean _ | .float _ | .text _ | .date _ | .time _ | .dateTime _ => by
    rw [Value.display?]
    exact iff_of_false (Option.some_ne_none _) fun ⟨_, holds, _⟩ => by cases holds

theorem displayItems?_eq_none_iff : ∀ items : List Value,
    displayItems? items = none ↔ ∃ item ∈ items, item.HoldsLong
  | [] => by simp [displayItems?]
  | item :: later => by
    simp only [displayItems?, List.mem_cons, exists_eq_or_imp, ← item.display?_eq_none_iff,
      ← displayItems?_eq_none_iff later]
    cases item.display? <;> cases displayItems? later <;> simp

theorem displayEntries?_eq_none_iff : ∀ entries : List (List Char × Value),
    displayEntries? entries = none ↔ ∃ entry ∈ entries, entry.2.HoldsLong
  | [] => by simp [displayEntries?]
  | (key, value) :: later => by
    simp only [displayEntries?, List.mem_cons, exists_eq_or_imp, ← value.display?_eq_none_iff,
      ← displayEntries?_eq_none_iff later]
    cases value.display? <;> cases displayEntries? later <;> simp

end

/-- A value stands for a placeholder unless an integer in it is too long. -/
theorem Value.plain?_eq_none_iff {value : Value} : value.plain? = none ↔ value.HoldsLong := by
  cases value with
  | text | date | time | dateTime =>
    exact iff_of_false (Option.some_ne_none _) fun ⟨_, holds, _⟩ => by cases holds
  | _ => exact Value.display?_eq_none_iff _

end QueryLayout.Toml
