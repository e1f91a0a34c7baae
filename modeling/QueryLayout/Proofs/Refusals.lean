import QueryLayout.Toml.Document

namespace QueryLayout.Toml

/-- An integer that a text is refused for has too many digits. -/
def Problem.IsFounded : Problem → Prop
  | .longInteger digits => mostDigits < digits
  | _ => True

/-- Whatever goes wrong does so for a reason. -/
def Founded {α : Type} (result : Except Problem α) : Prop :=
  ∀ problem, result = .error problem → problem.IsFounded

section Results

variable {α β : Type}

theorem founded_ok (value : α) : Founded (.ok value) := nofun

theorem founded_error {problem : Problem} (founded : problem.IsFounded) :
    Founded (.error problem : Except _ α) := by
  rintro _ ⟨⟩
  exact founded

theorem Founded.map {result : Except Problem α} (founded : Founded result) (f : α → β) :
    Founded (result.map f) := by
  intro problem failed
  cases result with
  | error => exact founded problem (by simpa [Except.map] using failed)
  | ok => cases failed

theorem Founded.bind {result : Except Problem α} (founded : Founded result) {next : α → Except Problem β}
    (later : ∀ value, Founded (next value)) : Founded (result >>= next) := by
  intro problem failed
  cases result with
  | error => exact founded problem (by simpa [Bind.bind, Except.bind] using failed)
  | ok value => exact later value problem failed

end Results

theorem founded_readLiteral (text : List Char) : Founded (readLiteral text) := by
  induction text with
  | nil => exact founded_error trivial
  | cons c rest ih =>
    rw [readLiteral]
    split
    · exact founded_ok _
    · split
      · exact founded_error trivial
      · exact ih.map _

theorem founded_readLongLiteral (text : List Char) : Founded (readLongLiteral text) := by
  fun_induction readLongLiteral text with
  | case1 => exact founded_ok _
  | case2 => exact founded_error trivial
  | case3 _ _ _ _ ih => exact ih.map _
  | case4 => exact founded_error trivial

theorem founded_readBasic (multiline : Bool) (gap : LineGap) (text : List Char) :
    Founded (readBasic multiline gap text) := by
  fun_induction readBasic multiline gap text
  all_goals first
    | exact founded_ok _
    | exact founded_error trivial
    | assumption
    | exact Founded.map (by assumption) _

theorem founded_readText (text : List Char) : Founded (readText text) := by
  unfold readText
  split
  · exact (founded_readBasic _ _ _).map _
  · exact founded_readBasic _ _ _
  · exact (founded_readLongLiteral _).map _
  · exact founded_readLiteral _
  · exact founded_error trivial

theorem founded_number? (text : List Char) : ∀ result ∈ number? text, Founded result := by
  intro result found
  rcases Option.or_eq_some_iff.mp found with based | ⟨_, decimal⟩
  · obtain ⟨value, _, rfl⟩ := Option.map_eq_some_iff.mp based
    exact founded_ok _
  · obtain ⟨⟨whole, rest⟩, _, rfl⟩ := Option.map_eq_some_iff.mp decimal
    dsimp only
    split
    · split
      · rename_i long
        exact founded_error long
      · exact founded_ok _
    · exact founded_ok _

theorem founded_readScalar (text : List Char) : Founded (readScalar text) := by
  unfold readScalar
  split
  · exact (founded_readText _).map _
  · split
    · split
      · exact founded_ok _
      · exact founded_error trivial
    · split
      · exact founded_ok _
      · split
        · rename_i result found
          rcases Option.or_eq_some_iff.mp found with number | ⟨_, keyword⟩
          · exact founded_number? _ _ number
          · obtain ⟨value, _, rfl⟩ := Option.map_eq_some_iff.mp keyword
            exact founded_ok _
        · exact founded_error trivial

theorem founded_skipGaps (comment : Bool) (text : List Char) : Founded (skipGaps comment text) := by
  fun_induction skipGaps comment text with
  | case1 => exact founded_ok _
  | case2 _ ih => exact ih
  | case3 => exact founded_error trivial
  | case4 _ _ _ _ ih => exact ih
  | case5 _ _ _ ih => exact ih
  | case6 _ _ ih => exact ih
  | case7 => exact founded_ok _

theorem founded_readKeyPart (text : List Char) : Founded (readKeyPart text) := by
  unfold readKeyPart
  split
  · exact founded_readBasic _ _ _
  · exact founded_readLiteral _
  · dsimp only
    split
    · exact founded_error trivial
    · exact founded_ok _

theorem founded_readKeyWithin (steps : Nat) (text : List Char) : Founded (readKeyWithin steps text) := by
  induction steps generalizing text with
  | zero => exact founded_error trivial
  | succ steps ih =>
    refine (founded_readKeyPart text).bind fun ⟨name, rest⟩ => ?_
    dsimp only
    split
    · exact (ih _).bind fun _ => founded_ok _
    · exact founded_ok _

theorem founded_readAssigned (text : List Char) : Founded (readAssigned text) := by
  refine (founded_readKeyWithin _ text).bind fun ⟨key, rest⟩ => ?_
  dsimp only
  split
  · exact founded_ok _
  · exact founded_error trivial

section Tables

variable {change : Table → Except Problem Table} (founded : ∀ table, Founded (change table))

include founded

theorem founded_within (throughArrays : Bool) (key : Key) (table : Table) :
    Founded (table.within throughArrays change key) := by
  induction key generalizing table with
  | nil => exact founded table
  | cons name names ih =>
    unfold Table.within
    split
    · exact (ih _).bind fun _ => founded_ok _
    · exact (ih _).bind fun _ => founded_ok _
    · split
      · exact (ih _).bind fun _ => founded_ok _
      · exact founded_error trivial
    · exact founded_error trivial

end Tables

theorem founded_define (name : List Char) (value : Value) (table : Table) : Founded (table.define name value) := by
  unfold Table.define
  split
  · exact founded_error trivial
  · exact founded_ok _

theorem founded_assign (throughArrays : Bool) (parents : Key) (name : List Char) (value : Value) (table : Table) :
    Founded (table.assign throughArrays parents name value) :=
  founded_within (founded_define name value) throughArrays parents table

mutual

theorem founded_readValue : ∀ (steps : Nat) (text : List Char), Founded (readValue steps text)
  | 0, _ => founded_error trivial
  | steps + 1, text => by
    unfold readValue
    split
    · refine (founded_skipGaps _ _).bind fun rest => ?_
      dsimp only
      split
      · exact founded_ok _
      · exact (founded_readItems steps _).bind fun _ => founded_ok _
    · split
      · exact founded_ok _
      · exact (founded_readEntries steps _ _ _).bind fun _ => founded_ok _
    · exact founded_readScalar text

theorem founded_readItems : ∀ (steps : Nat) (text : List Char), Founded (readItems steps text)
  | 0, _ => founded_error trivial
  | steps + 1, text => by
    unfold readItems
    refine (founded_readValue steps text).bind fun ⟨value, rest⟩ => ?_
    refine (founded_skipGaps _ _).bind fun rest => ?_
    dsimp only
    split
    · exact founded_ok _
    · refine (founded_skipGaps _ _).bind fun rest => ?_
      split
      · exact founded_ok _
      · exact (founded_readItems steps _).bind fun _ => founded_ok _
    · exact founded_error trivial

theorem founded_readEntries : ∀ (steps : Nat) (table : Table) (closed : List Key) (text : List Char),
    Founded (readEntries steps table closed text)
  | 0, _, _, _ => founded_error trivial
  | steps + 1, table, closed, text => by
    unfold readEntries
    refine (founded_readAssigned text).bind fun ⟨key, rest⟩ => ?_
    refine (founded_readValue steps rest).bind fun ⟨value, rest⟩ => ?_
    dsimp only
    split
    · exact founded_error trivial
    · refine (founded_assign _ _ _ _ _).bind fun table => ?_
      split
      · exact founded_ok _
      · exact founded_readEntries steps _ _ _
      · exact founded_error trivial

end

section Drafts

variable (draft : Draft)

theorem founded_openTable (key : Key) : Founded (draft.openTable key) := by
  unfold Draft.openTable
  split
  · exact founded_error trivial
  · exact (founded_within founded_ok _ _ _).bind fun _ => founded_ok _

theorem founded_appendTable (name : List Char) (table : Table) : Founded (table.appendTable name) := by
  unfold Table.appendTable
  split
  · exact founded_ok _
  · exact founded_ok _
  · exact founded_error trivial

theorem founded_openItem (key : Key) : Founded (draft.openItem key) := by
  unfold Draft.openItem
  split
  · exact founded_error trivial
  · exact (founded_within (founded_appendTable _) _ _ _).bind fun _ => founded_ok _

theorem founded_draft_assign (key : Key) (value : Value) : Founded (draft.assign key value) := by
  unfold Draft.assign
  dsimp only
  split
  · exact founded_error trivial
  · exact (founded_assign _ _ _ _ _).bind fun _ => founded_ok _

theorem founded_endStatement (text : List Char) : Founded (endStatement text) := by
  unfold endStatement
  split
  · exact founded_ok _
  · exact founded_ok _
  · split
    · exact founded_error trivial
    · exact founded_ok _
  · exact founded_error trivial

theorem founded_readStatement (steps : Nat) (text : List Char) : Founded (draft.readStatement steps text) := by
  unfold Draft.readStatement
  split
  · refine (founded_readKeyWithin _ _).bind fun ⟨key, rest⟩ => (founded_openItem _ key).bind fun draft => ?_
    split
    · exact founded_ok _
    · exact founded_error trivial
  · refine (founded_readKeyWithin _ _).bind fun ⟨key, rest⟩ => (founded_openTable _ key).bind fun draft => ?_
    split
    · exact founded_ok _
    · exact founded_error trivial
  · refine (founded_readAssigned text).bind fun ⟨key, rest⟩ => (founded_readValue steps rest).bind fun value => ?_
    exact (founded_draft_assign draft key value.1).bind fun _ => founded_ok _

theorem founded_readStatements (steps lines : Nat) (text : List Char) :
    Founded (draft.readStatements steps lines text) := by
  induction lines generalizing draft text with
  | zero => exact founded_ok _
  | succ lines ih =>
    unfold Draft.readStatements
    split
    · exact founded_ok _
    · exact ih _ _
    · exact (founded_endStatement _).bind fun rest => ih _ rest
    · refine (founded_readStatement draft steps _).bind fun ⟨draft, rest⟩ => ?_
      exact (founded_endStatement rest).bind fun rest => ih draft rest

end Drafts

/-- A document is never refused for an integer that can be read. -/
theorem read_eq_longInteger {text : List Char} {digits : Nat} (refused : read text = .error (.longInteger digits)) :
    mostDigits < digits := by
  have founded : Founded (read text) := (founded_readStatements _ _ _ _).bind fun _ => founded_ok _
  exact founded _ refused

end QueryLayout.Toml
