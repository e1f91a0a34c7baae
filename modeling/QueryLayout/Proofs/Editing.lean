import QueryLayout.Document
import QueryLayout.Proofs.Quoting

namespace QueryLayout

/-- How many characters of a text stand before a line. A text has one line more than it has line
breaks, and no other. -/
def lineOffset? : Nat → List Char → Option Nat
  | 0, _ => some 0
  | _ + 1, [] => none
  | line + 1, '\r' :: '\n' :: rest => (lineOffset? line rest).map (2 + ·)
  | line + 1, c :: rest => (lineOffset? (if isLineEnd c then line else line + 1) rest).map (1 + ·)

/-- How many characters of a text stand before a column of its first line. Past the end of the line,
and between the two units of one character, there is no column. -/
def columnOffset? : Nat → List Char → Option Nat
  | 0, _ => some 0
  | _ + 1, [] => none
  | column + 1, c :: rest =>
    if isLineEnd c || column + 1 < unitCount c then none
    else (columnOffset? (column + 1 - unitCount c) rest).map (1 + ·)

/-- How many characters of a text stand before a position. -/
def Position.offset? (position : Position) (text : List Char) : Option Nat :=
  (lineOffset? position.line text).bind fun start =>
    (columnOffset? position.column (text.drop start)).map (start + ·)

/-- Makes edits from some place in a text on. All positions are those of the text as it was, and an
edit begins no earlier than the one before it ends. -/
def applyEditsFrom? (text : List Char) : Nat → List Edit → Option (List Char)
  | done, [] => some (text.drop done)
  | done, edit :: later => do
    let start ← edit.start.offset? text
    let stop ← edit.stop.offset? text
    if done ≤ start ∧ start ≤ stop then
      let tail ← applyEditsFrom? text stop later
      some ((text.take start).drop done ++ edit.newText ++ tail)
    else none

/-- A text after edits, provided that it has their positions. -/
def applyEdits? (edits : List Edit) (text : List Char) : Option (List Char) :=
  applyEditsFrom? text 0 edits

theorem unitCount_pos (c : Char) : 0 < unitCount c := by
  unfold unitCount
  split <;> omega

theorem unitLength_cons (c : Char) (text : List Char) : unitLength (c :: text) = unitCount c + unitLength text := by
  have shift : ∀ (text : List Char) (start : Nat),
      text.foldl (fun length c => length + unitCount c) start = start + unitLength text := by
    intro text
    induction text with
    | nil => exact fun _ => rfl
    | cons d text ih =>
      intro start
      unfold unitLength
      rw [List.foldl_cons, List.foldl_cons, ih, ih (0 + unitCount d)]
      omega
  unfold unitLength
  rw [List.foldl_cons, shift, Nat.zero_add]
  rfl

theorem splitLines_ne_nil (text : List Char) : splitLines text ≠ [] := by
  fun_cases splitLines text <;> simp_all

theorem splitLines_cons {c : Char} (inside : isLineEnd c = false) (text : List Char) :
    ∃ line later, splitLines text = line :: later ∧ splitLines (c :: text) = (c :: line) :: later := by
  obtain ⟨line, later, split⟩ := List.exists_cons_of_ne_nil (splitLines_ne_nil text)
  simp only [isLineEnd, Bool.or_eq_false_iff, beq_eq_false_iff_ne] at inside
  refine ⟨line, later, split, ?_⟩
  rw [splitLines, split]
  all_goals simp [inside.1, inside.2]

theorem columnOffset?_cons {c : Char} (inside : isLineEnd c = false) (column : Nat) (text : List Char) :
    columnOffset? (unitCount c + column) (c :: text) = (columnOffset? column text).map (1 + ·) := by
  obtain ⟨units, size⟩ := Nat.exists_eq_add_of_lt (unitCount_pos c)
  have next : unitCount c + column = (units + column) + 1 := by omega
  rw [next, columnOffset?]
  have fits : ¬ units + column + 1 < unitCount c := by omega
  simp only [inside, fits, decide_false, Bool.or_false, Bool.false_eq_true, if_false]
  rw [show units + column + 1 - unitCount c = column by omega]

theorem lineOffset?_cons {c : Char} (inside : isLineEnd c = false) (line : Nat) (text : List Char) :
    lineOffset? (line + 1) (c :: text) = (lineOffset? (line + 1) text).map (1 + ·) := by
  have other : ¬ c = '\r' := by
    rintro rfl
    cases inside
  rw [lineOffset?]
  · simp [inside]
  · simp [other]

/-- A position that is found further down when something is put in front of a text. -/
theorem Position.offset?_append (position moved : Position) {front rest : List Char}
    (lines : lineOffset? moved.line (front ++ rest) = (lineOffset? position.line rest).map (front.length + ·))
    (columns : moved.column = position.column) :
    moved.offset? (front ++ rest) = (position.offset? rest).map (front.length + ·) := by
  unfold Position.offset?
  rw [lines, columns]
  cases lineOffset? position.line rest with
  | none => rfl
  | some start =>
    have skip : (front ++ rest).drop (front.length + start) = rest.drop start := by
      rw [← List.drop_drop, List.drop_left]
    simp only [Option.map_some, Option.bind_some, skip, Option.map_map]
    refine congrFun (congrArg Option.map (funext fun offset => ?_)) _
    simp only [Function.comp_apply]
    omega

/-- A line break in front of a text moves its end down by one line. -/
theorem endPosition_break {front rest : List Char} (split : splitLines (front ++ rest) = [] :: splitLines rest) :
    endPosition (front ++ rest) = ⟨(endPosition rest).line + 1, (endPosition rest).column⟩ := by
  obtain ⟨line, later, lines⟩ := List.exists_cons_of_ne_nil (splitLines_ne_nil rest)
  simp only [endPosition, split, lines]
  simp

theorem endPosition_offset?_break (front : List Char) {rest : List Char}
    (split : splitLines (front ++ rest) = [] :: splitLines rest)
    (lines : ∀ line, lineOffset? (line + 1) (front ++ rest) = (lineOffset? line rest).map (front.length + ·))
    (ih : (endPosition rest).offset? rest = some rest.length) :
    (endPosition (front ++ rest)).offset? (front ++ rest) = some (front ++ rest).length := by
  have moved := Position.offset?_append (endPosition rest)
    ⟨(endPosition rest).line + 1, (endPosition rest).column⟩ (lines _) rfl
  rw [endPosition_break split, moved, ih, List.length_append]
  rfl

theorem endPosition_offset?_cons {c : Char} (inside : isLineEnd c = false) {rest : List Char}
    (ih : (endPosition rest).offset? rest = some rest.length) :
    (endPosition (c :: rest)).offset? (c :: rest) = some (c :: rest).length := by
  obtain ⟨line, later, before, after⟩ := splitLines_cons inside rest
  cases later with
  | nil =>
    -- the end is in the first line, one character further on
    have first : endPosition rest = ⟨0, unitLength line⟩ := by simp [endPosition, before]
    have moved : endPosition (c :: rest) = ⟨0, unitCount c + unitLength line⟩ := by
      simp [endPosition, after, unitLength_cons]
    have column : columnOffset? (unitLength line) rest = some rest.length := by
      simpa [first, Position.offset?, lineOffset?] using ih
    simp [moved, Position.offset?, lineOffset?, columnOffset?_cons inside, column, Nat.add_comm]
  | cons next later =>
    have same : endPosition (c :: rest) = endPosition rest := by simp [endPosition, before, after]
    obtain ⟨number, further⟩ : ∃ number, (endPosition rest).line = number + 1 := ⟨later.length, by
      simp [endPosition, before]⟩
    have lines : lineOffset? (endPosition rest).line ([c] ++ rest) =
        (lineOffset? (endPosition rest).line rest).map ([c].length + ·) := by
      rw [further]
      exact lineOffset?_cons inside number rest
    have moved := Position.offset?_append _ _ lines rfl
    rw [same, ← List.singleton_append, moved, ih, List.length_append]
    rfl

/-- The last position of a text is where the text ends. -/
theorem endPosition_offset? (text : List Char) : (endPosition text).offset? text = some text.length := by
  induction text using splitLines.induct with
  | case1 => rfl
  | case2 rest ih => exact endPosition_offset?_break ['\r', '\n'] rfl (fun _ => rfl) ih
  | case3 rest single ih =>
    have split : splitLines ('\r' :: rest) = [] :: splitLines rest := by
      rw [splitLines]
      exact single
    have lines : ∀ line, lineOffset? (line + 1) ('\r' :: rest) = (lineOffset? line rest).map (1 + ·) := by
      intro line
      rw [lineOffset?]
      · rfl
      · simpa using single
    exact endPosition_offset?_break ['\r'] split lines ih
  | case4 rest ih =>
    have lines : ∀ line, lineOffset? (line + 1) ('\n' :: rest) = (lineOffset? line rest).map (1 + ·) := by
      intro line
      rw [lineOffset?]
      · rfl
      · simp
    exact endPosition_offset?_break ['\n'] rfl lines ih
  | case5 c rest _ _ _ none => exact absurd none (splitLines_ne_nil rest)
  | case6 c rest _ notReturn notFeed line later lines ih =>
    have inside : isLineEnd c = false := by simpa [isLineEnd] using ⟨notFeed, notReturn⟩
    exact endPosition_offset?_cons inside ih

example : endPosition "a\r\nb\r😀".toList = ⟨2, 2⟩ := by decide

/-- Replacing a text from its first to its last position leaves nothing of it. -/
theorem applyEdits?_whole (text newText : List Char) :
    applyEdits? [⟨⟨0, 0⟩, endPosition text, newText⟩] text = some newText := by
  have start : Position.offset? ⟨0, 0⟩ text = some 0 := by simp [Position.offset?, lineOffset?, columnOffset?]
  simp [applyEdits?, applyEditsFrom?, start, endPosition_offset?]

theorem Dialect.mem_all (dialect : Dialect) : dialect ∈ Dialect.all := by
  cases dialect <;> decide

theorem Document.dialect_named (document : Document) :
    document.dialect.name = document.languageId.toLower ∨
      (∀ other : Dialect, other.name ≠ document.languageId.toLower) ∧ document.dialect = .standard := by
  unfold Document.dialect Dialect.ofName?
  cases found : Dialect.all.find? fun dialect => dialect.name == document.languageId.toLower with
  | some dialect => exact Or.inl (by simpa using List.find?_some found)
  | none =>
    refine Or.inr ⟨fun other same => ?_, rfl⟩
    exact List.find?_eq_none.mp found other other.mem_all (by simpa using same)

/-- A document that an editor has laid out anew gets at most one edit. The edit turns it into the layout
of its text in the dialect that its language id names, or else in the standard one, with a line feed at
the end of a text that is not empty. There is no edit exactly if that is what the document holds. -/
theorem Document.applyEdits?_formatEdits (document : Document) (options : EditorOptions) :
    ∃ dialect : Dialect, (dialect.name = document.languageId.toLower ∨
        (∀ other : Dialect, other.name ≠ document.languageId.toLower) ∧ dialect = .standard) ∧
      let indent := if options.insertSpaces then List.replicate options.tabSize.toNat ' ' else ['\t']
      let layout := dialect.format indent .absent document.text
      let wanted := if layout = [] then [] else layout ++ ['\n']
      (document.formatEdits options).length ≤ 1 ∧
        applyEdits? (document.formatEdits options) document.text = some wanted ∧
        (document.formatEdits options = [] ↔ document.text = wanted) := by
  refine ⟨document.dialect, document.dialect_named, ?_⟩
  intro indent layout wanted
  have formatted : document.formatted options = wanted := by
    simp only [Document.formatted, List.isEmpty_iff]
    rfl
  unfold Document.formatEdits
  rw [formatted]
  by_cases same : wanted = document.text
  · simp [same, applyEdits?, applyEditsFrom?]
  · simp [same, Ne.symm same, applyEdits?_whole]

end QueryLayout
