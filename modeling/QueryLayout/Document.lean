import QueryLayout.Layout
import QueryLayout.Text.Lines

namespace QueryLayout

/-- A place in a document. Lines count from zero, and columns count UTF-16
units from zero. -/
structure Position where
  line : Nat
  column : Nat
deriving DecidableEq, Repr

/-- A stretch of a document and the text that takes its place. -/
structure Edit where
  start : Position
  stop : Position
  newText : List Char
deriving DecidableEq, Repr

/-- A text in an editor, with the name that the editor has for its language. -/
structure Document where
  text : List Char
  languageId : String := "sql"
deriving DecidableEq, Repr

/-- How the editor indents. -/
structure EditorOptions where
  tabSize : Int := 2
  insertSpaces : Bool := true
deriving DecidableEq, Repr

def EditorOptions.indent (options : EditorOptions) : List Char :=
  if options.insertSpaces then List.replicate options.tabSize.toNat ' ' else ['\t']

/-- The position after the last character of a text. -/
def endPosition (text : List Char) : Position :=
  let lines := splitLines text
  ⟨lines.length - 1, unitLength (lines.getLastD [])⟩

/-- A language id that names no dialect stands for the standard one. -/
def Document.dialect (document : Document) : Dialect :=
  (Dialect.ofName? document.languageId).getD .standard

/-- The whole document in its new layout, with a line feed at the end unless
it is empty. -/
def Document.formatted (document : Document) (options : EditorOptions) : List Char :=
  let text := document.dialect.format options.indent .absent document.text
  if text.isEmpty then [] else text ++ ['\n']

/-- The edits that lay out a document anew. A document that already has its
layout needs none, and any other is replaced as a whole. -/
def Document.formatEdits (document : Document) (options : EditorOptions) : List Edit :=
  let formatted := document.formatted options
  if formatted = document.text then []
  else [⟨⟨0, 0⟩, endPosition document.text, formatted⟩]

/-- The open documents by name. -/
abbrev Workspace := List (String × Document)

/-- Opens a document. Opening it again replaces it. -/
def Workspace.openDocument (workspace : Workspace) (name : String) (document : Document) :
    Workspace :=
  (name, document) :: workspace.filter fun entry => entry.1 != name

/-- Replaces the text of a document and keeps its language. -/
def Workspace.changeText (workspace : Workspace) (name : String) (text : List Char) : Workspace :=
  workspace.map fun (other, document) =>
    (other, if other = name then { document with text := text } else document)

end QueryLayout
