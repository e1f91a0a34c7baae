import QueryLayout.Text.CaseFold
import QueryLayout.Text.Fields
import QueryLayout.Text.WordChar

namespace QueryLayout

/-- The parts of an entry such as `GROUP BY`. Any run of blanks may stand
between two parts. -/
abbrev Phrase := List (List Char)

def startsWith (same : Char → Char → Bool) : List Char → List Char → Bool
  | [], _ => true
  | _ :: _, [] => false
  | p :: part, c :: text => same p c && startsWith same part text

/-- The length of the occurrence of a phrase at the start of a text. -/
def Phrase.extent? (same : Char → Char → Bool) : Phrase → List Char → Option Nat
  | [], _ => some 0
  | [part], text => if startsWith same part text then some part.length else none
  | part :: parts, text =>
    if startsWith same part text then
      let gap := blankRun (text.drop part.length)
      if gap = 0 then none
      else (extent? same parts (text.drop (part.length + gap))).map (part.length + gap + ·)
    else none

/-- Longer entries come first, so that `INSERT INTO` wins over `INSERT`.
Entries of one length keep their order. -/
def longestFirst (entries : List (List Char)) : List (List Char) :=
  let longest := entries.foldl (fun length entry => max length entry.length) 0
  (List.range (longest + 1)).reverse.flatMap fun length =>
    entries.filter fun entry => entry.length == length

def phrases (entries : List String) : List Phrase :=
  (longestFirst (entries.map String.toList)).map blankParts

/-- A word ends or begins between two characters when exactly one of them is
a word character. The edge of the text counts as none. -/
def isBoundary (before after : Option Char) : Bool :=
  before.any isWordChar != after.any isWordChar

/-- The test for a word boundary `length` characters into a text, where
`before` is the character that the text follows. -/
def boundaryAt (before : Option Char) (text : List Char) (length : Nat) : Bool :=
  isBoundary (if length = 0 then before else text[length - 1]?) text[length]?

/-- The length of the first phrase that occurs at the start of a text,
whatever follows. -/
def markExtent? (marks : List Phrase) (text : List Char) : Option Nat :=
  marks.findSome? (·.extent? (· == ·) text)

/-- The length of the first phrase that occurs at the start of a text, in
any case and with a word boundary after it. -/
def wordExtent? (words : List Phrase) (before : Option Char) (text : List Char) : Option Nat :=
  words.findSome? fun word =>
    (word.extent? sameFolded text).filter (boundaryAt before text)

end QueryLayout
