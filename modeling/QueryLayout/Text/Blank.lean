import QueryLayout.Text.CodeRange

namespace QueryLayout

def blankRanges : List CodeRange := [
  ⟨0x09, 0x0d⟩, ⟨0x1c, 0x20⟩, ⟨0x85, 0x85⟩, ⟨0xa0, 0xa0⟩, ⟨0x1680, 0x1680⟩,
  ⟨0x2000, 0x200a⟩, ⟨0x2028, 0x2029⟩, ⟨0x202f, 0x202f⟩, ⟨0x205f, 0x205f⟩,
  ⟨0x3000, 0x3000⟩]

/-- A space, a line or field separator, or another character of no visible
shape that separates words. -/
def isBlank (c : Char) : Bool :=
  CodeRange.covers blankRanges c.toNat

/-- The number of blanks a text begins with. -/
def blankRun (text : List Char) : Nat :=
  (text.takeWhile isBlank).length

def trimStart (text : List Char) : List Char :=
  text.dropWhile isBlank

def trimEnd (text : List Char) : List Char :=
  (text.reverse.dropWhile isBlank).reverse

/-- A text without the blanks at its two ends. -/
def trim (text : List Char) : List Char :=
  trimEnd (trimStart text)

def squeezeAfter : Bool → List Char → List Char
  | _, [] => []
  | afterBlank, c :: rest =>
    if isBlank c then
      if afterBlank then squeezeAfter true rest else ' ' :: squeezeAfter true rest
    else c :: squeezeAfter false rest

/-- Every run of blanks becomes a single space. -/
def squeeze (text : List Char) : List Char :=
  squeezeAfter false text

end QueryLayout
