import QueryLayout.Text.Blank

namespace QueryLayout

/-- Cuts a text at every character that satisfies `cut`. There is always one
more field than there are cuts, and a field may be empty. -/
def fields (cut : Char → Bool) : List Char → List (List Char)
  | [] => [[]]
  | c :: rest =>
    if cut c then [] :: fields cut rest
    else
      match fields cut rest with
      | [] => [[c]]
      | field :: later => (c :: field) :: later

/-- The maximal stretches without a blank. -/
def blankParts (text : List Char) : List (List Char) :=
  (fields isBlank text).filter fun part => !part.isEmpty

/-- The entries of a comma separated list, trimmed, without the empty ones.
An entry may hold blanks inside. -/
def commaList (text : List Char) : List (List Char) :=
  ((fields (· == ',') text).map trim).filter fun entry => !entry.isEmpty

end QueryLayout
