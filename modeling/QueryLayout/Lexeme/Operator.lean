namespace QueryLayout

/-- Operators of more than one character, in the order they are tried. -/
def operators : List (List Char) := [
  ['!', '='], ['<', '>'], ['=', '='], ['<', '='], ['>', '='], ['!', '<'], ['!', '>'],
  ['|', '|'], [':', ':'], ['-', '>', '>'], ['-', '>'], ['~', '~', '*'], ['~', '~'],
  ['!', '~', '~', '*'], ['!', '~', '~'], ['~', '*'], ['!', '~', '*'], ['!', '~']]

/-- An operator of the list, or else a single character of any kind. -/
def operatorExtent (text : List Char) : Nat :=
  match operators.find? (·.isPrefixOf text) with
  | some operator => operator.length
  | none => 1

end QueryLayout
