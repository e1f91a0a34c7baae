namespace QueryLayout

/-- The rest of a line together with the line break that ends it. -/
def lineLength : List Char → Nat
  | [] => 0
  | '\n' :: _ => 1
  | '\r' :: '\n' :: _ => 2
  | '\r' :: _ => 1
  | _ :: rest => 1 + lineLength rest

/-- Through the first `*/`, or to the end of the text. -/
def commentBody : List Char → Nat
  | '*' :: '/' :: _ => 2
  | _ :: rest => 1 + commentBody rest
  | [] => 0

end QueryLayout
