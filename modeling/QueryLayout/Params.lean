import QueryLayout.Token

namespace QueryLayout

/-- The texts that take the place of placeholders: none, texts found by name,
or texts used one after another. -/
inductive Params where
  | absent
  | named (bindings : List (List Char × List Char))
  | positional (values : List (List Char))
deriving DecidableEq, Repr

/-- The text for a placeholder, and the cursor after it. Values in sequence
go to the placeholders in order of appearance, whatever number a placeholder
spells out. A placeholder without a value stays as written. -/
def Params.resolve (params : Params) (cursor : Nat) (token : Token) : List Char × Nat :=
  match params with
  | .absent => (token.value, cursor)
  | .named bindings => ((bindings.lookup token.key).getD token.value, cursor)
  | .positional values =>
    match values[cursor]? with
    | some value => (value, cursor + 1)
    | none => (token.value, cursor)

end QueryLayout
