namespace QueryLayout

/-- The code points from `first` to `last`, both included. -/
structure CodeRange where
  first : Nat
  last : Nat
deriving DecidableEq, Repr

/-- Membership in a list of ranges written in ascending order: the search
stops at the first range that begins after the code point. -/
def CodeRange.covers : List CodeRange → Nat → Bool
  | [], _ => false
  | range :: later, code =>
    if code < range.first then false
    else if code ≤ range.last then true
    else covers later code

end QueryLayout
