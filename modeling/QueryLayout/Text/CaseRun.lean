namespace QueryLayout

/-- The code points `first`, `first + step`, … up to `last`, which all move by
`shift` when their case changes. -/
structure CaseRun where
  first : Nat
  last : Nat
  step : Nat
  shift : Int
deriving DecidableEq, Repr

/-- Moves a code point by the run that holds it. Runs are in ascending order
of their first member, and a code point in none of them stays as it is. -/
def CaseRun.move : List CaseRun → Nat → Nat
  | [], code => code
  | run :: later, code =>
    if code < run.first then code
    else if code ≤ run.last ∧ (code - run.first) % run.step = 0 then (code + run.shift).toNat
    else move later code

end QueryLayout
