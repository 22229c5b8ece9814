import CaseMatch.Value.Basic

/-!
Ranges of numbers between two integers.
-/

namespace CaseMatch

/-- The numbers from `start` on, up to `stop` or just below it. -/
structure NumberRange where
  start : Int64
  stop : Int64
  inclusive : Bool
deriving DecidableEq, Inhabited

namespace NumberRange

/-- Whether a value is a number within the range. A floating-point number is compared with the
bounds rounded to floating-point numbers. -/
def contains (r : NumberRange) : Value → Bool
  | .integer n =>
    decide (r.start.toInt ≤ n.toInt) &&
      if r.inclusive then decide (n.toInt ≤ r.stop.toInt) else decide (n.toInt < r.stop.toInt)
  | .float x =>
    let start := Binary64.ofInt r.start.toInt
    let stop := Binary64.ofInt r.stop.toInt
    start.numLE x && if r.inclusive then x.numLE stop else x.numLT stop
  | _ => false

def text (r : NumberRange) : String :=
  toString r.start.toInt ++ (if r.inclusive then "..=" else "..") ++ toString r.stop.toInt

end NumberRange

end CaseMatch
