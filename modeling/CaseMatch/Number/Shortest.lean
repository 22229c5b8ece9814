import CaseMatch.Number.Decimal

/-!
The shortest decimal text of a binary number: the fewest digits that read back as the same
number, and among those the nearest. A tie goes away from zero.
-/

namespace CaseMatch

namespace Decimal

/-- Drops the zeros at the end of the digits, of which there are at most `fuel`. -/
def stripZeros (d : Decimal) : Nat → Decimal
  | 0 => d
  | fuel + 1 =>
    if d.digits ≠ 0 ∧ d.digits % 10 = 0 then
      stripZeros ⟨d.negative, d.digits / 10, d.exponent + 1⟩ fuel
    else d

end Decimal

namespace Binary64

/-- All digits of a finite number. -/
def exactDecimal (x : Binary64) : Decimal :=
  ⟨x.isNegative, x.magnitude * Nat.pow 5 1074, -1074⟩

/-- Whether a number other than zero lies below a power of ten. -/
def isBelowPower (x : Binary64) (exponent : Int) : Bool :=
  decide (x.magnitude * Nat.pow 10 (-exponent).toNat < unitsOfOne * Nat.pow 10 exponent.toNat)

/-- The power of ten just above a number other than zero. Its logarithm is found from that of the
nearest power of two below, which determines it but for one. -/
def decimalExponent (x : Binary64) : Int :=
  let estimate := ((Nat.log2 x.magnitude : Int) - 1074) * 30103 / 100000
  if x.isBelowPower estimate then estimate
  else if x.isBelowPower (estimate + 1) then estimate + 1
  else estimate + 2

/-- The candidates on the grid of the whole multiples of a power of ten: the numbers below and
above `x`, the nearer one first. -/
def gridNeighbours (x : Binary64) (exponent : Int) : List Decimal :=
  let num := x.magnitude * Nat.pow 10 (-exponent).toNat
  let den := unitsOfOne * Nat.pow 10 exponent.toNat
  let below := num / den
  let down : Decimal := ⟨x.isNegative, below, exponent⟩
  let up : Decimal := ⟨x.isNegative, below + 1, exponent⟩
  if num % den = 0 then [down]
  else if 2 * (num % den) < den then [down, up]
  else [up, down]

/-- The first candidate that reads back as `x`, on the grid of a power of ten and finer ones. -/
def shortestFrom (x : Binary64) : (exponent : Int) → (fuel : Nat) → Option Decimal
  | _, 0 => none
  | exponent, fuel + 1 =>
    match (x.gridNeighbours exponent).find? (fun d => d.toBinary64 == x) with
    | some d => some d
    | none => shortestFrom x (exponent - 1) fuel

/-- The decimal number with the fewest digits that reads back as `x`. Seventeen digits always
suffice; the number with all its digits stands behind them. -/
def shortest (x : Binary64) : Decimal :=
  if x.magnitude = 0 then ⟨x.isNegative, 0, 0⟩
  else ((x.shortestFrom (x.decimalExponent - 1) 17).getD x.exactDecimal).stripZeros 2000

/-- Digits with the point after `point` of them. Zeros fill the gap on either side, and at least
one digit stands on each side of the point. -/
def positional (digits : List Char) (point : Int) : List Char :=
  if point ≤ 0 then
    '0' :: '.' :: (List.replicate (-point).toNat '0' ++ digits)
  else if digits.length ≤ point.toNat then
    digits ++ List.replicate (point.toNat - digits.length) '0' ++ ['.', '0']
  else digits.take point.toNat ++ '.' :: digits.drop point.toNat

/-- Digits with the point after the first of them, if there are more, and the power of ten. -/
def exponential (digits : List Char) (point : Int) : List Char :=
  let mantissa := match digits with
    | first :: second :: rest => first :: '.' :: second :: rest
    | short => short
  mantissa ++ 'e' :: (toString (point - 1)).toList

/-- The text of a number. Whole numbers keep one zero behind the point; powers of ten are used
from 10^16 on and below 10^-4. -/
def text (x : Binary64) : String :=
  if x.isNaN then "NaN"
  else
    let sign := if x.isNegative then ['-'] else []
    if !x.isFinite then String.ofList (sign ++ "inf".toList)
    else
      let d := x.shortest
      let digits := Nat.toDigits 10 d.digits
      let point : Int := (digits.length : Int) + d.exponent
      if d.digits = 0 then String.ofList (sign ++ positional digits 1)
      else if -3 ≤ point ∧ point ≤ 16 then String.ofList (sign ++ positional digits point)
      else String.ofList (sign ++ exponential digits point)

end Binary64

end CaseMatch
