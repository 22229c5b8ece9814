/-!
Binary floating-point numbers of 64 bits, seen through integers: every finite one is a whole
number of units of 2^-1074, so that comparison and rounding need no arithmetic but that of
integers. Infinities lie at 2^2098 units, beyond every finite number.
-/

namespace CaseMatch

/-- A binary floating-point number: one bit of sign, eleven of exponent, fifty-two of fraction. -/
structure Binary64 where
  bits : UInt64
deriving DecidableEq, Inhabited

/-- The quotient rounded to the nearest integer; a tie goes to the even neighbour. -/
def roundHalfEven (num den : Nat) : Nat :=
  let quotient := num / den
  let twice := 2 * (num % den)
  if twice < den then quotient
  else if den < twice then quotient + 1
  else quotient + quotient % 2

namespace Binary64

def isNegative (x : Binary64) : Bool := decide (Nat.pow 2 63 ≤ x.bits.toNat)

def exponentField (x : Binary64) : Nat := x.bits.toNat / Nat.pow 2 52 % 2048

def fraction (x : Binary64) : Nat := x.bits.toNat % Nat.pow 2 52

def isNaN (x : Binary64) : Bool := x.exponentField == 2047 && x.fraction != 0

def isFinite (x : Binary64) : Bool := x.exponentField != 2047

/-- The distance from zero, in units of 2^-1074. -/
def magnitude (x : Binary64) : Nat :=
  if x.exponentField = 0 then x.fraction
  else (Nat.pow 2 52 + x.fraction) * Nat.pow 2 (x.exponentField - 1)

/-- The signed value, in units of 2^-1074. -/
def units (x : Binary64) : Int :=
  if x.isNegative then -(x.magnitude : Int) else x.magnitude

/-- Equality of numbers: both zeros are equal, and what is not a number equals nothing. -/
def numEq (x y : Binary64) : Bool := !x.isNaN && !y.isNaN && x.units == y.units

def numLE (x y : Binary64) : Bool := !x.isNaN && !y.isNaN && decide (x.units ≤ y.units)

def numLT (x y : Binary64) : Bool := !x.isNaN && !y.isNaN && decide (x.units < y.units)

/-- The number one, in units of 2^-1074. -/
def unitsOfOne : Nat := Nat.pow 2 1074

/-- The number with this sign whose remaining 63 bits are `rest`. -/
def ofParts (negative : Bool) (rest : Nat) : Binary64 :=
  ⟨UInt64.ofNat ((if negative then Nat.pow 2 63 else 0) + rest)⟩

def zero (negative : Bool) : Binary64 := ofParts negative 0

def infinity (negative : Bool) : Binary64 := ofParts negative (2047 * Nat.pow 2 52)

def nan : Binary64 := ofParts false (2047 * Nat.pow 2 52 + Nat.pow 2 51)

/-- The number nearest to a quotient; a tie goes to the even significand, and what rounds beyond
the greatest finite number becomes infinite.

A significand of 53 bits in steps of 2^p units is stored as p · 2^52 plus itself: the leading bit
of a significand that has all its bits raises the exponent field by one. -/
def ofRatio (negative : Bool) (num den : Nat) : Binary64 :=
  let scaled := num * unitsOfOne
  let p := Nat.log2 (scaled / den) - 52
  let significand := roundHalfEven scaled (den * Nat.pow 2 p)
  ofParts negative (min (p * Nat.pow 2 52 + significand) (2047 * Nat.pow 2 52))

/-- The number nearest to an integer. -/
def ofInt (n : Int) : Binary64 := ofRatio (decide (n < 0)) n.natAbs 1

/-- The integer that is left of a finite number without its places behind the point. -/
def whole (x : Binary64) : Int := x.units.tdiv unitsOfOne

/-- Whether a number is finite and has no places behind the point. -/
def isWhole (x : Binary64) : Bool := x.isFinite && x.units.tmod unitsOfOne == 0

/-- The number as a 64-bit integer, without its places behind the point. What is beyond the least or
the greatest of these integers becomes this one, and what is not a number becomes zero. -/
def toInt64 (x : Binary64) : Int64 :=
  if x.isNaN then 0
  else Int64.ofInt (max Int64.minValue.toInt (min Int64.maxValue.toInt x.whole))

/-- Whether the number is exactly the integer `n`, a 64-bit one. It is the number that is converted,
after it has been found to be whole and among these integers, since the integer could be rounded by
a conversion. The bounds are rounded: the greatest integer becomes 2^63. -/
def equalsInt (x : Binary64) (n : Int) : Bool :=
  x.isWhole && (ofInt Int64.minValue.toInt).numLE x && x.numLT (ofInt Int64.maxValue.toInt) &&
    x.toInt64.toInt == n

end Binary64

end CaseMatch
