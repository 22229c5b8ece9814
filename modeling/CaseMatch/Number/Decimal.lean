import CaseMatch.Number.Binary64

/-!
Numbers as they are written in the decimal system, and the reading of such texts as fixed-width
integers and as binary floating-point numbers.
-/

namespace CaseMatch

/-- The value of a run of decimal digits; any other byte counts as zero. -/
def digitsValue (digits : List Char) : Nat :=
  digits.foldl (fun n c => n * 10 + (c.toNat - '0'.toNat)) 0

/-- A signed quantity of `digits` times ten to the `exponent`. -/
structure Decimal where
  negative : Bool
  digits : Nat
  exponent : Int
deriving DecidableEq

namespace Decimal

/-- The nearest binary number. A quantity of at least 10^311 is beyond every finite one and one
below 10^-330 rounds to zero, so that no much greater power of ten is ever computed. -/
def toBinary64 (d : Decimal) : Binary64 :=
  if d.digits = 0 ∨ d.exponent + (Nat.log2 d.digits + 1 : Nat) < -330 then .zero d.negative
  else if 310 < d.exponent then .infinity d.negative
  else .ofRatio d.negative (d.digits * Nat.pow 10 d.exponent.toNat)
    (Nat.pow 10 (-d.exponent).toNat)

/-- Splits a leading sign from a text. A minus is the only sign that tells. -/
def splitSign : List Char → Bool × List Char
  | '-' :: rest => (true, rest)
  | '+' :: rest => (false, rest)
  | rest => (false, rest)

/-- The integer that an optional sign and a run of digits denote. -/
def readInt? (text : List Char) : Option Int :=
  let (negative, digits) := splitSign text
  if digits.isEmpty || !digits.all Char.isDigit then none
  else some (if negative then -(digitsValue digits : Int) else digitsValue digits)

/-- The power of ten that a text such as `e-5` adds; no text adds none. -/
def readExponent? : List Char → Option Int
  | [] => some 0
  | c :: rest => if c = 'e' ∨ c = 'E' then readInt? rest else none

/-- The quantity that digits denote, with or without a point among them and an exponent behind. -/
def read? (text : List Char) : Option Decimal :=
  let (negative, body) := splitSign text
  let whole := body.takeWhile Char.isDigit
  let afterWhole := body.dropWhile Char.isDigit
  let (places, afterPlaces) := match afterWhole with
    | '.' :: rest => (rest.takeWhile Char.isDigit, rest.dropWhile Char.isDigit)
    | rest => ([], rest)
  if whole.isEmpty && places.isEmpty then none
  else (readExponent? afterPlaces).map fun exponent =>
    ⟨negative, digitsValue (whole ++ places), exponent - places.length⟩

end Decimal

/-- The number that a text denotes: a decimal number, or one of the names of what is not finite,
in letters of either case. -/
def Binary64.ofText? (text : String) : Option Binary64 :=
  match Decimal.read? text.toList with
  | some d => some d.toBinary64
  | none =>
    let (negative, name) := Decimal.splitSign text.toList
    let name := name.map Char.toLower
    if name = "inf".toList ∨ name = "infinity".toList then some (.infinity negative)
    else if name = "nan".toList then some .nan
    else none

/-- The integer as a 64-bit one, if it has one. -/
def int64OfInt? (n : Int) : Option Int64 :=
  if -9223372036854775808 ≤ n ∧ n ≤ 9223372036854775807 then some (Int64.ofInt n) else none

/-- The 64-bit integer that a text denotes. -/
def int64OfText? (text : String) : Option Int64 :=
  (Decimal.readInt? text.toList).bind int64OfInt?

end CaseMatch
