import CaseMatch.Unicode.Printing

/-!
Texts in double quotes, as values and messages show them. Quotes, backslashes and the common
control characters are written with a backslash; every other character that leaves no mark of
its own on paper is written by its number.
-/

namespace CaseMatch

/-- Whether a character is printed as itself. -/
def isPrinted (c : Char) : Bool :=
  if c.toNat < 128 then decide (32 ≤ c.toNat ∧ c.toNat < 127) else !Unicode.unprinted.contains c

/-- The number of a character in hexadecimal digits between braces. -/
def numberEscape (c : Char) : List Char :=
  '\\' :: 'u' :: '\x7b' :: (Nat.toDigits 16 c.toNat ++ ['\x7d'])

/-- How a character is written inside quotes made of `quote`. -/
def escaped (quote : Char) (c : Char) : List Char :=
  if c = '\x00' then ['\\', '0']
  else if c = '\t' then ['\\', 't']
  else if c = '\n' then ['\\', 'n']
  else if c = '\r' then ['\\', 'r']
  else if c = '\\' ∨ c = quote then ['\\', c]
  else if isPrinted c then [c]
  else numberEscape c

/-- A text between double quotes. -/
def quoted (text : String) : String :=
  String.ofList ('"' :: (text.toList.flatMap (escaped '"') ++ ['"']))

/-- A character between single quotes. -/
def quotedChar (c : Char) : String :=
  String.ofList ('\'' :: (escaped '\'' c ++ ['\'']))

end CaseMatch
