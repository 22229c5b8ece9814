/-!
Texts as bytes, and the classes of bytes that the notation of values and patterns tells apart.
All of them are ASCII, so that no byte inside a longer character belongs to one.
-/

namespace CaseMatch.Surface

/-- The bytes of a text. -/
def bytesOf (text : String) : List UInt8 := text.toUTF8.data.toList

/-- The text of some bytes, if they are whole characters. -/
def textOf? (bytes : List UInt8) : Option String := String.fromUTF8? ⟨bytes.toArray⟩

def isBlank (b : UInt8) : Bool := b == 32 || b == 9 || b == 10 || b == 12 || b == 13

def isDigit (b : UInt8) : Bool := decide (48 ≤ b ∧ b ≤ 57)

def isUpper (b : UInt8) : Bool := decide (65 ≤ b ∧ b ≤ 90)

/-- A letter or an underscore. -/
def isWordStart (b : UInt8) : Bool := isUpper b || decide (97 ≤ b ∧ b ≤ 122) || b == 95

def isWordPart (b : UInt8) : Bool := isWordStart b || isDigit b

/-- The character with the number of a byte. -/
def charOf (b : UInt8) : Char := Char.ofNat b.toNat

end CaseMatch.Surface
