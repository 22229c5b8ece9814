import CaseMatch.Surface.Lexer

/-!
Reading a text piece by piece. A cursor stands on a byte; what reads a piece leaves it on the
last byte of the piece, so that the next piece begins one byte further on. A cursor can stand
before the first byte, where an empty piece was read at the start, and behind the last.
-/

namespace CaseMatch.Surface

/-- The bytes of a text and the place of one among them. -/
structure Cursor where
  bytes : List UInt8
  offset : Int

namespace Cursor

def start (code : String) : Cursor := ⟨bytesOf code, 0⟩

/-- The byte `n` places further on, and zero where there is none. -/
def peek (c : Cursor) (n : Nat) : UInt8 :=
  let place := c.offset + n
  if place < 0 then 0 else (c.bytes[place.toNat]?).getD 0

def current (c : Cursor) : UInt8 := c.peek 0

/-- The bytes from the cursor on. There are none where it stands outside the text. -/
def rest (c : Cursor) : List UInt8 :=
  if c.offset < 0 then [] else c.bytes.drop c.offset.toNat

def move (c : Cursor) (distance : Int) : Cursor := { c with offset := c.offset + distance }

/-- Goes to the first byte that is no blank. -/
def skipBlanks (c : Cursor) : Cursor := c.move (c.rest.takeWhile isBlank).length

/-- Goes to the first byte that is no digit. -/
def skipDigits (c : Cursor) : Cursor := c.move (digitsLength c.rest)

/-- Goes to the next byte, unless it stands on a zero byte or outside the text. -/
def skipOne (c : Cursor) : Cursor := if c.current = 0 then c else c.move 1

/-- Reads a word. Where none stands nothing is read and the cursor stays. -/
def readWord (c : Cursor) : Except Fault String × Cursor :=
  let length := wordLength c.rest
  if length = 0 then (.ok "", c)
  else
    match slice (c.rest.take length) with
    | .ok word => (.ok word, c.move (length - 1))
    | .error fault => (.error fault, c.move length)

/-- Reads what stands between the delimiter the cursor is on and the next one, where it stays. A
delimiter that is missing is looked for up to the next zero byte or the end. -/
def readDelimited (c : Cursor) (delimiter : UInt8) : Except Fault String × Cursor :=
  let behind := c.move 1
  let (body, closed) := Surface.delimited delimiter behind.rest
  let result :=
    if closed then slice body
    else .error (.here c.offset.toNat (c.bytes.length - c.offset.toNat) (missingClosing delimiter))
  (result, behind.move body.length)

/-- Reads a number. Where none stands the reading fails, and the cursor steps back. -/
def readNumber (c : Cursor) : Except Fault Token × Cursor :=
  let result := match number c.rest with
    | .ok token => .ok token
    | .error fault => .error (fault.shift c.offset.toNat)
  (result, c.move (((numberLength c.rest).1 : Int) - 1))

/-- The text from one byte up to another. -/
def readSlice (c : Cursor) (start stop : Nat) : Except Fault String :=
  slice ((c.bytes.drop start).take (stop - start))

end Cursor

end CaseMatch.Surface
