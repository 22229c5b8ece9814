import CaseMatch.Unicode.CoreProperty
import CaseMatch.Unicode.FoldingTable
import CaseMatch.Unicode.GeneralCategory

/-!
Classes of characters, as regular expressions combine them, and the sequences of bytes that their
members are encoded in.
-/

namespace CaseMatch.Regex

/-- A class of characters, as intervals of code points in increasing order, both ends included,
that neither overlap nor adjoin. Code points that are no characters do not count. -/
structure CharClass where
  intervals : List (Nat × Nat)
deriving DecidableEq, Inhabited

namespace CharClass

def contains (s : CharClass) (c : Char) : Bool :=
  s.intervals.any fun i => decide (i.1 ≤ c.toNat ∧ c.toNat ≤ i.2)

/-- Joins intervals that overlap or adjoin. They are in the order of their starts. -/
def joinIntervals : List (Nat × Nat) → List (Nat × Nat)
  | (a, b) :: (c, d) :: rest =>
    if c ≤ b + 1 then joinIntervals ((a, max b d) :: rest)
    else (a, b) :: joinIntervals ((c, d) :: rest)
  | short => short
termination_by l => l.length

/-- The union of intervals. -/
def ofIntervals (intervals : List (Nat × Nat)) : CharClass :=
  ⟨joinIntervals (intervals.mergeSort fun i j => decide (i.1 ≤ j.1))⟩

def none : CharClass := ⟨[]⟩

def all : CharClass := ⟨[(0, 0x10FFFF)]⟩

/-- The characters from `first` to `last`, both included. -/
def interval (first last : Char) : CharClass := ⟨[(first.toNat, last.toNat)]⟩

def singleton (c : Char) : CharClass := interval c c

def ofCodeSet (s : Unicode.CodeSet) : CharClass := ofIntervals s.ranges.toList

/-- The characters to which a partition gives a wanted value. -/
def ofPartition (p : Unicode.Partition) (wanted : String → Bool) : CharClass :=
  ofIntervals (p.intervalsWhere wanted)

def union (a b : CharClass) : CharClass := ofIntervals (a.intervals ++ b.intervals)

/-- The number of the character behind another. -/
def following (code : Nat) : Nat := if code = 0xD7FF then 0xE000 else code + 1

/-- The number of the character before another. -/
def preceding (code : Nat) : Nat := if code = 0xE000 then 0xD7FF else code - 1

/-- The gaps between intervals, from `start` on. Two intervals can adjoin as characters without
adjoining as code points, and then their ends are taken for a gap. -/
def gapsFrom (start : Nat) : List (Nat × Nat) → List (Nat × Nat)
  | [] => if start ≤ 0x10FFFF then [(start, 0x10FFFF)] else []
  | (a, b) :: rest =>
    let others := gapsFrom (following b) rest
    if start < a then (start, preceding a) :: others
    else if start = 0xE000 then (0xD7FF, 0xE000) :: others
    else others

def complement (a : CharClass) : CharClass := ⟨gapsFrom 0 a.intervals⟩

/-- What two lists of intervals have in common. -/
def commonIntervals : List (Nat × Nat) → List (Nat × Nat) → List (Nat × Nat)
  | (a, b) :: xs, (c, d) :: ys =>
    let others :=
      if b < d then commonIntervals xs ((c, d) :: ys) else commonIntervals ((a, b) :: xs) ys
    if max a c ≤ min b d then (max a c, min b d) :: others else others
  | _, _ => []
termination_by xs ys => xs.length + ys.length

def intersection (a b : CharClass) : CharClass := ⟨commonIntervals a.intervals b.intervals⟩

/-- What one list of intervals has and another has not. -/
def remainingIntervals : List (Nat × Nat) → List (Nat × Nat) → List (Nat × Nat)
  | [], _ => []
  | xs, [] => xs
  | (a, b) :: xs, (c, d) :: ys =>
    if d < a then remainingIntervals ((a, b) :: xs) ys
    else if b < c then (a, b) :: remainingIntervals xs ((c, d) :: ys)
    else
      let others :=
        if d < b then remainingIntervals ((following d, b) :: xs) ys
        else remainingIntervals xs ((c, d) :: ys)
      if a < c then (a, preceding c) :: others else others
termination_by xs ys => xs.length + ys.length

def difference (a b : CharClass) : CharClass := ⟨remainingIntervals a.intervals b.intervals⟩

def symmetricDifference (a b : CharClass) : CharClass :=
  (a.union b).difference (a.intersection b)

/-- A single code point as an interval. -/
def point (code : Nat) : Nat × Nat := (code, code)

/-- The ASCII letters with their other case. -/
def asciiMates : List Unicode.Mates :=
  (List.range 26).flatMap fun n => [⟨0x41 + n, [0x61 + n]⟩, ⟨0x61 + n, [0x41 + n]⟩]

/-- Adds all characters that differ from a member in case alone, among all characters or among
the ASCII letters. -/
def foldCase (unicode : Bool) (a : CharClass) : CharClass :=
  let mates := if unicode then Unicode.foldingMates.toList else asciiMates
  let folded := mates.filter fun m => a.contains (Char.ofNat m.code)
  ofIntervals (a.intervals ++ folded.flatMap fun m => m.others.map point)

/-- The union of intervals of characters. -/
def ofChars (intervals : List (Char × Char)) : CharClass :=
  ofIntervals (intervals.map fun i => (i.1.toNat, i.2.toNat))

def asciiDigit : CharClass := interval '0' '9'

def asciiSpace : CharClass := ofChars [('\t', '\r'), (' ', ' ')]

def asciiWord : CharClass := ofChars [('0', '9'), ('A', 'Z'), ('_', '_'), ('a', 'z')]

def digit : CharClass := ofPartition Unicode.generalCategories (· == "Nd")

def space : CharClass := ofCodeSet Unicode.whiteSpace

/-- Letters, marks, decimal digits, connecting punctuation and the characters that join. -/
def word : CharClass :=
  ((ofCodeSet Unicode.alphabetic).union (ofCodeSet Unicode.joinControl)).union
    (ofPartition Unicode.generalCategories (["Mc", "Me", "Mn", "Nd", "Pc"].contains ·))

/-- The classes of ASCII characters that go by a name between colons. -/
def ofAsciiName? : String → Option CharClass
  | "alnum" => some (ofChars [('0', '9'), ('A', 'Z'), ('a', 'z')])
  | "alpha" => some (ofChars [('A', 'Z'), ('a', 'z')])
  | "ascii" => some (interval '\x00' '\x7f')
  | "blank" => some (ofChars [('\t', '\t'), (' ', ' ')])
  | "cntrl" => some (ofChars [('\x00', '\x1f'), ('\x7f', '\x7f')])
  | "digit" => some asciiDigit
  | "graph" => some (interval '!' '~')
  | "lower" => some (interval 'a' 'z')
  | "print" => some (interval ' ' '~')
  | "punct" => some (ofChars [('!', '/'), (':', '@'), ('[', '\x60'), ('\x7b', '~')])
  | "space" => some asciiSpace
  | "upper" => some (interval 'A' 'Z')
  | "word" => some asciiWord
  | "xdigit" => some (ofChars [('0', '9'), ('A', 'F'), ('a', 'f')])
  | _ => Option.none

/-- Whether all members are ASCII characters. -/
def isAscii (s : CharClass) : Bool := s.intervals.all fun i => decide (i.2 < 128)

end CharClass

/-- What a run of encodings looks like: for each of its bytes, the interval the byte is from. -/
abbrev Spelling : Type := List (UInt8 × UInt8)

namespace Spelling

/-- The intervals of characters that are encoded in equally many bytes. -/
def sameLength : List (Nat × Nat) :=
  [(0, 0x7F), (0x80, 0x7FF), (0x800, 0xD7FF), (0xE000, 0xFFFF), (0x10000, 0x10FFFF)]

/-- Splits an interval where it does not begin or does not end with a block of `size` code points,
unless it lies within one. -/
def splitAtBlocks (size : Nat) (i : Nat × Nat) : List (Nat × Nat) :=
  if i.1 / size = i.2 / size then [i]
  else
    let inner := ((i.1 + size - 1) / size * size, (i.2 + 1) / size * size - 1)
    (if i.1 < inner.1 then [(i.1, inner.1 - 1)] else []) ++
      (if inner.1 ≤ inner.2 then [inner] else []) ++
      (if inner.2 < i.2 then [(inner.2 + 1, i.2)] else [])

/-- The spellings of an interval, from its first member to its last. Outside ASCII the last byte
alone varies within a block of 64 code points, and in larger blocks the bytes before it too. -/
def ofInterval (i : Nat × Nat) : List Spelling :=
  let parts := (sameLength.map fun s => (max s.1 i.1, min s.2 i.2)).filter fun p =>
    decide (p.1 ≤ p.2)
  (parts.flatMap blocks).map fun b => (encoding b.1).zip (encoding b.2)
where
  blocks (p : Nat × Nat) : List (Nat × Nat) :=
    if p.2 < 128 then [p]
    else ((splitAtBlocks 64 p).flatMap (splitAtBlocks 4096)).flatMap (splitAtBlocks 262144)
  encoding (code : Nat) : List UInt8 := String.utf8EncodeChar (Char.ofNat code)

end Spelling

/-- The spellings of the members of a class. -/
def CharClass.spellings (s : CharClass) : List Spelling := s.intervals.flatMap Spelling.ofInterval

end CaseMatch.Regex
