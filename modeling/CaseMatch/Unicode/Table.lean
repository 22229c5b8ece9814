/-!
Tables of code points: sets given by intervals, partitions given by the starts of their runs,
and names given by aliases. Each table is written down as text, so that it can be read beside
the standard, and becomes sorted data that is searched by halving.
-/

namespace CaseMatch.Unicode

/-- The number that a run of hexadecimal digits denotes. Any other character counts as zero. -/
def hexValue (digits : String) : Nat :=
  digits.toList.foldl (fun n c =>
    let d := c.toNat
    n * 16 +
      if 0x30 ≤ d ∧ d ≤ 0x39 then d - 0x30
      else if 0x41 ≤ d ∧ d ≤ 0x46 then d - 0x37
      else if 0x61 ≤ d ∧ d ≤ 0x66 then d - 0x57
      else 0) 0

/-- The runs of characters between separators. There is one more of them than of these. -/
def runsBetween (isSeparator : Char → Bool) : List Char → List (List Char)
  | [] => [[]]
  | c :: rest =>
    match runsBetween isSeparator rest with
    | run :: others => if isSeparator c then [] :: run :: others else (c :: run) :: others
    | [] => [[c]]

/-- The pieces of a text between separators. -/
def pieces (isSeparator : Char → Bool) (text : String) : List String :=
  (runsBetween isSeparator text.toList).map String.ofList

/-- The words of a table's text, which stand between blanks and line breaks. -/
def tableWords (text : String) : List String :=
  (pieces (fun c => c == ' ' || c == '\n') text).filter (· ≠ "")

/-- How many of the entries between `low` and `high` start at `c` or before it. The entries are
sorted by their starts, and those before `low` are counted already. -/
def rankBetween {α : Type} (start : α → Nat) (entries : Array α) (c low high : Nat) : Nat :=
  if low < high then
    let middle := (low + high) / 2
    match entries[middle]? with
    | none => low
    | some entry =>
      if start entry ≤ c then rankBetween start entries c (middle + 1) high
      else rankBetween start entries c low middle
  else low
termination_by high - low

/-- The last entry that starts at `c` or before it. -/
def lastStartingBy {α : Type} (start : α → Nat) (entries : Array α) (c : Nat) : Option α :=
  match rankBetween start entries c 0 entries.size with
  | 0 => none
  | k + 1 => entries[k]?

/-- A set of code points, as disjoint intervals in increasing order, both ends included. -/
structure CodeSet where
  ranges : Array (Nat × Nat)
deriving Inhabited

namespace CodeSet

/-- Reads intervals such as `41-5A` and single code points such as `AA`. -/
def ofText (text : String) : CodeSet :=
  ⟨((tableWords text).map fun word =>
    match pieces (· == '-') word with
    | [first, last] => (hexValue first, hexValue last)
    | _ => (hexValue word, hexValue word)).toArray⟩

def contains (s : CodeSet) (c : Char) : Bool :=
  match lastStartingBy Prod.fst s.ranges c.toNat with
  | none => false
  | some (_, last) => decide (c.toNat ≤ last)

end CodeSet

/-- One value for every code point, kept as the starts of the runs of equal value. -/
structure Partition where
  runs : Array (Nat × String)
deriving Inhabited

namespace Partition

/-- Reads runs such as `41:Lu`, the first code point and the value. -/
def ofText (text : String) : Partition :=
  ⟨((tableWords text).map fun word =>
    match pieces (· == ':') word with
    | [start, value] => (hexValue start, value)
    | _ => (0, word)).toArray⟩

/-- The value at a code point. -/
def valueAt (p : Partition) (c : Char) : String :=
  match lastStartingBy Prod.fst p.runs c.toNat with
  | none => ""
  | some (_, value) => value

/-- The intervals of the code points whose value passes `wanted`. -/
def intervalsWhere (p : Partition) (wanted : String → Bool) : List (Nat × Nat) :=
  let runs := p.runs.toList
  let stops := (runs.drop 1).map (fun run => run.1 - 1) ++ [0x10FFFF]
  ((runs.zip stops).filter fun entry => wanted entry.1.2).map fun entry => (entry.1.1, entry.2)

end Partition

/-- What each of several names stands for. -/
structure Aliases where
  entries : List (String × String)
deriving Inhabited

namespace Aliases

/-- Reads entries such as `letter:L`, the name and what it stands for. -/
def ofText (text : String) : Aliases :=
  ⟨(tableWords text).map fun word =>
    match pieces (· == ':') word with
    | [name, meaning] => (name, meaning)
    | _ => (word, word)⟩

def find? (a : Aliases) (name : String) : Option String :=
  (a.entries.find? (·.1 == name)).map (·.2)

end Aliases

/-- A run of code points whose counterparts in the other case form a run of the same shape. -/
structure CaseRun where
  first : Nat
  last : Nat
  step : Nat
  target : Nat
deriving Inhabited

namespace CaseRun

/-- Reads runs such as `100:12E:2:101`. -/
def tableOfText (text : String) : Array CaseRun :=
  ((tableWords text).map fun word =>
    match (pieces (· == ':') word).map hexValue with
    | [first, last, step, target] => ⟨first, last, step, target⟩
    | _ => ⟨0, 0, 1, 0⟩).toArray

/-- The counterpart of a code point, if the run speaks of it. -/
def counterpart? (r : CaseRun) (c : Nat) : Option Nat :=
  if r.first ≤ c ∧ c ≤ r.last ∧ (c - r.first) % r.step = 0 then some (r.target + (c - r.first))
  else none

end CaseRun

/-- A code point with the others that differ from it in case alone. -/
structure Mates where
  code : Nat
  others : List Nat
deriving Inhabited

/-- Reads entries such as `4B:6B,212A`. -/
def Mates.tableOfText (text : String) : Array Mates :=
  ((tableWords text).map fun word =>
    match pieces (· == ':') word with
    | [code, others] => ⟨hexValue code, (pieces (· == ',') others).map hexValue⟩
    | _ => ⟨0, []⟩).toArray

end CaseMatch.Unicode
