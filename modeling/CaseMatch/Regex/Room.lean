import CaseMatch.Regex.Shape
import Std.Data.HashMap

/-!
The room that an expression takes. Two automata stand for it, which read the bytes of a text
forwards and backwards. Only their size matters here: how many states they have, and how many
branches lead from state to state.
-/

namespace CaseMatch.Regex

/-- The room of an automaton: its states, which are numbered as they are added, and the bytes that
their branches take besides. -/
structure Room where
  states : Nat
  branchBytes : Nat
deriving DecidableEq

namespace Room

/-- All bytes that an automaton takes. -/
def size (r : Room) : Nat := 32 * r.states + r.branchBytes

/-- The bytes that an automaton may take. -/
def limit : Nat := 10 * 1024 * 1024

/-- Adds some states with some branches to any state, and others of which each is for an interval
of bytes. -/
def add (r : Room) (states : Nat) (branches : Nat) (byteBranches : Nat) : Room :=
  ⟨r.states + states, r.branchBytes + 4 * branches + 8 * byteBranches⟩

/-- Builds a part so many times, or until there is no more room. -/
def times (build : Room → Room) : Nat → Room → Room
  | 0, r => r
  | n + 1, r => if limit < r.size then r else times build n (build r)

end Room

/-- A branch for an interval of bytes, and the state it leads to. -/
structure Branch where
  bytes : UInt8 × UInt8
  target : Nat
deriving DecidableEq

/-- The states built lately, each under its branches. A place holds one of them, and a newer one
takes the place of an older. -/
abbrev Recent : Type := Std.HashMap Nat (List Branch × Nat)

namespace Recent

/-- Mixes a number into another. -/
def mix (h : UInt64) (n : Nat) : UInt64 := (h ^^^ n.toUInt64) * 1099511628211

/-- The place of some numbers among so many places. -/
def place (places : Nat) (numbers : List Nat) : Nat :=
  (numbers.foldl mix 14695981039346656037).toNat % places

/-- The state with some branches, if it is still held. -/
def find? (recent : Recent) (place : Nat) (branches : List Branch) : Option Nat :=
  match recent[place]? with
  | some (held, state) => if held = branches then some state else none
  | none => none

end Recent

/-- Builds the states of one spelling of a class for reading backwards, from the state `target`
on. A state is shared with another spelling that begins alike. -/
def buildBackwards (target : Nat) : Spelling → Room × Recent → Room × Recent
  | [], built => built
  | bytes :: rest, (r, recent) =>
    let place := Recent.place 1000 [target, bytes.1.toNat, bytes.2.toNat]
    let branches : List Branch := [⟨bytes, target⟩]
    match recent.find? place branches with
    | some state => buildBackwards state rest (r, recent)
    | none =>
      buildBackwards r.states rest (r.add 1 0 0, recent.insert place (branches, r.states))

/-- The state with some branches, which is built unless it is held. -/
def intern (branches : List Branch) (built : Room × Recent) : Nat × Room × Recent :=
  let (r, recent) := built
  let place := Recent.place 10000
    (branches.flatMap fun b => [b.bytes.1.toNat, b.bytes.2.toNat, b.target])
  match recent.find? place branches with
  | some state => (state, r, recent)
  | none => (r.states, r.add 1 0 branches.length, recent.insert place (branches, r.states))

/-- Builds the states of some spellings of at most so many bytes for reading forwards. Spellings
that begin alike share their first states, those that end alike their last ones. -/
def buildForwards (target : Nat) :
    Nat → List Spelling → Room × Recent → Nat × Room × Recent
  | 0, _, built => (target, built)
  | length + 1, spellings, built =>
    let groups := spellings.splitBy fun s t => s.head? == t.head?
    let (branches, built) := groups.foldl (fun (branches, built) group =>
      match group with
      | (bytes :: rest) :: _ =>
        let (next, built) :=
          if rest.isEmpty then (target, built)
          else buildForwards target length (group.map (List.drop 1)) built
        (branches ++ [⟨bytes, next⟩], built)
      | _ => (branches, built)) ([], built)
    intern branches built

/-- Adds a class. ASCII characters need one state with a branch for each interval. -/
def Room.addClass (backwards : Bool) (c : CharClass) (spellings : List Spelling) (r : Room) :
    Room :=
  if c.isAscii then r.add 2 0 c.intervals.length
  else if backwards then
    let (r, _) := spellings.foldl (fun built s => buildBackwards (r.states + 1) s built)
      (r.add 2 spellings.length 0, ∅)
    r
  else (buildForwards r.states 4 spellings (r.add 1 0 0, ∅)).2.1

/-- Splits words at the empty ones. Of empty words at the start only one counts. -/
def splitAtEmpty (words : List (List UInt8)) : List (List (List UInt8)) :=
  let words := match words with
    | [] :: rest => [] :: rest.dropWhile List.isEmpty
    | words => words
  words.foldr (fun word runs =>
    match word, runs with
    | [], runs => [] :: runs
    | word, run :: runs => (word :: run) :: runs
    | word, [] => [[word]]) [[]]

/-- Adds a tree of words that share their beginnings, of at most so many bytes. -/
def Room.addTree : Nat → List (List UInt8) → Room → Room
  | 0, _, r => r
  | length + 1, words, r =>
    let runs := splitAtEmpty words
    let r := runs.foldl (fun r run =>
      let heads := (run.filterMap List.head?).eraseDups
      let r := heads.foldl (fun r head =>
        let rests := (run.filter fun word => word.head? == some head).map (List.drop 1)
        if rests.all List.isEmpty then r else addTree length rests r) r
      match heads.length with
      | 0 => r.add 0 0 0
      | 1 => r.add 1 1 0
      | n => r.add 1 1 n) r
    r.add 1 (runs.length - 1) 0

/-- The texts of a choice among texts. -/
def Shape.texts? (choices : List Shape) : Option (List (List Char)) :=
  choices.mapM fun (choice : Shape) =>
    match choice with
    | .literal text => some text
    | _ => none

/-- The bytes that some characters are encoded in. -/
def encoded (text : List Char) : List UInt8 := text.flatMap String.utf8EncodeChar

/-- Adds a choice among texts, as the tree of what they begin with in the direction of reading. -/
def Room.addTexts (backwards : Bool) (texts : List (List Char)) (r : Room) : Room :=
  let words := (texts.map encoded).map fun word => if backwards then word.reverse else word
  let length := (words.map List.length).foldl max 0
  (r.add 1 0 0).addTree length words

namespace Shape

mutual

/-- Adds a shape to an automaton. A group is remembered where the text is read forwards. -/
def build (backwards : Bool) : Shape → Room → Room
  | .empty, r => r.add 1 0 0
  | .literal text, r => r.add (encoded text).length 0 0
  | .one c spellings, r => r.addClass backwards c spellings
  | .look _, r => r.add 1 0 0
  | .group a, r =>
    if backwards then build backwards a r
    else (build backwards a (r.add 1 0 0)).add 1 0 0
  | .repeated a least none _, r =>
    match least with
    | 0 =>
      if (minLength a).getD 0 = 0 then (build backwards a r).add 3 4 0
      else build backwards a (r.add 1 2 0)
    | n => (r.times (build backwards a) n).add 1 2 0
  | .repeated a least (some most) _, r =>
    if least = 0 ∧ most = 1 then (build backwards a (r.add 1 2 0)).add 1 0 0
    else
      let r := if least = 0 then r.add 1 0 0 else r.times (build backwards a) least
      if least = most then r
      else (r.add 1 0 0).times (fun r => build backwards a (r.add 1 2 0)) (most - least)
  | .concat parts, r => buildRow backwards parts r
  | .either choices, r =>
    match texts? choices with
    | some texts => r.addTexts backwards texts
    | none =>
      match choices with
      | a :: b :: others =>
        let r := build backwards b (build backwards a r)
        buildAll backwards others (r.add 2 (others.length + 2) 0)
      | choices => buildAll backwards choices r

def buildAll (backwards : Bool) : List Shape → Room → Room
  | [], r => r
  | a :: as, r => buildAll backwards as (build backwards a r)

def buildRow (backwards : Bool) : List Shape → Room → Room
  | [], r => r
  | a :: as, r =>
    if backwards then build backwards a (buildRow backwards as r)
    else buildRow backwards as (build backwards a r)

end

/-- The room of the automaton of a shape. It may begin to read anywhere, unless the shape fits at
one end of a text alone. Read forwards, the whole is remembered as a group is. -/
def room (backwards : Bool) (s : Shape) : Room :=
  let anchored := if backwards then endsText s else startsText s
  let start : Room := if anchored then ⟨1, 0⟩ else ⟨3, 16⟩
  (build backwards (if backwards then s else .group s) start).add 1 0 0

/-- Whether a shape is a choice among at least 3000 texts and nothing else. Such texts are looked
for by themselves, without an automaton. -/
def isManyTexts : Shape → Bool
  | .either choices =>
    match texts? choices with
    | some texts => decide (3000 ≤ texts.length)
    | none => false
  | _ => false

/-- Whether a shape needs no automaton, or both of its automata have room. -/
def fits (s : Shape) : Bool :=
  isManyTexts s ||
    decide ((room true s).size ≤ Room.limit ∧ (room false s).size ≤ Room.limit)

end Shape

end CaseMatch.Regex
