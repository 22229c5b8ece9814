import CaseMatch.Number.Binary64

/-!
The values that patterns are matched against, and their two equalities. `Value.eq` is equality of
meaning, under which an integer equals a floating-point number of the same size; `Value.sameKey`
tells these two apart and decides which keys of a map are the same. Both look up the entries of
one map in the other, so that the order of entries does not count.
-/

namespace CaseMatch

/-- An object that is known by its class and its identity alone. -/
structure ObjectRef where
  className : String
  identity : Int
deriving DecidableEq, Inhabited

/-- A value. The entries of a map stand in the order in which their keys were first inserted. -/
inductive Value where
  | nil
  | boolean (b : Bool)
  | integer (n : Int64)
  | float (x : Binary64)
  | string (text : String)
  | symbol (name : String)
  | array (items : List Value)
  | map (entries : List (Value × Value))
  | object (ref : ObjectRef)
deriving Inhabited

/-- The entries of a map, in order. -/
abbrev Dict := List (Value × Value)

namespace Value

mutual

/-- Whether two values are the same as keys: numbers of different kinds are not, and collections
are compared part by part. -/
def sameKey : Value → Value → Bool
  | .nil, .nil => true
  | .boolean a, .boolean b => a == b
  | .integer a, .integer b => a == b
  | .float x, .float y => x.numEq y
  | .string s, .string t => s == t
  | .symbol s, .symbol t => s == t
  | .array xs, .array ys => sameItems xs ys
  | .map es, .map fs => es.length == fs.length && sameEntries es fs
  | .object o, .object p => o == p
  | _, _ => false

/-- Whether two lists have the same length and the same keys in each place. -/
def sameItems : List Value → List Value → Bool
  | [], [] => true
  | x :: xs, y :: ys => sameKey x y && sameItems xs ys
  | _, _ => false

/-- Whether each entry of the first map has its key in the second, with a value that is the same
as a key. -/
def sameEntries : List (Value × Value) → Dict → Bool
  | [], _ => true
  | (key, value) :: rest, fs =>
    (match fs.find? (fun entry => sameKey key entry.1) with
      | some (_, other) => sameKey value other
      | none => false) && sameEntries rest fs

end

mutual

/-- Whether two values mean the same. An integer and a floating-point number are compared
exactly; keys of maps are compared as keys even here. -/
def eq : Value → Value → Bool
  | .nil, .nil => true
  | .boolean a, .boolean b => a == b
  | .integer a, .integer b => a == b
  | .float x, .float y => x.numEq y
  | .integer n, .float x => x.equalsInt n.toInt
  | .float x, .integer n => x.equalsInt n.toInt
  | .string s, .string t => s == t
  | .symbol s, .symbol t => s == t
  | .array xs, .array ys => eqItems xs ys
  | .map es, .map fs => es.length == fs.length && eqEntries es fs
  | .object o, .object p => o == p
  | _, _ => false

/-- Whether two lists have the same length and equal values in each place. -/
def eqItems : List Value → List Value → Bool
  | [], [] => true
  | x :: xs, y :: ys => eq x y && eqItems xs ys
  | _, _ => false

/-- Whether each entry of the first map has its key in the second, with an equal value. -/
def eqEntries : List (Value × Value) → Dict → Bool
  | [], _ => true
  | (key, value) :: rest, fs =>
    (match fs.find? (fun entry => sameKey key entry.1) with
      | some (_, other) => eq value other
      | none => false) && eqEntries rest fs

end

instance : BEq Value := ⟨Value.eq⟩

def isNil : Value → Bool
  | .nil => true
  | _ => false

def asArray? : Value → Option (List Value)
  | .array items => some items
  | _ => none

def asMap? : Value → Option Dict
  | .map entries => some entries
  | _ => none

def asString? : Value → Option String
  | .string text => some text
  | _ => none

def asSymbol? : Value → Option String
  | .symbol name => some name
  | _ => none

def asInteger? : Value → Option Int64
  | .integer n => some n
  | _ => none

end Value

namespace Dict

/-- The value under a key, if the map has the key. -/
def get? (d : Dict) (key : Value) : Option Value :=
  (d.find? (fun entry => key.sameKey entry.1)).map (·.2)

def contains (d : Dict) (key : Value) : Bool :=
  d.any (fun entry => key.sameKey entry.1)

/-- Puts a value in the place of the one under the same key, and gives the old one with the new
map. The entry keeps its place and its key. -/
def replace? : Dict → Value → Value → Option (Value × Dict)
  | [], _, _ => none
  | (k, old) :: rest, key, value =>
    if key.sameKey k then some (old, (k, value) :: rest)
    else (replace? rest key value).map fun (found, rest') => (found, (k, old) :: rest')

/-- Puts a value under a key. A key that the map does not have yet goes behind all others. Gives
the value that was replaced, if any, with the new map. -/
def insert (d : Dict) (key value : Value) : Option Value × Dict :=
  match d.replace? key value with
  | some (old, d') => (some old, d')
  | none => (none, d ++ [(key, value)])

/-- Inserts pairs one after another. -/
def insertAll (d : Dict) (pairs : List (Value × Value)) : Dict :=
  pairs.foldl (fun d pair => (d.insert pair.1 pair.2).2) d

/-- The map that comes of inserting pairs into an empty one. -/
def ofList (pairs : List (Value × Value)) : Dict := insertAll [] pairs

end Dict

end CaseMatch
