import CaseMatch.Unicode.Lowercase
import CaseMatch.Value.Basic

/-!
The values that a match has given names to. Names are the same whatever the case of their
letters.
-/

namespace CaseMatch

/-- Names in lower case with their values, the last one bound first. No name stands twice. -/
structure Bindings where
  entries : List (String × Value)
deriving Inhabited

namespace Bindings

def empty : Bindings := ⟨[]⟩

/-- The value of a name, in letters of any case. -/
def get? (b : Bindings) (name : String) : Option Value := b.entries.lookup (lowercase name)

def contains (b : Bindings) (name : String) : Bool := (b.get? name).isSome

def size (b : Bindings) : Nat := b.entries.length

def isEmpty (b : Bindings) : Bool := b.entries.isEmpty

/-- Gives a name a value in the place of the one it has. -/
def insert (b : Bindings) (name : String) (value : Value) : Bindings :=
  let name := lowercase name
  ⟨(name, value) :: b.entries.filter fun entry => entry.1 != name⟩

/-- All names with their values, in the order of the names. -/
def sorted (b : Bindings) : List (String × Value) :=
  b.entries.mergeSort fun x y => decide (x.1 ≤ y.1)

end Bindings

end CaseMatch
