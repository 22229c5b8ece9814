import CaseMatch.Value.Basic
import CaseMatch.Text.Quoted
import CaseMatch.Unicode.CoreProperty

/-!
The kinds of values that a pattern can ask for by name, and what names they go by.
-/

namespace CaseMatch

/-- A kind of value. Every object is of the kind named by its class. -/
inductive Kind where
  | nil
  | boolean
  | integer
  | float
  | numeric
  | string
  | symbol
  | array
  | map
  | object (className : String)
deriving DecidableEq, Inhabited

/-- Why a text names no kind. -/
inductive KindNameError where
  | empty
  | notCapitalized (name : String)
deriving DecidableEq

namespace KindNameError

def message : KindNameError → String
  | .empty => "Type name cannot be empty"
  | .notCapitalized name => "Type names have to be capitalized, got " ++ quoted name

end KindNameError

namespace Kind

/-- A text without the blanks at its ends. -/
def trimmed (text : String) : String :=
  let isBlank := Unicode.whiteSpace.contains
  String.ofList (((text.toList.dropWhile isBlank).reverse.dropWhile isBlank).reverse)

/-- The kind that a name stands for. A capitalized name that is none of the others is a class. -/
def ofName (name : String) : Except KindNameError Kind :=
  match trimmed name with
  | "Nil" | "NilClass" => .ok .nil
  | "Boolean" | "Bool" => .ok .boolean
  | "Integer" => .ok .integer
  | "Float" => .ok .float
  | "Numeric" => .ok .numeric
  | "String" => .ok .string
  | "Symbol" => .ok .symbol
  | "Array" => .ok .array
  | "Hash" | "Map" => .ok .map
  | "" => .error .empty
  | other =>
    match other.toList with
    | first :: _ => if first.isUpper then .ok (.object other) else .error (.notCapitalized other)
    | [] => .error .empty

/-- The name a kind is shown by. -/
def text : Kind → String
  | .nil => "Nil"
  | .boolean => "Boolean"
  | .integer => "Integer"
  | .float => "Float"
  | .numeric => "Numeric"
  | .string => "String"
  | .symbol => "Symbol"
  | .array => "Array"
  | .map => "Hash"
  | .object className => className

/-- Whether a value is of this kind. -/
def admits : Kind → Value → Bool
  | .nil, .nil => true
  | .boolean, .boolean _ => true
  | .integer, .integer _ => true
  | .float, .float _ => true
  | .numeric, .integer _ => true
  | .numeric, .float _ => true
  | .string, .string _ => true
  | .symbol, .symbol _ => true
  | .array, .array _ => true
  | .map, .map _ => true
  | .object className, .object ref => ref.className == className
  | _, _ => false

end Kind

end CaseMatch
