import CaseMatch.Value.Basic
import CaseMatch.Number.Shortest
import CaseMatch.Text.Quoted

/-!
The text of a value, as labels, traces and messages show it.
-/

namespace CaseMatch.Value

mutual

/-- The text of a value. Strings are quoted, symbols carry their name as it is, and an object is
shown by its class alone. -/
def text : Value → String
  | .nil => "nil"
  | .boolean b => if b then "true" else "false"
  | .integer n => toString n.toInt
  | .float x => x.text
  | .string s => quoted s
  | .symbol name => ":" ++ name
  | .array items => "[" ++ ", ".intercalate (itemTexts items) ++ "]"
  | .map entries => "\x7b" ++ ", ".intercalate (entryTexts entries) ++ "\x7d"
  | .object ref => "#<" ++ ref.className ++ ">"

def itemTexts : List Value → List String
  | [] => []
  | item :: rest => text item :: itemTexts rest

def entryTexts : List (Value × Value) → List String
  | [] => []
  | (key, value) :: rest => (text key ++ " => " ++ text value) :: entryTexts rest

end

end CaseMatch.Value
