import CaseMatch.Number.Shortest
import CaseMatch.Text.Quoted

/-!
The tokens of the notation of values and patterns, and how they are named in messages.
-/

namespace CaseMatch.Surface

/-- A token. Texts stand without their quotes and slashes. -/
inductive Token where
  | nil
  | boolean (b : Bool)
  | integer (n : Int64)
  | float (x : Binary64)
  | string (text : String)
  | symbol (name : String)
  | identifier (name : String)
  | typeName (name : String)
  | wildcard
  | regex (source : String)
  | symbolRegex (source : String)
  | leftCurly
  | rightCurly
  | leftBracket
  | rightBracket
  | comma
  | fatArrow
  | atSign
  | star
  | exclusiveRange
  | inclusiveRange
deriving DecidableEq

def Token.text : Token → String
  | .nil => "Nil"
  | .boolean b => if b then "Bool(true)" else "Bool(false)"
  | .integer n => "Integer(" ++ toString n.toInt ++ ")"
  | .float x => "Float(" ++ x.text ++ ")"
  | .string text => "String(" ++ quoted text ++ ")"
  | .symbol name => "Symbol(" ++ quoted name ++ ")"
  | .identifier name => "Identifier(" ++ quoted name ++ ")"
  | .typeName name => "TypeName(" ++ quoted name ++ ")"
  | .wildcard => "Wildcard"
  | .regex source => "Regex(" ++ quoted source ++ ")"
  | .symbolRegex source => "SymbolRegex(" ++ quoted source ++ ")"
  | .leftCurly => "LeftCurly"
  | .rightCurly => "RightCurly"
  | .leftBracket => "LeftBracket"
  | .rightBracket => "RightBracket"
  | .comma => "Comma"
  | .fatArrow => "FatArrow"
  | .atSign => "At"
  | .star => "Star"
  | .exclusiveRange => "ExclusiveRange"
  | .inclusiveRange => "InclusiveRange"

/-- A stretch of a text, from the byte at `start` up to the one before `stop`. -/
structure Span where
  start : Nat
  stop : Nat
deriving DecidableEq

/-- A token with the stretch of the text that it was read from. -/
structure Lexeme where
  token : Token
  span : Span
deriving DecidableEq

end CaseMatch.Surface
