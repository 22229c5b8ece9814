import CaseMatch.Surface.Lexer
import CaseMatch.Value.Kind

/-!
Errors in texts of values and patterns, and how they are reported.
-/

namespace CaseMatch.Surface

/-- What a text should have gone on with. -/
inductive Expected where
  | value
  | pattern
  | identifier
  | integer
  | endOfInput
  | token (t : Token)
  | named (name : String)

def Expected.text : Expected → String
  | .value => "a value"
  | .pattern => "a pattern"
  | .identifier => "an identifier"
  | .integer => "an integer"
  | .endOfInput => "end of input"
  | .token t => t.text
  | .named name => name

/-- Why tokens that fit the notation denote no pattern. -/
inductive Invalidity where
  | pattern (error : PatternError)
  | kind (error : KindNameError)

def Invalidity.message : Invalidity → String
  | .pattern error => error.message
  | .kind error => error.message

/-- An error in a text. -/
inductive ReadError where
  | fault (f : Fault)
  | unexpectedToken (expected : Expected) (actual : Lexeme)
  | unexpectedEnd (expected : Expected) (position : Nat)
  | invalid (reason : Invalidity) (span : Span)

def Span.label (s : Span) (remark : String) : Label := ⟨s.start, s.stop - s.start, remark⟩

namespace Fault

def diagnostic : Fault → Diagnostic
  | .unlexable label => ⟨"error", "Failed to lex notation", none, [label]⟩
  | .notText bytes =>
    ⟨"error", "Failed to parse slice as UTF-8: [" ++
      ", ".intercalate (bytes.map fun b => toString b.toNat) ++ "]", none, []⟩

end Fault

namespace ReadError

def diagnostic : ReadError → Diagnostic
  | .fault f => f.diagnostic
  | .unexpectedToken expected actual =>
    ⟨"notation::unexpected_token", "unexpected-token",
      some ("Expected " ++ expected.text ++ ", got " ++ actual.token.text ++ " instead"),
      [actual.span.label ("Unexpected token: " ++ actual.token.text)]⟩
  | .unexpectedEnd expected position =>
    ⟨"notation::unexpected_end_of_input", "unexpected-end-of-input",
      some ("Expected " ++ expected.text ++ " before the end of input"),
      [⟨position, 0, "Input ends here"⟩]⟩
  | .invalid reason span =>
    ⟨"notation::invalid_notation", "invalid-notation", some reason.message,
      [span.label "Rejected here"]⟩

end ReadError

end CaseMatch.Surface
