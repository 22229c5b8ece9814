import CaseMatch.Matching.Failure

/-!
What can go wrong when a case is built or a subject is matched, and how errors are reported.
-/

namespace CaseMatch

/-- A place in a text, in bytes, with a remark on it. -/
structure Label where
  offset : Nat
  length : Nat
  text : String
deriving DecidableEq

/-- A report of an error: the code of its kind, the message, further help and the places in the
text that it is about. -/
structure Diagnostic where
  code : String
  message : String
  help : Option String
  labels : List Label

/-- An error of a case. -/
inductive CaseError where
  | noClauses
  | noMatch (failure : NoMatch)
  | unboundVariable (name : String)
  | invalidPattern (error : PatternError)

namespace CaseError

def diagnostic : CaseError → Diagnostic
  | .noClauses =>
    ⟨"case::no_clauses", "no-clauses", some "Declare at least one clause before matching", []⟩
  | .noMatch failure =>
    ⟨"case::no_match", "no-match: " ++ failure.rejection.message,
      some ("Rejected at:\n" ++ failure.trace.text), []⟩
  | .unboundVariable name =>
    ⟨"case::unbound_variable", "unbound-variable: " ++ name,
      some (quoted name ++ " was not bound by the matched pattern"), []⟩
  | .invalidPattern error =>
    ⟨"case::invalid_pattern", error.message, some error.reason, []⟩

end CaseError

end CaseMatch
