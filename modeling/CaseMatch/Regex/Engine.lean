/-!
Regular expressions as patterns use them. What is a regular expression, and where one occurs, is up
to an engine. Nothing is assumed of it: it is a parameter of all that reads patterns, and the
program chooses one.
-/

namespace CaseMatch

/-- A regular expression with its text, given by the texts that it occurs in. -/
structure Regex where
  source : String
  isMatch : String → Bool

/-- An engine for regular expressions. -/
class RegexEngine where
  /-- Whether the regular expression that a text denotes occurs anywhere in another text. There is
  nothing to ask if the text denotes none. -/
  occurrence? : String → Option (String → Bool)

/-- The regular expression that a text denotes for an engine. -/
def Regex.compile? [RegexEngine] (source : String) : Option Regex :=
  (RegexEngine.occurrence? source).map fun occurs => ⟨source, occurs⟩

end CaseMatch
