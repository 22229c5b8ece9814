import CaseMatch.Case.Basic
import CaseMatch.CommandLine.Arguments
import CaseMatch.Regex.Compile
import CaseMatch.Surface.Reader

/-!
What the program answers: the text it prints, what it reports as an error, and its exit code. It
reads regular expressions with the standard engine.
-/

namespace CaseMatch.CommandLine

instance : RegexEngine := Regex.standard

/-- The answer of the program. The exit code is 0 where the value matches, 1 where it does not or
where a text is wrong, and 2 where the arguments are. -/
structure Answer where
  exitCode : UInt32
  output : String
  report : String

/-- An error with its help, in lines. -/
def reportText (d : Diagnostic) : String :=
  d.code ++ "\n\n  " ++ d.message ++ "\n" ++
    String.join (d.labels.map fun l =>
      "  at byte " ++ toString l.offset ++ ": " ++ l.text ++ "\n") ++
    (match d.help with | some help => "  help: " ++ help ++ "\n" | none => "")

def failed (output : String) (d : Diagnostic) : Answer := ⟨1, output, "Error: " ++ reportText d⟩

/-- The text of the tokens of a value, as the debugging switch shows them. -/
def tokensText (lexemes : List Surface.Lexeme) : String :=
  "Tokens:\n[" ++ ", ".intercalate (lexemes.map fun l => l.token.text) ++ "]\n"

/-- Reads patterns one after another, and gives what is shown of them, also if one is wrong. -/
def readPatterns (debug : Bool) :
    List String → String × Except Surface.ReadError (List Pattern)
  | [] => ("", .ok [])
  | source :: rest =>
    match parsePattern source with
    | .error e => ("", .error e)
    | .ok p =>
      let shown := if debug then "Pattern:\n" ++ p.text ++ "\n" else ""
      let (more, others) := readPatterns debug rest
      (shown ++ more, others.map (p :: ·))

/-- The clause that matched and the names it bound, one in a line. -/
def matchedText (m : Matched) : String :=
  "clause " ++ toString m.clause ++ " matched\n" ++
    String.join (m.bindings.sorted.map fun (name, value) =>
      "  " ++ name ++ " = " ++ value.text ++ "\n")

/-- Matches a value with patterns that are read already. -/
def answerMatch (output : String) (subject : Value) (patterns : List Pattern) : Answer :=
  match Case.ofClauses (patterns.map fun p => ⟨p, none⟩) with
  | .error e => failed output e.diagnostic
  | .ok c =>
    match c.find subject with
    | .error e => failed output e.diagnostic
    | .ok found => ⟨0, output ++ matchedText found, ""⟩

/-- Reads a value and patterns, and matches the one with the others. With the debugging switch,
what has been read is shown as far as it goes. -/
def answerTexts (debug : Bool) (value : String) (patterns : List String) : Answer :=
  match Surface.lexemes value with
  | .error e => failed "" e.diagnostic
  | .ok lexemes =>
    let output := if debug then tokensText lexemes else ""
    match parseValue value with
    | .error e => failed output e.diagnostic
    | .ok subject =>
      let output := output ++ if debug then "Value:\n" ++ subject.text ++ "\n" else ""
      let (shown, read) := readPatterns debug patterns
      match read with
      | .error e => failed (output ++ shown) e.diagnostic
      | .ok ps => answerMatch (output ++ shown) subject ps

def versionText : String := "matchmaker 0.1.0\n"

def generalHelpText : String :=
  "structural pattern matching over runtime values\n\n" ++
  "Usage: matchmaker <COMMAND>\n\nCommands:\n" ++
  "  match  Match a value against patterns, first match wins\n" ++
  "  help   Print this message or the help of the given subcommand(s)\n\nOptions:\n" ++
  "  -h, --help     Print help\n" ++
  "  -V, --version  Print version\n"

def matchHelpText : String :=
  "Match a value against patterns, first match wins\n\n" ++
  "Usage: matchmaker match [OPTIONS] <VALUE> <PATTERN>...\n\nArguments:\n" ++
  "  <VALUE>       Value to match, e.g. '[1, :ok, \x7b:a => 2\x7d]'\n" ++
  "  <PATTERN>...  Patterns tried in order, e.g. '[Integer @ n, *_]'\n\nOptions:\n" ++
  "  -d, --debug  Print tokens and compiled patterns\n" ++
  "  -h, --help   Print help\n"

/-- The answer to some arguments. -/
def answer (args : List String) : Answer :=
  match readArguments args with
  | .error e => ⟨2, "", "error: " ++ e.message ++ "\n"⟩
  | .ok .version => ⟨0, versionText, ""⟩
  | .ok .generalHelp => ⟨0, generalHelpText, ""⟩
  | .ok .matchHelp => ⟨0, matchHelpText, ""⟩
  | .ok (.matchValue debug value patterns) => answerTexts debug value patterns

end CaseMatch.CommandLine
