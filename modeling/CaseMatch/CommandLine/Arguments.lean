/-!
The arguments of the program. Options may stand before, between and behind the other arguments of
a subcommand, up to an argument of two hyphens; what stands behind that is taken as it is.
-/

namespace CaseMatch.CommandLine

/-- What is asked for. -/
inductive Request where
  | version
  | generalHelp
  | matchHelp
  | matchValue (debug : Bool) (value : String) (patterns : List String)
deriving DecidableEq

/-- Why arguments ask for nothing. -/
inductive UsageError where
  | unexpectedArgument (arg : String)
  | repeatedDebug
  | missingArguments
  | unknownSubcommand (name : String)
  | missingSubcommand
deriving DecidableEq

namespace UsageError

def message : UsageError → String
  | .unexpectedArgument arg => "unexpected argument '" ++ arg ++ "' found"
  | .repeatedDebug => "the argument '--debug' cannot be used multiple times"
  | .missingArguments => "the required arguments were not provided"
  | .unknownSubcommand name => "unrecognized subcommand '" ++ name ++ "'"
  | .missingSubcommand => "a subcommand is required but one was not provided"

end UsageError

/-- Whether an argument is an option, if options are looked for: it begins with a hyphen and does
not end there. -/
def isOption (arg : String) : Bool :=
  match arg.toList with
  | '-' :: _ :: _ => true
  | _ => false

/-- What options of a subcommand lead to: help at once, or the state of the debugging switch. -/
inductive Switch where
  | help
  | debug (on : Bool)

/-- Takes one letter of an option after another. -/
def takeLetters (arg : String) : Bool → List Char → Except UsageError Switch
  | debug, [] => .ok (.debug debug)
  | debug, 'd' :: rest => if debug then .error .repeatedDebug else takeLetters arg true rest
  | _, 'h' :: _ => .ok .help
  | _, _ => .error (.unexpectedArgument arg)

/-- Takes an option of the subcommand. -/
def takeOption (debug : Bool) (arg : String) : Except UsageError Switch :=
  if arg = "--debug" then if debug then .error .repeatedDebug else .ok (.debug true)
  else if arg = "--help" then .ok .help
  else
    match arg.toList with
    | '-' :: '-' :: _ => .error (.unexpectedArgument arg)
    | '-' :: letters => takeLetters arg debug letters
    | _ => .error (.unexpectedArgument arg)

/-- Reads the arguments of the subcommand, given those taken so far in reverse. There have to be
a value and a pattern. -/
def readMatch (debug : Bool) (taken : List String) : List String → Except UsageError Request
  | [] => finish taken.reverse
  | arg :: rest =>
    if arg = "--" then finish (taken.reverse ++ rest)
    else if isOption arg then
      match takeOption debug arg with
      | .ok .help => .ok .matchHelp
      | .ok (.debug on) => readMatch on taken rest
      | .error e => .error e
    else readMatch debug (arg :: taken) rest
where
  finish : List String → Except UsageError Request
    | value :: p :: ps => .ok (.matchValue debug value (p :: ps))
    | _ => .error .missingArguments

/-- Reads what help is asked for. -/
def readHelp : List String → Except UsageError Request
  | [] => .ok .generalHelp
  | ["match"] => .ok .matchHelp
  | ["help"] => .ok .generalHelp
  | "match" :: name :: _ => .error (.unknownSubcommand name)
  | name :: _ => .error (.unknownSubcommand name)

/-- Reads the arguments of the program. -/
def readArguments : List String → Except UsageError Request
  | [] => .error .missingSubcommand
  | arg :: rest =>
    if arg = "match" then readMatch false [] rest
    else if arg = "help" then readHelp rest
    else if arg = "--version" then .ok .version
    else if arg = "--help" then .ok .generalHelp
    else if arg = "--" then
      match rest with
      | [] => .error .missingSubcommand
      | other :: _ => .error (.unexpectedArgument other)
    else if isOption arg then
      match arg.toList with
      | '-' :: 'V' :: _ => .ok .version
      | '-' :: 'h' :: _ => .ok .generalHelp
      | _ => .error (.unexpectedArgument arg)
    else .error (.unknownSubcommand arg)

end CaseMatch.CommandLine
