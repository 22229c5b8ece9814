import CaseMatch.CommandLine.Run

/-!
The program: it prints the answer to its arguments.
-/

def main (args : List String) : IO UInt32 := do
  let answer := CaseMatch.CommandLine.answer args
  IO.print answer.output
  IO.eprint answer.report
  return answer.exitCode
