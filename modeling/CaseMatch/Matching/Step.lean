import CaseMatch.Matching.Run

/-!
Matches put together from single steps, for rules that no pattern expresses, with a record of
what each step left behind.
-/

namespace CaseMatch

/-- A step of a match. The steps within a frame of their own stop at the first that fails. -/
inductive Step where
  | assign (name : String) (value : Value)
  | fail (message : String)
  | nest (subject : Value) (p : Pattern)
  | run (p : Pattern)
  | trace
  | within (subject : Value) (steps : List Step)

/-- What is recorded: the trace where it was asked for, the record of the steps within a frame,
and how each step ended with the state after it. -/
inductive Entry where
  | trace (t : Trace)
  | inner (entries : List Entry)
  | done (result : Except NoMatch Unit) (after : Context)

namespace Step

mutual

/-- Does a step, and gives its result, the state after it, and the record. -/
def perform : Step → Context → Except NoMatch Unit × Context × List Entry
  | .assign name value, c => recorded (Matching.assign name value c) []
  | .fail message, c => recorded (Matching.fail (.custom message) c) []
  | .nest subject p, c => recorded (Matching.within ⟨subject, some p⟩ p.run c) []
  | .run p, c => recorded (p.run c) []
  | .trace, c => recorded (.ok (), c) [.trace c.trace]
  | .within subject steps, c =>
    let (result, c', entries) := performUntilFailure steps (c.push ⟨subject, none⟩)
    recorded (result, c'.pop) [.inner entries]
where
  /-- The outcome of a step behind what was recorded before it ended. -/
  recorded (outcome : Except NoMatch Unit × Context) (before : List Entry) :
      Except NoMatch Unit × Context × List Entry :=
    (outcome.1, outcome.2, before ++ [.done outcome.1 outcome.2])

/-- Does steps one after another up to the first that fails. -/
def performUntilFailure : List Step → Context → Except NoMatch Unit × Context × List Entry
  | [], c => (.ok (), c, [])
  | step :: rest, c =>
    match perform step c with
    | (.ok (), c', entries) =>
      let (result, c'', more) := performUntilFailure rest c'
      (result, c'', entries ++ more)
    | (.error e, c', entries) => (.error e, c', entries)

end

/-- Does all steps one after another, whether they succeed or fail. -/
def performAll : List Step → Context → Context × List Entry
  | [], c => (c, [])
  | step :: rest, c =>
    let (_, c', entries) := perform step c
    let (c'', more) := performAll rest c'
    (c'', entries ++ more)

end Step

end CaseMatch
