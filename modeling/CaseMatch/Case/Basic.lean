import CaseMatch.Case.Error
import CaseMatch.Matching.Run
import CaseMatch.Pattern.Template

/-!
Clauses tried one after another, the first that matches wins.
-/

namespace CaseMatch

/-- The value of a name. Asking for a name that is not bound is an error. -/
def Bindings.get (b : Bindings) (name : String) : Except CaseError Value :=
  match b.get? name with
  | some value => .ok value
  | none => .error (.unboundVariable (lowercase name))

/-- What is done with the names that a clause has bound. -/
abbrev Action := Bindings → Except CaseError Value

/-- A pattern with what is done where it matches. -/
structure Clause where
  pattern : Pattern
  action : Option Action

namespace Clause

/-- A match of the clause by itself. -/
def attempt (c : Clause) (subject : Value) : Except NoMatch Bindings := c.pattern.test subject

/-- What the clause comes to. Without an action that is `true`. -/
def run (c : Clause) (b : Bindings) : Except CaseError Value :=
  match c.action with
  | some action => action b
  | none => .ok (.boolean true)

def fieldsText (c : Clause) : String :=
  "Clause \x7b pattern: " ++ c.pattern.fieldsText ++ ", action: " ++
    boolText c.action.isSome ++ " \x7d"

end Clause

/-- The clause that matched, by its place, and the names it bound. -/
structure Matched where
  clause : Nat
  bindings : Bindings

/-- Clauses in the order in which they are tried. There is at least one. -/
structure Case where
  clauses : List Clause
  clauses_ne_nil : clauses ≠ []

namespace Case

/-- A case of some clauses, unless there is none. -/
def ofClauses (clauses : List Clause) : Except CaseError Case :=
  if h : clauses = [] then .error .noClauses else .ok ⟨clauses, h⟩

/-- Tries clauses from the one at place `index` on. Where none matches, the failure of the last
one tried is the answer. -/
def findFrom (subject : Value) (index : Nat) (last : Option NoMatch) :
    List Clause → Except CaseError Matched
  | [] =>
    match last with
    | some failure => .error (.noMatch failure)
    | none => .error .noClauses
  | clause :: rest =>
    match clause.attempt subject with
    | .ok bindings => .ok ⟨index, bindings⟩
    | .error failure => findFrom subject (index + 1) (some (failure.inClause index)) rest

/-- The first clause that matches a subject. -/
def find (c : Case) (subject : Value) : Except CaseError Matched :=
  findFrom subject 0 none c.clauses

/-- What the first clause that matches a subject comes to. -/
def matchValue (c : Case) (subject : Value) : Except CaseError Value := do
  let found ← c.find subject
  match c.clauses[found.clause]? with
  | some clause => clause.run found.bindings
  | none => .error .noClauses

end Case

/-- The pattern of a clause. A tail by itself is none. -/
def Template.toClausePattern (t : Template) : Except PatternError Pattern :=
  match t with
  | .tail inner => .error (.tailAsClause inner)
  | other => other.toPattern

/-- A clause as it is declared, before its template is made into a pattern. -/
structure Declaration where
  template : Template
  action : Option Action

def Declaration.toClause (d : Declaration) : Except CaseError Clause :=
  match d.template.toClausePattern with
  | .ok p => .ok ⟨p, d.action⟩
  | .error e => .error (.invalidPattern e)

/-- The clauses of some declarations, up to the first error. -/
def Declaration.toClauses : List Declaration → Except CaseError (List Clause)
  | [] => .ok []
  | d :: rest => do
    let clause ← d.toClause
    .ok (clause :: (← toClauses rest))

/-- A case of declared clauses. -/
def Case.build (declarations : List Declaration) : Except CaseError Case := do
  Case.ofClauses (← Declaration.toClauses declarations)

/-- Builds a case and matches one subject with it. -/
def Case.once (subject : Value) (declarations : List Declaration) : Except CaseError Value := do
  (← Case.build declarations).matchValue subject

end CaseMatch
