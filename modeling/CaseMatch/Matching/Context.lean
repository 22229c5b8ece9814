import CaseMatch.Matching.Bindings
import CaseMatch.Matching.Failure

/-!
The state of a match: the frames from the whole subject down to the part being looked at, and
the names bound so far. A step of a match leaves a state behind also where it fails.
-/

namespace CaseMatch

/-- The innermost frame, the frames around it from the inside outwards, and the bindings. -/
structure Context where
  frame : Frame
  enclosing : List Frame
  bindings : Bindings

namespace Context

/-- The state in which a subject begins to be matched. -/
def start (subject : Value) (p : Pattern) : Context := ⟨⟨subject, some p⟩, [], .empty⟩

/-- The part of the subject that is being looked at. -/
def current (c : Context) : Value := c.frame.subject

def depth (c : Context) : Nat := c.enclosing.length + 1

/-- The frames from the outside inwards. -/
def trace (c : Context) : Trace := (c.frame :: c.enclosing).reverse

/-- Enters a part of the subject. -/
def push (c : Context) (frame : Frame) : Context :=
  { c with frame := frame, enclosing := c.frame :: c.enclosing }

/-- Leaves the innermost frame. The outermost one is never left. -/
def pop (c : Context) : Context :=
  match c.enclosing with
  | [] => c
  | frame :: enclosing => { c with frame := frame, enclosing := enclosing }

end Context

/-- A step of a match: a result or a failure, and the state that is left. -/
def Matching (α : Type) : Type := Context → Except NoMatch α × Context

namespace Matching

instance : Monad Matching where
  pure a := fun c => (.ok a, c)
  bind step next := fun c =>
    match step c with
    | (.ok a, c') => next a c'
    | (.error e, c') => (.error e, c')

def context : Matching Context := fun c => (.ok c, c)

/-- Fails at the innermost frame. -/
def fail {α : Type} (rejection : Rejection) : Matching α := fun c =>
  (.error ⟨rejection, c.trace, none⟩, c)

/-- Goes on only where a check holds. -/
def check (holds : Bool) (rejection : Rejection) : Matching Unit :=
  if holds then pure () else fail rejection

/-- Gives a name to a value. A name that has a value already keeps it, and the new one has to
equal it. -/
def assign (name : String) (value : Value) : Matching Unit := fun c =>
  match c.bindings.get? name with
  | some bound =>
    if bound.eq value then (.ok (), c) else fail (.alreadyBound name bound value) c
  | none => (.ok (), { c with bindings := c.bindings.insert name value })

/-- Does a step in a frame of its own, which is left whether the step succeeds or fails. -/
def within {α : Type} (frame : Frame) (step : Matching α) : Matching α := fun c =>
  let (result, c') := step (c.push frame)
  (result, c'.pop)

end Matching

end CaseMatch
