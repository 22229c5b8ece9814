import CaseMatch.Matching.Step
import CaseMatch.Proofs.Matching.Checks
import CaseMatch.Proofs.Matching.Stacks

/-!
A pattern as calls on a context. The calls of a pattern on a context are the run of the pattern, so
that what holds of all calls holds of matches that are nested in each other and in rules of any
other kind: every call leaves the stacks as it found them, and no name loses its value. So do the
steps of a match that is put together by hand.
-/

namespace CaseMatch

namespace Calls

instance : Monad Calls where
  pure a := .done (.ok a)
  bind first next := .call first fun
    | .ok a => next a
    | .error e => .done (.error e)

/-- The subject of the innermost frame. -/
def subject : Calls Value := .current fun v => pure v

def reject (rejection : Rejection) : Calls Unit := .fail rejection .done

/-- Goes on only where a check holds. -/
def check (holds : Bool) (rejection : Rejection) : Calls Unit :=
  if holds then pure () else reject rejection

/-- Gives a value the name of a pattern, if there is one. -/
def assignName (name : Option String) (value : Value) : Calls Unit :=
  match name with
  | some name => .bind name value .done
  | none => pure ()

end Calls

namespace Pattern

mutual

/-- The calls by which a pattern is matched: those of the matcher, then the guard, then the name. -/
def calls : Pattern → Calls Unit
  | ⟨matcher, guard, name, _⟩ => do
    let subject ← Calls.subject
    matcherCalls matcher subject
    Calls.check (guardHolds guard subject) .guardRejected
    Calls.assignName name subject

def matcherCalls : Matcher Pattern → Value → Calls Unit
  | .predicate accepts, subject => Calls.check (accepts subject) .notMatched
  | .nested inner, _ => calls inner
  | .array elements tail, .array items => do
    let fixed := elements.length
    match tail with
    | none => Calls.check (items.length == fixed) (.elementCount fixed items.length)
    | some _ => Calls.check (decide (fixed ≤ items.length)) (.tooFewElements fixed items.length)
    elementCalls elements items
    tailCalls tail (items.drop fixed)
  | .array _ _, _ => Calls.reject .notArray
  | .map entries, .map pairs => entryCalls entries pairs
  | .map _, _ => Calls.reject .notMap

def elementCalls : List Pattern → List Value → Calls Unit
  | p :: ps, item :: items => do
    .within item (some p) (calls p) .done
    elementCalls ps items
  | _, _ => pure ()

def tailCalls : Option (Tail Pattern) → List Value → Calls Unit
  | none, _ => pure ()
  | some ⟨each, guard, name⟩, rest => do
    rest.forM fun item => .within item (some each) (calls each) .done
    Calls.check (guardHolds guard rest) .tailRejected
    Calls.assignName name (.array rest)

def entryCalls : List (MapKey × Pattern) → Dict → Calls Unit
  | [], _ => pure ()
  | (.required key, p) :: rest, pairs => do
    match pairs.get? key with
    | some value => .within value (some p) (calls p) .done
    | none => Calls.reject (.missingKey key)
    entryCalls rest pairs
  | (.optional key, p) :: rest, pairs => do
    match pairs.get? key with
    | some value => if value.isNil then pure () else .within value (some p) (calls p) .done
    | none => pure ()
    entryCalls rest pairs

end

end Pattern

namespace Calls

/-- Calls one after the other run as the first and then the second. -/
theorem run_bind {α β : Type} (first : Calls β) (next : β → Calls α) :
    (first >>= next).run = first.run >>= fun a => (next a).run := by
  funext c
  show first.run.attempt _ c = _
  rw [Matching.attempt, Matching.bind_apply]
  rcases first.run c with ⟨_ | _, c'⟩ <;> rfl

theorem run_subject : subject.run = Matching.context >>= fun c => pure c.current := rfl

theorem run_reject (rejection : Rejection) : (reject rejection).run = Matching.fail rejection := rfl

theorem run_check (holds : Bool) (rejection : Rejection) :
    (check holds rejection).run = Matching.check holds rejection := by
  cases holds <;> rfl

theorem run_assignName (name : Option String) (value : Value) :
    (assignName name value).run = CaseMatch.assignName name value := by
  cases name <;> rfl

/-- A frame put on for a part runs as the part does within that frame. -/
theorem run_nest {p : Pattern} (h : p.calls.run = p.run) (v : Value) :
    (within v (some p) p.calls done).run = Matching.within ⟨v, some p⟩ p.run := by
  rw [← h]
  rfl

theorem run_forM {p : Pattern} (h : p.calls.run = p.run) (items : List Value) :
    (items.forM fun item => within item (some p) p.calls done).run =
      items.forM fun item => Matching.within ⟨item, some p⟩ p.run := by
  induction items with
  | nil => rfl
  | cons item items ih =>
      show (within item (some p) p.calls done >>= fun _ => items.forM _).run = _
      rw [run_bind, run_nest h, ih]
      rfl

end Calls

namespace Pattern

open Calls (run_bind run_check run_reject run_assignName run_nest)

/-- The calls for the elements of an array are the run of the elements. -/
theorem run_elementCalls {ps : List Pattern} (h : ∀ q ∈ ps, q.calls.run = q.run)
    (items : List Value) : (elementCalls ps items).run = runElements ps items := by
  induction ps generalizing items with
  | nil => rfl
  | cons p ps ih =>
      rw [List.forall_mem_cons] at h
      cases items with
      | nil => rfl
      | cons item items =>
          rw [elementCalls, runElements, run_bind, run_nest h.1, ih h.2]

theorem run_tailCalls {tail : Option (Tail Pattern)} (h : ∀ t ∈ tail, t.each.calls.run = t.each.run)
    (rest : List Value) : (tailCalls tail rest).run = runTail tail rest := by
  cases tail with
  | none => rfl
  | some t =>
      rw [tailCalls, runTail, run_bind, Calls.run_forM (h t rfl), run_bind, run_check,
        run_assignName]

theorem run_entryCalls {entries : List (MapKey × Pattern)}
    (h : ∀ e ∈ entries, e.2.calls.run = e.2.run) (pairs : Dict) :
    (entryCalls entries pairs).run = runEntries entries pairs := by
  induction entries with
  | nil => rfl
  | cons e entries ih =>
      obtain ⟨key, p⟩ := e
      rw [List.forall_mem_cons] at h
      cases key with
      | required key =>
          rw [entryCalls, runEntries]
          cases pairs.get? key with
          | none => simp only [run_bind, run_reject, ih h.2]
          | some value => simp only [run_bind, run_nest h.1, ih h.2]
      | optional key =>
          rw [entryCalls, runEntries]
          cases pairs.get? key with
          | none => exact ih h.2
          | some value =>
              cases hNil : value.isNil with
              | true => simpa [hNil] using ih h.2
              | false => simp [hNil, run_bind, run_nest h.1, ih h.2]

/-- The calls of a pattern are its run, if those of its matcher are the run of the matcher. -/
theorem run_calls_of_matcher {matcher : Matcher Pattern} (guard : Option (Value → Bool))
    (name : Option String) (label : String)
    (h : ∀ subject, (matcherCalls matcher subject).run = runMatcher matcher subject) :
    (calls ⟨matcher, guard, name, label⟩).run = run ⟨matcher, guard, name, label⟩ := by
  simp only [calls, run, run_bind, Calls.run_subject, h, run_check, run_assignName, bind_assoc,
    pure_bind]

/-- The calls of a pattern are its run. -/
theorem run_calls (p : Pattern) : p.calls.run = p.run := by
  induction p with
  | predicate accepts guard name label =>
      exact run_calls_of_matcher guard name label fun subject => run_check _ _
  | nested inner guard name label ih =>
      exact run_calls_of_matcher guard name label fun subject => ih
  | array elements tail guard name label hElements hTail =>
      refine run_calls_of_matcher guard name label fun subject => ?_
      cases subject with
      | array items =>
          cases tail <;>
            simp only [matcherCalls, runMatcher, run_bind, run_check, run_elementCalls hElements,
              run_tailCalls hTail]
      | _ => rfl
  | map entries guard name label hEntries =>
      refine run_calls_of_matcher guard name label fun subject => ?_
      cases subject with
      | map pairs => exact run_entryCalls hEntries pairs
      | _ => rfl

end Pattern

/-- Calls leave all frames as they were, and a name that is bound keeps its value. -/
theorem Calls.exists_bindings {α : Type} (calls : Calls α) (c : Context) :
    ∃ b : Bindings, (calls.run c).2 = { c with bindings := b } ∧
      ∀ name value, c.bindings.get? name = some value → b.get? name = some value := by
  obtain ⟨o, hPlay, hDisciplined⟩ := calls.exists_play (Stacks.paired_ofContext c)
  obtain ⟨-, hFinal⟩ := calls.play_ofContext hPlay
  have hSame := hDisciplined.same
  have hKeeps := hDisciplined.orderly.keeps
  rw [hFinal] at hSame hKeeps
  exact ⟨(calls.run c).2.bindings, Stacks.eq_of_sameStacks hSame, hKeeps⟩

/-! ### Steps -/

namespace Step

mutual

/-- The calls of a step. Those within a frame stop at the first that fails. -/
def calls : Step → Calls Unit
  | .assign name value => .bind name value .done
  | .fail message => Calls.reject (.custom message)
  | .nest subject p => .within subject (some p) p.calls .done
  | .run p => p.calls
  | .trace => pure ()
  | .within subject steps => .within subject none (callsUntilFailure steps) .done

def callsUntilFailure : List Step → Calls Unit
  | [] => pure ()
  | step :: rest => do
    calls step
    callsUntilFailure rest

end

/-- The calls of steps that go on whether those before succeed or fail. -/
def callsAll : List Step → Calls Unit
  | [] => pure ()
  | step :: rest => .call step.calls fun _ => callsAll rest

mutual

/-- The calls of a step are what it does, but for the record. -/
theorem run_calls (step : Step) (c : Context) :
    step.calls.run c = ((step.perform c).1, (step.perform c).2.1) := by
  cases step with
  | assign | fail | trace => rfl
  | nest subject p => exact congrFun (Calls.run_nest p.run_calls subject) c
  | run p => exact congrFun p.run_calls c
  | within subject steps =>
      show Matching.within ⟨subject, none⟩ (callsUntilFailure steps).run c = _
      rw [Matching.within, run_callsUntilFailure steps]
      rfl

/-- Steps until one fails come to the same as calls, whether all are done or not. -/
theorem run_callsUntilFailure (steps : List Step) (c : Context) :
    (callsUntilFailure steps).run c =
      ((performUntilFailure steps c).1, (performUntilFailure steps c).2.1) := by
  cases steps with
  | nil => rfl
  | cons step rest =>
      rw [callsUntilFailure, Calls.run_bind, Matching.bind_apply, run_calls step,
        performUntilFailure]
      rcases perform step c with ⟨_ | _, c', entries⟩
      · rfl
      · exact run_callsUntilFailure rest c'

end

/-- All steps come to the same as calls, those after a failure too. -/
theorem run_callsAll (steps : List Step) (c : Context) :
    ((callsAll steps).run c).2 = (performAll steps c).1 := by
  induction steps generalizing c with
  | nil => rfl
  | cons step rest ih =>
      show ((callsAll rest).run (step.calls.run c).2).2 = _
      rw [run_calls, ih]
      rfl

/-- Steps leave all frames as they were, and a name that is bound keeps its value. -/
theorem performAll_bindings (steps : List Step) (c : Context) :
    ∃ b : Bindings, (performAll steps c).1 = { c with bindings := b } ∧
      ∀ name value, c.bindings.get? name = some value → b.get? name = some value := by
  rw [← run_callsAll]
  exact (callsAll steps).exists_bindings c

end Step

/-- A binding that fails changes nothing. -/
theorem Matching.eq_of_assign_error {name : String} {value : Value} {c c' : Context} {e : NoMatch}
    (h : assign name value c = (.error e, c')) : c' = c := by
  rw [assign] at h
  cases hBound : c.bindings.get? name with
  | none => simp [hBound] at h
  | some bound =>
      cases hEq : bound.eq value <;> simp [hBound, hEq, fail] at h
      exact h.2.symm

/-- Whatever is called on a context, and whether the calls succeed or fail: on two stacks of their
own the subjects and the patterns come to the same as on the frames, and never get stuck; in every
state on the way both stacks have the same length and are not empty, and no name has another value
than in a state before; and each call that returned, like all of them together, has left both as
they were. A binding that fails changes nothing at all. The calls may be those of patterns of any
shape. -/
theorem Calls.leave_stacks {α : Type} (calls : Calls α) (c : Context) :
    (∃ o, calls.play (.ofContext c) = some o ∧
      o.result = (calls.run c).1 ∧ o.final = .ofContext (calls.run c).2 ∧
      (∀ s ∈ o.passed, s.subjects.length = s.patterns.length ∧ 1 ≤ s.subjects.length) ∧
      (o.passed.Pairwise fun s t => ∀ name value, s.bindings.get? name = some value →
        t.bindings.get? name = some value) ∧
      ∀ r ∈ o.returned, r.2.subjects = r.1.subjects ∧ r.2.patterns = r.1.patterns) ∧
    (∃ b : Bindings, (calls.run c).2 = { c with bindings := b } ∧
      ∀ name value, c.bindings.get? name = some value → b.get? name = some value) ∧
    (∀ name value e c', Matching.assign name value c = (.error e, c') → c' = c) ∧
    ∀ p : Pattern, p.calls.run = p.run := by
  obtain ⟨o, hPlay, hDisciplined⟩ := calls.exists_play (Stacks.paired_ofContext c)
  obtain ⟨hResult, hFinal⟩ := calls.play_ofContext hPlay
  have hOrderly := hDisciplined.orderly
  exact ⟨⟨o, hPlay, hResult, hFinal, hOrderly.paired, hOrderly.pairwise, hDisciplined.returns⟩,
    calls.exists_bindings c, fun name value e c' => Matching.eq_of_assign_error,
    Pattern.run_calls⟩

end CaseMatch
