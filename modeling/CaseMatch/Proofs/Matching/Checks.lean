import CaseMatch.Matching.Run
import CaseMatch.Proofs.Matching.Bindings

/-!
A match as a list of checks. A pattern and a subject determine which checks are made, in what
order and at which part of the subject, whatever names are bound. Running the pattern is making
these checks one after another up to the first that fails.
-/

namespace CaseMatch

/-- Induction over a pattern with its parts. -/
@[elab_as_elim, induction_eliminator]
theorem Pattern.induction {motive : Pattern → Prop}
    (predicate : ∀ accepts guard name label, motive ⟨.predicate accepts, guard, name, label⟩)
    (nested : ∀ inner guard name label, motive inner →
      motive ⟨.nested inner, guard, name, label⟩)
    (array : ∀ elements tail guard name label, (∀ q ∈ elements, motive q) →
      (∀ t ∈ tail, motive t.each) → motive ⟨.array elements tail, guard, name, label⟩)
    (map : ∀ entries guard name label, (∀ e ∈ entries, motive e.2) →
      motive ⟨.map entries, guard, name, label⟩) : ∀ p, motive p := fun p =>
  @Pattern.rec motive
    (fun matcher => ∀ guard name label, motive ⟨matcher, guard, name, label⟩)
    (fun elements => ∀ q ∈ elements, motive q)
    (fun tail => ∀ t ∈ tail, motive t.each)
    (fun entries => ∀ e ∈ entries, motive e.2)
    (fun t => motive t.each)
    (fun e => motive e.2)
    (fun _ guard name label hMatcher => hMatcher guard name label)
    predicate
    (fun inner hInner guard name label => nested inner guard name label hInner)
    (fun elements tail hElements hTail guard name label =>
      array elements tail guard name label hElements hTail)
    (fun entries hEntries guard name label => map entries guard name label hEntries)
    (fun _ h => nomatch h)
    (fun _ _ hHead hTail => List.forall_mem_cons.2 ⟨hHead, hTail⟩)
    (fun _ h => nomatch h)
    (fun _ hTail t ht => by cases ht; exact hTail)
    (fun _ h => nomatch h)
    (fun _ _ hHead hTail => List.forall_mem_cons.2 ⟨hHead, hTail⟩)
    (fun _ _ _ hEach => hEach)
    (fun _ _ hPattern => hPattern)
    p

/-- What a check asks for: that something holds, or that a value can be given a name. -/
inductive Demand where
  | holds (met : Bool) (rejection : Rejection)
  | assigns (name : String) (value : Value)

namespace Demand

/-- The assignments that a demand comes to. -/
def assignments : Demand → List Assignment
  | .holds _ _ => []
  | .assigns name value => [(name, value)]

/-- Why a demand is not met where names have the values that `bound?` gives. A name without a
value can be given any. -/
def refusal? (bound? : String → Option Value) : Demand → Option Rejection
  | .holds met rejection => if met then none else some rejection
  | .assigns name value =>
    match bound? name with
    | some bound => if bound.eq value then none else some (.alreadyBound name bound value)
    | none => none

end Demand

/-- A check with the frames that lead from the subject of the match to the part that is checked,
from the outside inwards. The frame of the subject itself is not among them. -/
structure Check where
  path : Trace
  demand : Demand

namespace Check

/-- A check of the subject itself. -/
def here (demand : Demand) : Check := ⟨[], demand⟩

/-- A check of a part, seen from around the frame of that part. -/
def under (frame : Frame) (k : Check) : Check := ⟨frame :: k.path, k.demand⟩

/-- All assignments that checks come to, in order. -/
def assignments (checks : List Check) : List Assignment := checks.flatMap (·.demand.assignments)

end Check

/-- The check that a guard makes, if there is one. -/
def guardChecks {α : Type} (guard : Option (α → Bool)) (subject : α) (rejection : Rejection) :
    List Check :=
  match guard with
  | some holds => [.here (.holds (holds subject) rejection)]
  | none => []

/-- The check that a name makes, if there is one. -/
def nameChecks (name : Option String) (value : Value) : List Check :=
  match name with
  | some name => [.here (.assigns name value)]
  | none => []

/-- That there are as many items as elements, or at least as many where a tail follows. -/
def lengthDemand {P : Type} (elements : List P) (tail : Option (Tail P)) (items : List Value) :
    Demand :=
  let fixed := elements.length
  match tail with
  | none => .holds (items.length == fixed) (.elementCount fixed items.length)
  | some _ => .holds (decide (fixed ≤ items.length)) (.tooFewElements fixed items.length)

namespace Pattern

mutual

/-- The checks of a subject against a pattern, in the order in which they are made: those of the
matcher, then the guard, then the name. -/
def checks : Pattern → Value → List Check
  | ⟨matcher, guard, name, _⟩, subject =>
    matcherChecks matcher subject ++ guardChecks guard subject .guardRejected ++
      nameChecks name subject

/-- The checks of a matcher: the kind of the subject, then the number of its items, then all of
the parts. -/
def matcherChecks : Matcher Pattern → Value → List Check
  | .predicate accepts, subject => [.here (.holds (accepts subject) .notMatched)]
  | .nested inner, subject => checks inner subject
  | .array elements tail, .array items =>
    .here (.holds true .notArray) :: .here (lengthDemand elements tail items) ::
      (elementChecks elements items ++ tailChecks tail (items.drop elements.length))
  | .array _ _, _ => [.here (.holds false .notArray)]
  | .map entries, .map pairs => .here (.holds true .notMap) :: entryChecks entries pairs
  | .map _, _ => [.here (.holds false .notMap)]

/-- The checks of items against as many patterns, one by one. -/
def elementChecks : List Pattern → List Value → List Check
  | p :: ps, item :: items => (checks p item).map (.under ⟨item, some p⟩) ++ elementChecks ps items
  | _, _ => []

/-- The checks of the items behind the fixed ones: each by itself, then all of them together. -/
def tailChecks : Option (Tail Pattern) → List Value → List Check
  | none, _ => []
  | some ⟨each, guard, name⟩, rest =>
    rest.flatMap (fun item => (checks each item).map (.under ⟨item, some each⟩)) ++
      guardChecks guard rest .tailRejected ++ nameChecks name (.array rest)

/-- The checks of the values under the keys of entries. That there is a value is checked first,
unless the key is optional. -/
def entryChecks : List (MapKey × Pattern) → Dict → List Check
  | [], _ => []
  | (.required key, p) :: rest, pairs =>
    (match pairs.get? key with
      | some value =>
        .here (.holds true (.missingKey key)) :: (checks p value).map (.under ⟨value, some p⟩)
      | none => [.here (.holds false (.missingKey key))]) ++ entryChecks rest pairs
  | (.optional key, p) :: rest, pairs =>
    (match pairs.get? key with
      | some value => if value.isNil then [] else (checks p value).map (.under ⟨value, some p⟩)
      | none => []) ++ entryChecks rest pairs

end

end Pattern

namespace Matching

variable {α β : Type}

/-- What comes after a step begins where the step ends, and is left out if the step fails. -/
theorem bind_apply (first : Matching α) (next : α → Matching β) (c : Context) :
    (first >>= next) c = match first c with
      | (.ok a, c') => next a c'
      | (.error e, c') => (.error e, c') := rfl

theorem id_map (step : Matching α) : id <$> step = step := by
  funext c
  show (step >>= pure) c = step c
  rw [bind_apply]
  rcases step c with ⟨_ | _, c'⟩ <;> rfl

theorem bind_assoc {γ : Type} (step : Matching α) (next : α → Matching β) (last : β → Matching γ) :
    step >>= next >>= last = step >>= fun a => next a >>= last := by
  funext c
  simp only [bind_apply]
  rcases step c with ⟨_ | _, c'⟩ <;> rfl

instance : LawfulMonad Matching := LawfulMonad.mk' _ id_map (fun _ _ => rfl) bind_assoc

end Matching

namespace Check

/-- Makes a check where it is seen from the innermost frame of a context. -/
def perform (k : Check) : Matching Unit := fun c =>
  match k.demand.refusal? c.bindings.get? with
  | some rejection => (.error ⟨rejection, c.trace ++ k.path, none⟩, c)
  | none => (.ok (), { c with bindings := c.bindings.keepAll k.demand.assignments })

/-- Makes checks one after another, up to the first that fails. -/
def performAll : List Check → Matching Unit
  | [] => pure ()
  | k :: ks => do
    perform k
    performAll ks

/-- A check that is refused fails where it is made and changes nothing. -/
theorem perform_of_refused {k : Check} {c : Context} {rejection : Rejection}
    (h : k.demand.refusal? c.bindings.get? = some rejection) :
    k.perform c = (.error ⟨rejection, c.trace ++ k.path, none⟩, c) := by
  simp [perform, h]

/-- A check that is met binds what it assigns. -/
theorem perform_of_met {k : Check} {c : Context}
    (h : k.demand.refusal? c.bindings.get? = none) :
    k.perform c = (.ok (), { c with bindings := c.bindings.keepAll k.demand.assignments }) := by
  simp [perform, h]

theorem performAll_cons_of_refused {k : Check} {c : Context} {rejection : Rejection}
    (h : k.demand.refusal? c.bindings.get? = some rejection) (ks : List Check) :
    performAll (k :: ks) c = (.error ⟨rejection, c.trace ++ k.path, none⟩, c) := by
  rw [performAll, Matching.bind_apply, perform_of_refused h]

theorem performAll_cons_of_met {k : Check} {c : Context}
    (h : k.demand.refusal? c.bindings.get? = none) (ks : List Check) :
    performAll (k :: ks) c =
      performAll ks { c with bindings := c.bindings.keepAll k.demand.assignments } := by
  rw [performAll, Matching.bind_apply, perform_of_met h]

/-- The checks of two lists are made one list after the other. -/
theorem performAll_append (ks ls : List Check) :
    performAll (ks ++ ls) = (do performAll ks; performAll ls) := by
  induction ks with
  | nil => rfl
  | cons k ks ih => simp only [List.cons_append, performAll, ih, bind_assoc]

/-- Making checks changes nothing of a context but its bindings. -/
theorem performAll_frames (ks : List Check) (c : Context) :
    (performAll ks c).2 = { c with bindings := (performAll ks c).2.bindings } := by
  induction ks generalizing c with
  | nil => rfl
  | cons k ks ih =>
      cases h : k.demand.refusal? c.bindings.get? with
      | some rejection => rw [performAll_cons_of_refused h]
      | none =>
          rw [performAll_cons_of_met h]
          exact ih _

/-- Making checks leaves the subject as it is. -/
theorem performAll_current (ks : List Check) (c : Context) :
    (performAll ks c).2.current = c.current := by
  rw [performAll_frames]
  rfl

/-- A check of a part is made in the frame of that part as it is made from around the frame. -/
theorem within_performAll (frame : Frame) (ks : List Check) (c : Context) :
    Matching.within frame (performAll ks) c = performAll (ks.map (under frame)) c := by
  induction ks generalizing c with
  | nil => rfl
  | cons k ks ih =>
      rw [List.map_cons]
      cases h : k.demand.refusal? c.bindings.get? with
      | some rejection =>
          have hInside : k.demand.refusal? (c.push frame).bindings.get? = some rejection := h
          have hOutside : (k.under frame).demand.refusal? c.bindings.get? = some rejection := h
          rw [Matching.within, performAll_cons_of_refused hInside,
            performAll_cons_of_refused hOutside]
          simp [Context.trace, Context.push, Context.pop, under]
      | none =>
          have hInside : k.demand.refusal? (c.push frame).bindings.get? = none := h
          have hOutside : (k.under frame).demand.refusal? c.bindings.get? = none := h
          rw [Matching.within, performAll_cons_of_met hInside, performAll_cons_of_met hOutside]
          exact ih { c with bindings := c.bindings.keepAll k.demand.assignments }

end Check

/-- Where a subject is the innermost one, a step makes exactly some checks. -/
def Makes (subject : Value) (step : Matching Unit) (ks : List Check) : Prop :=
  ∀ c : Context, c.current = subject → step c = Check.performAll ks c

namespace Makes

variable {subject : Value}

/-- A step after another makes its checks after those of the other. -/
theorem bind {first second : Matching Unit} {ks ls : List Check} (hFirst : Makes subject first ks)
    (hSecond : Makes subject second ls) :
    Makes subject (first >>= fun _ => second) (ks ++ ls) := by
  intro c hc
  have hCurrent := Check.performAll_current ks c
  rw [Check.performAll_append, Matching.bind_apply, Matching.bind_apply, hFirst c hc]
  rcases hPerform : Check.performAll ks c with ⟨_ | _, c'⟩
  · rfl
  · rw [hPerform] at hCurrent
    exact hSecond c' (hCurrent.trans hc)

theorem check (met : Bool) (rejection : Rejection) :
    Makes subject (Matching.check met rejection) [.here (.holds met rejection)] := by
  intro c _
  cases met with
  | true => rfl
  | false => simp [Matching.check, Matching.fail, Check.performAll, Check.perform, Check.here,
      Demand.refusal?, Matching.bind_apply]

theorem fail (rejection : Rejection) :
    Makes subject (Matching.fail rejection) [.here (.holds false rejection)] :=
  check false rejection

/-- Binding a name is one check, which assigns. -/
theorem assign (name : String) (value : Value) :
    Makes subject (Matching.assign name value) [.here (.assigns name value)] := by
  intro c _
  cases hBound : c.bindings.get? name with
  | none =>
      simp [Matching.assign, Check.performAll, Matching.bind_apply, Check.perform, Check.here,
        Demand.refusal?, Demand.assignments, Bindings.keepAll, Bindings.keep, hBound]
      rfl
  | some bound =>
      cases hEq : bound.eq value <;>
        simp [Matching.assign, Matching.fail, Check.performAll, Matching.bind_apply, Check.perform,
          Check.here, Demand.refusal?, Demand.assignments, Bindings.keepAll, Bindings.keep, hBound,
          hEq]
      rfl

theorem guard {α : Type} (guard : Option (α → Bool)) (part : α) (rejection : Rejection) :
    Makes subject (Matching.check (guardHolds guard part) rejection)
      (guardChecks guard part rejection) := by
  cases guard with
  | none => exact fun _ _ => rfl
  | some holds => exact check (holds part) rejection

theorem name (name : Option String) (value : Value) :
    Makes subject (assignName name value) (nameChecks name value) := by
  cases name with
  | none => exact fun _ _ => rfl
  | some name => exact assign name value

/-- A step in a frame makes the checks that it makes of the part, under that frame. -/
theorem within {frame : Frame} {step : Matching Unit} {ks : List Check}
    (h : Makes frame.subject step ks) :
    Makes subject (Matching.within frame step) (ks.map (Check.under frame)) := by
  intro c _
  rw [← Check.within_performAll]
  simp only [Matching.within, h (c.push frame) rfl]

/-- What a pattern's run makes, if this is known of its matcher. -/
theorem run {matcher : Matcher Pattern} (guard : Option (Value → Bool)) (name : Option String)
    (label : String)
    (h : Makes subject (Pattern.runMatcher matcher subject)
      (Pattern.matcherChecks matcher subject)) :
    Makes subject (Pattern.run ⟨matcher, guard, name, label⟩)
      (Pattern.checks ⟨matcher, guard, name, label⟩ subject) := by
  intro c hc
  have hBody := (h.bind (Makes.guard guard subject .guardRejected)).bind (Makes.name name subject)
  rw [Pattern.checks, ← hBody c hc, Pattern.run, ← hc, bind_assoc]
  rfl

/-- The elements of an array are checked in turn against their patterns, if each pattern makes its
checks. -/
theorem elements {ps : List Pattern} (h : ∀ q ∈ ps, ∀ w, Makes w q.run (q.checks w))
    (items : List Value) :
    Makes subject (Pattern.runElements ps items) (Pattern.elementChecks ps items) := by
  induction ps generalizing items with
  | nil => exact fun _ _ => rfl
  | cons p ps ih =>
      rw [List.forall_mem_cons] at h
      cases items with
      | nil => exact fun _ _ => rfl
      | cons item items => exact (within (h.1 item)).bind (ih h.2 items)

/-- A pattern is run on each item, and makes the checks of the item in a frame of its own. -/
theorem each {p : Pattern} (h : ∀ w, Makes w p.run (p.checks w)) (items : List Value) :
    Makes subject (items.forM fun item => Matching.within ⟨item, some p⟩ p.run)
      (items.flatMap fun item => (p.checks item).map (.under ⟨item, some p⟩)) := by
  induction items with
  | nil => exact fun _ _ => rfl
  | cons item items ih => exact (within (h item)).bind ih

theorem tail {t : Option (Tail Pattern)} (h : ∀ t' ∈ t, ∀ w, Makes w t'.each.run (t'.each.checks w))
    (items : List Value) :
    Makes subject (Pattern.runTail t items) (Pattern.tailChecks t items) := by
  cases t with
  | none => exact fun _ _ => rfl
  | some t =>
      have hEach : Makes subject
          (items.forM fun item => Matching.within ⟨item, some t.each⟩ t.each.run)
          (items.flatMap fun item => (t.each.checks item).map (.under ⟨item, some t.each⟩)) :=
        each (h t rfl) items
      have hBody := (hEach.bind (guard t.guard items .tailRejected)).bind
        (name t.name (.array items))
      rw [bind_assoc] at hBody
      exact hBody

/-- The entries of a map pattern are checked in turn, each on the value under its key. -/
theorem entries {es : List (MapKey × Pattern)} (h : ∀ e ∈ es, ∀ w, Makes w e.2.run (e.2.checks w))
    (pairs : Dict) :
    Makes subject (Pattern.runEntries es pairs) (Pattern.entryChecks es pairs) := by
  induction es with
  | nil => exact fun _ _ => rfl
  | cons e es ih =>
      obtain ⟨key, p⟩ := e
      rw [List.forall_mem_cons] at h
      have hRest := ih h.2
      cases key with
      | required key =>
          rw [Pattern.runEntries, Pattern.entryChecks]
          cases pairs.get? key with
          | none => exact Makes.bind (fail _) hRest
          | some value => exact Makes.bind (Makes.bind (check true _) (within (h.1 value))) hRest
      | optional key =>
          rw [Pattern.runEntries, Pattern.entryChecks]
          cases pairs.get? key with
          | none => exact hRest
          | some value =>
              cases hNil : value.isNil with
              | true => simpa [hNil] using hRest
              | false => simpa [hNil] using Makes.bind (within (h.1 value)) hRest

end Makes

/-- Matching a subject makes exactly the checks of the subject against the pattern. -/
theorem Pattern.makes_checks (p : Pattern) (subject : Value) :
    Makes subject p.run (p.checks subject) := by
  induction p generalizing subject with
  | predicate accepts guard name label => exact .run guard name label (.check _ _)
  | nested inner guard name label ih => exact .run guard name label (ih subject)
  | array elements tail guard name label hElements hTail =>
      refine .run guard name label ?_
      cases subject with
      | array items =>
          have hParts : Makes (.array items)
              (do
                Pattern.runElements elements items
                Pattern.runTail tail (items.drop elements.length))
              (elementChecks elements items ++ tailChecks tail (items.drop elements.length)) :=
            (Makes.elements hElements items).bind (Makes.tail hTail _)
          cases tail with
          | none => exact Makes.bind (.check true _) (Makes.bind (.check _ _) hParts)
          | some t => exact Makes.bind (.check true _) (Makes.bind (.check _ _) hParts)
      | _ => exact .fail _
  | map entries guard name label hEntries =>
      refine .run guard name label ?_
      cases subject with
      | map pairs => exact Makes.bind (.check true _) (.entries hEntries pairs)
      | _ => exact .fail _

end CaseMatch
