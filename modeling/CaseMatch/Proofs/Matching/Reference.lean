import CaseMatch.Proofs.Matching.Outcome
import Mathlib.Data.List.Forall2

/-!
Matching told without a state. Whether a pattern fits a subject does not depend on names at all,
and which names are given to which values can be read off before anything is matched.
-/

namespace CaseMatch

mutual

/-- A pattern fits a subject, whatever names are bound: its matcher does, and its guard holds. -/
inductive Fits : Pattern → Value → Prop where
  | intro {p : Pattern} {subject : Value} (matched : FitsMatcher p.matcher subject)
      (guarded : guardHolds p.guard subject = true) : Fits p subject

/-- A matcher fits a subject. An array without a tail has as many items as there are elements. With
a tail it may have more, each of which fits the tail. A map has a value under each required key.
Under an optional key it has none, or nil, or one that fits. -/
inductive FitsMatcher : Matcher Pattern → Value → Prop where
  | predicate {accepts : Value → Bool} {subject : Value} (accepted : accepts subject = true) :
      FitsMatcher (.predicate accepts) subject
  | nested {inner : Pattern} {subject : Value} (fit : Fits inner subject) :
      FitsMatcher (.nested inner) subject
  | exactArray {elements : List Pattern} {items : List Value}
      (fit : List.Forall₂ Fits elements items) : FitsMatcher (.array elements none) (.array items)
  | openArray {elements : List Pattern} {tail : Tail Pattern} {fixed rest : List Value}
      (fit : List.Forall₂ Fits elements fixed) (fitTail : ∀ item ∈ rest, Fits tail.each item)
      (guarded : guardHolds tail.guard rest = true) :
      FitsMatcher (.array elements (some tail)) (.array (fixed ++ rest))
  | map {entries : List (MapKey × Pattern)} {pairs : Dict}
      (present : ∀ key q, (.required key, q) ∈ entries → (pairs.get? key).isSome = true)
      (required : ∀ key q value, (.required key, q) ∈ entries → pairs.get? key = some value →
        Fits q value)
      (optional : ∀ key q value, (.optional key, q) ∈ entries → pairs.get? key = some value →
        value.isNil = false → Fits q value) :
      FitsMatcher (.map entries) (.map pairs)

end

/-- An entry fits a map: what its key asks for is there. -/
def EntryFits (pairs : Dict) : MapKey × Pattern → Prop
  | (.required key, q) => ∃ value, pairs.get? key = some value ∧ Fits q value
  | (.optional key, q) => ∀ value, pairs.get? key = some value → value.isNil = false → Fits q value

/-- Entries fit a map if each of them does, in whatever order they are. -/
theorem fitsMatcher_map_iff {entries : List (MapKey × Pattern)} {pairs : Dict} :
    FitsMatcher (.map entries) (.map pairs) ↔ ∀ e ∈ entries, EntryFits pairs e := by
  constructor
  · rintro (_ | _ | _ | _ | ⟨present, required, optional⟩) ⟨key | key, q⟩ he
    · obtain ⟨value, hValue⟩ := Option.isSome_iff_exists.1 (present key q he)
      exact ⟨value, hValue, required key q value he hValue⟩
    · exact fun value => optional key q value he
  · intro h
    refine .map (fun key q he => ?_) (fun key q value he hValue => ?_)
      (fun key q value he => h (.optional key, q) he value)
    · obtain ⟨value, hValue, -⟩ := h (.required key, q) he
      exact Option.isSome_iff_exists.2 ⟨value, hValue⟩
    · obtain ⟨other, hOther, fit⟩ := h (.required key, q) he
      rw [hValue, Option.some.injEq] at hOther
      exact hOther ▸ fit

/-- Elements without a tail fit as many items, each its own. -/
theorem fitsMatcher_exactArray_iff {elements : List Pattern} {items : List Value} :
    FitsMatcher (.array elements none) (.array items) ↔ List.Forall₂ Fits elements items :=
  ⟨fun h => by cases h; assumption, .exactArray⟩

/-- Elements with a tail fit the first items, of which there are enough. The tail fits each of those
behind, and its guard holds of their list. -/
theorem fitsMatcher_openArray_iff {elements : List Pattern} {tail : Tail Pattern}
    {items : List Value} :
    FitsMatcher (.array elements (some tail)) (.array items) ↔
      elements.length ≤ items.length ∧ List.Forall₂ Fits elements (items.take elements.length) ∧
      (∀ item ∈ items.drop elements.length, Fits tail.each item) ∧
      guardHolds tail.guard (items.drop elements.length) = true := by
  constructor
  · intro h
    cases h with
    | @openArray elements tail fixed rest fit fitTail guarded =>
        rw [fit.length_eq, List.take_left, List.drop_left]
        exact ⟨by simp, fit, fitTail, guarded⟩
  · rintro ⟨hLength, fit, fitTail, guarded⟩
    have h := FitsMatcher.openArray fit fitTail guarded
    rwa [List.take_append_drop] at h

namespace Pattern

/-- What a name is given, if there is one. -/
def nameBinds (name : Option String) (value : Value) : List Assignment :=
  match name with
  | some name => [(name, value)]
  | none => []

mutual

/-- The names that a pattern gives to a subject and its parts, in order: first those of the parts,
then its own. -/
def binds : Pattern → Value → List Assignment
  | ⟨matcher, _, name, _⟩, subject => matcherBinds matcher subject ++ nameBinds name subject

def matcherBinds : Matcher Pattern → Value → List Assignment
  | .predicate _, _ => []
  | .nested inner, subject => binds inner subject
  | .array elements tail, .array items =>
    elementBinds elements items ++ tailBinds tail (items.drop elements.length)
  | .array _ _, _ => []
  | .map entries, .map pairs => entryBinds entries pairs
  | .map _, _ => []

def elementBinds : List Pattern → List Value → List Assignment
  | p :: ps, item :: items => binds p item ++ elementBinds ps items
  | _, _ => []

/-- The name of a tail is given to the array of the items behind the fixed ones, after the names
that these give. -/
def tailBinds : Option (Tail Pattern) → List Value → List Assignment
  | none, _ => []
  | some ⟨each, _, name⟩, rest =>
    rest.flatMap (fun item => binds each item) ++ nameBinds name (.array rest)

/-- An optional entry gives no names where there is no value under its key, or nil. -/
def entryBinds : List (MapKey × Pattern) → Dict → List Assignment
  | [], _ => []
  | (.required key, p) :: rest, pairs =>
    (match pairs.get? key with
      | some value => binds p value
      | none => []) ++ entryBinds rest pairs
  | (.optional key, p) :: rest, pairs =>
    (match pairs.get? key with
      | some value => if value.isNil then [] else binds p value
      | none => []) ++ entryBinds rest pairs

end

theorem assignments_guardChecks {α : Type} (guard : Option (α → Bool)) (part : α)
    (rejection : Rejection) : Check.assignments (guardChecks guard part rejection) = [] := by
  cases guard <;> rfl

theorem assignments_nameChecks (name : Option String) (value : Value) :
    Check.assignments (nameChecks name value) = nameBinds name value := by
  cases name <;> rfl

/-- The checks of the elements assign the names of the elements, if this is known of each. -/
theorem assignments_elementChecks {ps : List Pattern}
    (h : ∀ q ∈ ps, ∀ w, Check.assignments (q.checks w) = q.binds w) (items : List Value) :
    Check.assignments (elementChecks ps items) = elementBinds ps items := by
  induction ps generalizing items with
  | nil => rfl
  | cons p ps ih =>
      rw [List.forall_mem_cons] at h
      cases items with
      | nil => rfl
      | cons item items =>
          rw [elementChecks, Check.assignments_append, Check.assignments_map_under, h.1, ih h.2,
            elementBinds]

theorem assignments_tailChecks {tail : Option (Tail Pattern)}
    (h : ∀ t ∈ tail, ∀ w, Check.assignments (t.each.checks w) = t.each.binds w)
    (rest : List Value) : Check.assignments (tailChecks tail rest) = tailBinds tail rest := by
  cases tail with
  | none => rfl
  | some tail =>
      have hEach := h tail rfl
      rw [tailChecks, Check.assignments_append, Check.assignments_append, assignments_guardChecks,
        assignments_nameChecks, List.append_nil, tailBinds]
      congr 1
      induction rest with
      | nil => rfl
      | cons item rest ih =>
          rw [List.flatMap_cons, Check.assignments_append, Check.assignments_map_under, hEach, ih,
            List.flatMap_cons]

/-- The checks of the entries assign the names of the entries, if this is known of each pattern. -/
theorem assignments_entryChecks {entries : List (MapKey × Pattern)}
    (h : ∀ e ∈ entries, ∀ w, Check.assignments (e.2.checks w) = e.2.binds w) (pairs : Dict) :
    Check.assignments (entryChecks entries pairs) = entryBinds entries pairs := by
  induction entries with
  | nil => rfl
  | cons e entries ih =>
      obtain ⟨key, p⟩ := e
      rw [List.forall_mem_cons] at h
      cases key with
      | required key =>
          rw [entryChecks, Check.assignments_append, ih h.2, entryBinds]
          congr 1
          cases pairs.get? key with
          | none => rfl
          | some value => exact (Check.assignments_map_under _ _).trans (h.1 value)
      | optional key =>
          rw [entryChecks, Check.assignments_append, ih h.2, entryBinds]
          congr 1
          cases pairs.get? key with
          | none => rfl
          | some value => cases hNil : value.isNil <;> simp [hNil, h.1 value] ; rfl

/-- The checks of a pattern assign the names that its matcher gives and then its own. -/
theorem assignments_checks_of_matcher {matcher : Matcher Pattern} {subject : Value}
    (guard : Option (Value → Bool)) (name : Option String) (label : String)
    (h : Check.assignments (matcherChecks matcher subject) = matcherBinds matcher subject) :
    Check.assignments (checks ⟨matcher, guard, name, label⟩ subject) =
      binds ⟨matcher, guard, name, label⟩ subject := by
  rw [checks, Check.assignments_append, Check.assignments_append, h, assignments_guardChecks,
    assignments_nameChecks, List.append_nil, binds]

/-- The assignments among the checks of a pattern are the names that it gives. -/
theorem assignments_checks (p : Pattern) (subject : Value) :
    Check.assignments (p.checks subject) = p.binds subject := by
  induction p generalizing subject with
  | predicate accepts guard name label => exact assignments_checks_of_matcher guard name label rfl
  | nested inner guard name label ih =>
      exact assignments_checks_of_matcher guard name label (ih subject)
  | array elements tail guard name label hElements hTail =>
      refine assignments_checks_of_matcher guard name label ?_
      cases subject with
      | array items =>
          have hLength : (lengthDemand elements tail items).assignments = [] := by
            cases tail <;> rfl
          calc Check.assignments (matcherChecks (.array elements tail) (.array items))
              = (lengthDemand elements tail items).assignments ++
                  Check.assignments (elementChecks elements items ++
                    tailChecks tail (items.drop elements.length)) := rfl
            _ = matcherBinds (.array elements tail) (.array items) := by
                rw [hLength, Check.assignments_append, assignments_elementChecks hElements,
                  assignments_tailChecks hTail, List.nil_append, matcherBinds]
      | _ => rfl
  | map entries guard name label hEntries =>
      refine assignments_checks_of_matcher guard name label ?_
      cases subject with
      | map pairs => exact assignments_entryChecks hEntries pairs
      | _ => rfl

/-- What a guard checks is that it holds. -/
theorem satisfied_guardChecks {α : Type} (guard : Option (α → Bool)) (part : α)
    (rejection : Rejection) :
    Check.Satisfied (guardChecks guard part rejection) ↔ guardHolds guard part = true := by
  cases guard <;> simp [guardChecks, guardHolds, Check.Satisfied, Check.here, Demand.IsMet]

theorem satisfied_nameChecks (name : Option String) (value : Value) :
    Check.Satisfied (nameChecks name value) := by
  cases name <;> simp [nameChecks, Check.Satisfied, Check.here, Demand.IsMet]

/-- The checks of as many items as elements are satisfied if each element fits its item. Items
behind them are not looked at. -/
theorem satisfied_elementChecks {ps : List Pattern}
    (h : ∀ q ∈ ps, ∀ w, Check.Satisfied (q.checks w) ↔ Fits q w) {fixed : List Value}
    (hLength : fixed.length = ps.length) (rest : List Value) :
    Check.Satisfied (elementChecks ps (fixed ++ rest)) ↔ List.Forall₂ Fits ps fixed := by
  induction ps generalizing fixed with
  | nil =>
      obtain rfl := List.length_eq_zero_iff.1 hLength
      simp [elementChecks, Check.Satisfied]
  | cons p ps ih =>
      obtain ⟨item, items, rfl⟩ := List.exists_cons_of_length_eq_add_one hLength
      rw [List.forall_mem_cons] at h
      rw [List.cons_append, elementChecks, Check.satisfied_append, Check.satisfied_map_under, h.1,
        ih h.2 (Nat.succ.inj hLength), List.forall₂_cons]

/-- The checks of a tail are satisfied if it fits each item and its guard holds of them all. -/
theorem satisfied_tailChecks {tail : Tail Pattern}
    (h : ∀ w, Check.Satisfied (tail.each.checks w) ↔ Fits tail.each w) (rest : List Value) :
    Check.Satisfied (tailChecks (some tail) rest) ↔
      (∀ item ∈ rest, Fits tail.each item) ∧ guardHolds tail.guard rest = true := by
  have hEach : Check.Satisfied
      (rest.flatMap fun item => (tail.each.checks item).map (.under ⟨item, some tail.each⟩)) ↔
        ∀ item ∈ rest, Fits tail.each item := by
    rw [Check.satisfied_flatMap]
    exact forall₂_congr fun item _ => (Check.satisfied_map_under _ _).trans (h item)
  rw [tailChecks, Check.satisfied_append, Check.satisfied_append, hEach, satisfied_guardChecks,
    and_iff_left (satisfied_nameChecks _ _)]

/-- The checks of the entries are satisfied if each entry fits the map, whatever the others do. -/
theorem satisfied_entryChecks {entries : List (MapKey × Pattern)}
    (h : ∀ e ∈ entries, ∀ w, Check.Satisfied (e.2.checks w) ↔ Fits e.2 w) (pairs : Dict) :
    Check.Satisfied (entryChecks entries pairs) ↔ ∀ e ∈ entries, EntryFits pairs e := by
  induction entries with
  | nil => simp [entryChecks, Check.satisfied_nil]
  | cons e entries ih =>
      obtain ⟨key, p⟩ := e
      rw [List.forall_mem_cons] at h
      rw [List.forall_mem_cons, ← ih h.2]
      cases key with
      | required key =>
          rw [entryChecks, Check.satisfied_append, EntryFits]
          refine and_congr_left fun _ => ?_
          cases pairs.get? key with
          | none => simp [Check.satisfied_singleton, Check.here, Demand.IsMet]
          | some value =>
              simp [Check.satisfied_cons, Check.here, Demand.IsMet, Check.satisfied_map_under,
                h.1 value]
      | optional key =>
          rw [entryChecks, Check.satisfied_append, EntryFits]
          refine and_congr_left fun _ => ?_
          cases pairs.get? key with
          | none => simp [Check.satisfied_nil]
          | some value =>
              cases hNil : value.isNil with
              | true => simp [Check.satisfied_nil, hNil]
              | false => simp [Check.satisfied_map_under, h.1 value, hNil]

/-- What the checks of an array ask for is that there are enough items, and no others without a
tail, and that each fits. -/
theorem satisfied_arrayChecks {elements : List Pattern} {tail : Option (Tail Pattern)}
    (hElements : ∀ q ∈ elements, ∀ w, Check.Satisfied (q.checks w) ↔ Fits q w)
    (hTail : ∀ t ∈ tail, ∀ w, Check.Satisfied (t.each.checks w) ↔ Fits t.each w)
    (items : List Value) :
    Check.Satisfied (matcherChecks (.array elements tail) (.array items)) ↔
      FitsMatcher (.array elements tail) (.array items) := by
  rw [matcherChecks, Check.satisfied_cons, Check.satisfied_cons, Check.satisfied_append]
  refine (and_iff_right rfl).trans ?_
  cases tail with
  | none =>
      have hParts (hLength : items.length = elements.length) :
          Check.Satisfied (elementChecks elements items) ↔ List.Forall₂ Fits elements items := by
        simpa using satisfied_elementChecks hElements hLength []
      rw [fitsMatcher_exactArray_iff, tailChecks, and_iff_left Check.satisfied_nil]
      constructor
      · rintro ⟨hLength, hItems⟩
        exact (hParts (beq_iff_eq.1 hLength)).1 hItems
      · intro fit
        exact ⟨beq_iff_eq.2 fit.length_eq.symm, (hParts fit.length_eq.symm).2 fit⟩
  | some tail =>
      have hParts (hLength : elements.length ≤ items.length) :
          Check.Satisfied (elementChecks elements items) ↔
            List.Forall₂ Fits elements (items.take elements.length) := by
        have hFixed := satisfied_elementChecks hElements (List.length_take_of_le hLength)
          (items.drop elements.length)
        rwa [List.take_append_drop] at hFixed
      have hDemand : (lengthDemand elements (some tail) items).IsMet ↔
          elements.length ≤ items.length := decide_eq_true_iff
      rw [fitsMatcher_openArray_iff, satisfied_tailChecks (hTail tail rfl), Check.here, hDemand]
      exact and_congr_right fun hLength => and_congr_left fun _ => hParts hLength

/-- A subject of another kind is refused by a check that is never met. -/
theorem not_satisfied_of_kind (rejection : Rejection) :
    ¬Check.Satisfied [.here (.holds false rejection)] := by
  simp [Check.Satisfied, Check.here, Demand.IsMet]

/-- The checks of a pattern are satisfied if its matcher fits and its guard holds. A name asks for
nothing. -/
theorem satisfied_checks_of_matcher {matcher : Matcher Pattern} {subject : Value}
    (guard : Option (Value → Bool)) (name : Option String) (label : String)
    (h : Check.Satisfied (matcherChecks matcher subject) ↔ FitsMatcher matcher subject) :
    Check.Satisfied (checks ⟨matcher, guard, name, label⟩ subject) ↔
      Fits ⟨matcher, guard, name, label⟩ subject := by
  rw [checks, Check.satisfied_append, Check.satisfied_append, h, satisfied_guardChecks,
    and_iff_left (satisfied_nameChecks _ _)]
  constructor
  · rintro ⟨matched, guarded⟩
    exact .intro matched guarded
  · rintro ⟨matched, guarded⟩
    exact ⟨matched, guarded⟩

/-- What the checks of a pattern ask of the subject is that the pattern fits it. -/
theorem satisfied_checks (p : Pattern) (subject : Value) :
    Check.Satisfied (p.checks subject) ↔ Fits p subject := by
  induction p generalizing subject with
  | predicate accepts guard name label =>
      refine satisfied_checks_of_matcher guard name label ?_
      rw [matcherChecks, Check.satisfied_singleton]
      exact ⟨.predicate, fun h => by cases h; assumption⟩
  | nested inner guard name label ih =>
      refine satisfied_checks_of_matcher guard name label ((ih subject).trans ?_)
      exact ⟨.nested, fun h => by cases h; assumption⟩
  | array elements tail guard name label hElements hTail =>
      refine satisfied_checks_of_matcher guard name label ?_
      cases subject with
      | array items => exact satisfied_arrayChecks hElements hTail items
      | _ => exact iff_of_false (not_satisfied_of_kind _) (fun h => by cases h)
  | map entries guard name label hEntries =>
      refine satisfied_checks_of_matcher guard name label ?_
      cases subject with
      | map pairs =>
          rw [matcherChecks, Check.satisfied_cons, satisfied_entryChecks hEntries,
            fitsMatcher_map_iff]
          exact and_iff_right rfl
      | _ => exact iff_of_false (not_satisfied_of_kind _) (fun h => by cases h)

/-- Matching agrees with what can be said of a pattern and a subject without a state. A subject
matches where the pattern fits it and no name is given a value that differs from its first one.
The names are then bound to these first values, and no others are. -/
theorem test_ok_iff (p : Pattern) (subject : Value) (b : Bindings) :
    p.test subject = .ok b ↔ Fits p subject ∧ Consistent (p.binds subject) ∧
      b = .ofAssignments (p.binds subject) ∧
      ∀ name, b.get? name = firstValue? (p.binds subject) name := by
  have hMet : Check.AllMet (p.checks subject) ↔
      Fits p subject ∧ Consistent (p.binds subject) := by
    rw [Check.allMet_iff, satisfied_checks, assignments_checks]
  have hBound := Bindings.get?_ofAssignments (p.binds subject)
  rw [← and_assoc, ← hMet]
  constructor
  · intro hTest
    rcases Check.allMet_or_first_refused (p.checks subject) with
      hAll | ⟨before, k, after, rejection, hChecks, hBefore, hRefused⟩
    · rw [test_of_allMet hAll, assignments_checks, Except.ok.injEq] at hTest
      exact ⟨hAll, hTest.symm, hTest ▸ hBound⟩
    · rw [test_of_refused hChecks hBefore hRefused] at hTest
      nomatch hTest
  · rintro ⟨hAll, rfl, -⟩
    rw [test_of_allMet hAll, assignments_checks]

end Pattern

end CaseMatch
