import CaseMatch.Proofs.Matching.Checks
import Mathlib.Data.List.Induction

/-!
How making checks ends: all of them are met and their assignments are added to the bindings, or the
first that is not met gives the failure. Names may have values to begin with. Where none has, as at
the beginning of a match, the bindings are what the assignments come to by themselves.
-/

namespace CaseMatch

/-- What a demand asks of the subject is so, whatever values names have. -/
def Demand.IsMet : Demand → Prop
  | .holds met _ => met = true
  | .assigns _ _ => True

namespace Check

/-- Why a check is not met after some others, if it is not. -/
def refusalAfter? (earlier : List Check) (k : Check) : Option Rejection :=
  k.demand.refusal? (firstValue? (assignments earlier))

/-- Each check is met after those before it. -/
def AllMet (checks : List Check) : Prop :=
  EachAfter (fun earlier k => k.refusalAfter? earlier = none) checks

theorem assignments_append (ks ls : List Check) :
    assignments (ks ++ ls) = assignments ks ++ assignments ls :=
  List.flatMap_append

theorem assignments_singleton (k : Check) : assignments [k] = k.demand.assignments :=
  List.flatMap_singleton _ k

/-- Frames around checks change nothing of what the checks assign. -/
@[simp] theorem assignments_map_under (frame : Frame) (ks : List Check) :
    assignments (ks.map (under frame)) = assignments ks :=
  List.flatMap_map ..

/-- What checks ask of the subject is so, whatever values names have. -/
def Satisfied (checks : List Check) : Prop := ∀ k ∈ checks, k.demand.IsMet

theorem satisfied_nil : Satisfied [] := by
  simp [Satisfied]

theorem satisfied_cons (k : Check) (ks : List Check) :
    Satisfied (k :: ks) ↔ k.demand.IsMet ∧ Satisfied ks :=
  List.forall_mem_cons

theorem satisfied_singleton (k : Check) : Satisfied [k] ↔ k.demand.IsMet :=
  List.forall_mem_singleton

/-- Two lists of checks are satisfied together if each of them is. -/
theorem satisfied_append (ks ls : List Check) :
    Satisfied (ks ++ ls) ↔ Satisfied ks ∧ Satisfied ls :=
  List.forall_mem_append

/-- Frames around checks change nothing of what the checks ask for. -/
theorem satisfied_map_under (frame : Frame) (ks : List Check) :
    Satisfied (ks.map (under frame)) ↔ Satisfied ks :=
  List.forall_mem_map

theorem satisfied_flatMap {α : Type} (items : List α) (checks : α → List Check) :
    Satisfied (items.flatMap checks) ↔ ∀ item ∈ items, Satisfied (checks item) := by
  simp only [Satisfied, List.mem_flatMap, forall_exists_index, and_imp]
  exact ⟨fun h item hItem k hk => h k item hItem hk, fun h k item hItem hk => h item hItem k hk⟩

/-- Why a check is not met after some others, where names have values to begin with. -/
def refusalFrom? (b : Bindings) (earlier : List Check) (k : Check) : Option Rejection :=
  k.demand.refusal? (b.keepAll (assignments earlier)).get?

/-- Each check is met after those before it, where names have values to begin with. -/
def AllMetFrom (b : Bindings) (checks : List Check) : Prop :=
  EachAfter (fun earlier k => k.refusalFrom? b earlier = none) checks

/-- One more check is met if those before it are and it is not refused after them. -/
theorem AllMetFrom.concat_iff {b : Bindings} {ks : List Check} {k : Check} :
    AllMetFrom b (ks ++ [k]) ↔ AllMetFrom b ks ∧ k.refusalFrom? b ks = none :=
  EachAfter.concat_iff

theorem refusalFrom?_empty (earlier : List Check) (k : Check) :
    k.refusalFrom? .empty earlier = k.refusalAfter? earlier :=
  congrArg (Demand.refusal? · k.demand) (funext (Bindings.get?_ofAssignments _))

/-- Where no name is bound to begin with, checks are met as they are by themselves. -/
theorem allMetFrom_empty_iff {ks : List Check} : AllMetFrom .empty ks ↔ AllMet ks := by
  simp only [AllMetFrom, AllMet, refusalFrom?_empty]

/-- All checks are met where the subject is as it is asked to be and the names can be given their
values. -/
theorem allMetFrom_iff (b : Bindings) (ks : List Check) :
    AllMetFrom b ks ↔ Satisfied ks ∧ ConsistentFrom b (assignments ks) := by
  induction ks using List.reverseRecOn with
  | nil => simp [AllMetFrom, ConsistentFrom, EachAfter.nil, assignments, Satisfied]
  | append_singleton ks k ih =>
      rw [AllMetFrom.concat_iff, ih, satisfied_append, assignments_append, assignments_singleton]
      obtain ⟨path, demand⟩ := k
      cases demand with
      | holds met rejection =>
          cases met <;> simp [refusalFrom?, Demand.refusal?, Satisfied, Demand.IsMet,
            Demand.assignments]
      | assigns name value =>
          rw [Demand.assignments, ConsistentFrom.concat_iff, and_assoc]
          cases hFirst : (b.keepAll (assignments ks)).get? name <;>
            simp [refusalFrom?, Demand.refusal?, Satisfied, Demand.IsMet, hFirst]

/-- Checks are all met if the subject is as it is asked to be and no name is given two values. -/
theorem allMet_iff (ks : List Check) :
    AllMet ks ↔ Satisfied ks ∧ Consistent (assignments ks) := by
  rw [← allMetFrom_empty_iff, allMetFrom_iff, consistentFrom_empty_iff]

/-- The checks that are all met are made, and their assignments are added to the bindings. -/
theorem performAll_of_allMet {ks : List Check} {c : Context} (h : AllMetFrom c.bindings ks) :
    performAll ks c = (.ok (), { c with bindings := c.bindings.keepAll (assignments ks) }) := by
  induction ks using List.reverseRecOn with
  | nil => rfl
  | append_singleton ks k ih =>
      obtain ⟨hMet, hLast⟩ := AllMetFrom.concat_iff.1 h
      rw [performAll_append, Matching.bind_apply, ih hMet]
      have hMade := performAll_cons_of_met (k := k)
        (c := { c with bindings := c.bindings.keepAll (assignments ks) }) hLast []
      rw [assignments_append, assignments_singleton, Bindings.keepAll_append]
      exact hMade

/-- A check that is refused after some that are met ends the making of checks with its refusal. -/
theorem performAll_of_refused {before after : List Check} {k : Check} {rejection : Rejection}
    {c : Context} (hBefore : AllMetFrom c.bindings before)
    (hRefused : k.refusalFrom? c.bindings before = some rejection) :
    (performAll (before ++ k :: after) c).1 = .error ⟨rejection, c.trace ++ k.path, none⟩ := by
  rw [performAll_append, Matching.bind_apply, performAll_of_allMet hBefore]
  exact congrArg Prod.fst (performAll_cons_of_refused (k := k)
    (c := { c with bindings := c.bindings.keepAll (assignments before) }) hRefused after)

/-- Checks are all met, or there is a first that is not. -/
theorem allMetFrom_or_first_refused (b : Bindings) (ks : List Check) :
    AllMetFrom b ks ∨ ∃ before k after rejection, ks = before ++ k :: after ∧
      AllMetFrom b before ∧ k.refusalFrom? b before = some rejection := by
  induction ks using List.reverseRecOn with
  | nil => exact .inl .nil
  | append_singleton ks k ih =>
      rcases ih with hMet | ⟨before, first, after, rejection, rfl, hBefore, hRefused⟩
      · cases hLast : k.refusalFrom? b ks with
        | none => exact .inl (AllMetFrom.concat_iff.2 ⟨hMet, hLast⟩)
        | some rejection => exact .inr ⟨ks, k, [], rejection, rfl, hMet, hLast⟩
      · exact .inr ⟨before, first, after ++ [k], rejection, by simp, hBefore, hRefused⟩

/-- By themselves checks are all met, or there is a first that is refused. -/
theorem allMet_or_first_refused (ks : List Check) :
    AllMet ks ∨ ∃ before k after rejection, ks = before ++ k :: after ∧ AllMet before ∧
      k.refusalAfter? before = some rejection := by
  simpa only [allMetFrom_empty_iff, refusalFrom?_empty] using allMetFrom_or_first_refused .empty ks

/-- Making checks succeeds exactly where all of them are met. -/
theorem performAll_eq_ok_iff {ks : List Check} {c c' : Context} :
    performAll ks c = (.ok (), c') ↔ AllMetFrom c.bindings ks ∧
      c' = { c with bindings := c.bindings.keepAll (assignments ks) } := by
  constructor
  · intro hEnd
    rcases allMetFrom_or_first_refused c.bindings ks with
      hMet | ⟨before, k, after, rejection, rfl, hBefore, hRefused⟩
    · rw [performAll_of_allMet hMet] at hEnd
      exact ⟨hMet, (Prod.mk.inj hEnd).2.symm⟩
    · have hFailed : (performAll (before ++ k :: after) c).1 = _ :=
        performAll_of_refused hBefore hRefused
      rw [hEnd] at hFailed
      nomatch hFailed
  · rintro ⟨hMet, rfl⟩
    exact performAll_of_allMet hMet

end Check

namespace Pattern

variable {p : Pattern} {subject : Value}

/-- A pattern all of whose checks are met matches, with the bindings that they assign. -/
theorem test_of_allMet (h : Check.AllMet (p.checks subject)) :
    p.test subject = .ok (.ofAssignments (Check.assignments (p.checks subject))) := by
  have hMet : Check.AllMetFrom (Context.start subject p).bindings (p.checks subject) :=
    Check.allMetFrom_empty_iff.2 h
  rw [test, p.makes_checks subject (.start subject p) rfl, Check.performAll_of_allMet hMet]
  rfl

/-- A pattern one of whose checks is refused after others that are met fails with that refusal, at
the end of the frames that lead to the check. -/
theorem test_of_refused {before after : List Check} {k : Check} {rejection : Rejection}
    (hChecks : p.checks subject = before ++ k :: after) (hBefore : Check.AllMet before)
    (hRefused : k.refusalAfter? before = some rejection) :
    p.test subject = .error ⟨rejection, ⟨subject, some p⟩ :: k.path, none⟩ := by
  have hRun : (p.run (.start subject p)).1 =
      .error ⟨rejection, ⟨subject, some p⟩ :: k.path, none⟩ := by
    rw [p.makes_checks subject (.start subject p) rfl, hChecks]
    exact Check.performAll_of_refused (Check.allMetFrom_empty_iff.2 hBefore)
      ((Check.refusalFrom?_empty before k).trans hRefused)
  rw [test]
  rcases hEnd : p.run (.start subject p) with ⟨_ | _, c⟩ <;> simp_all

/-- A match by itself succeeds exactly where all checks are met, with the bindings that their
assignments come to. -/
theorem test_eq_ok_iff {b : Bindings} :
    p.test subject = .ok b ↔ Check.AllMet (p.checks subject) ∧
      b = .ofAssignments (Check.assignments (p.checks subject)) := by
  constructor
  · intro hTest
    rcases Check.allMet_or_first_refused (p.checks subject) with
      hMet | ⟨before, k, after, rejection, hChecks, hBefore, hRefused⟩
    · rw [test_of_allMet hMet, Except.ok.injEq] at hTest
      exact ⟨hMet, hTest.symm⟩
    · rw [test_of_refused hChecks hBefore hRefused] at hTest
      nomatch hTest
  · rintro ⟨hMet, rfl⟩
    exact test_of_allMet hMet

end Pattern

end CaseMatch
