import CaseMatch.Matching.Context
import Mathlib.Data.List.Basic

/-!
Bindings as a record of which value each name was given first. An assignment that a name has had
before changes nothing, so that the record of a list of assignments is found by looking for the
first with the name.
-/

namespace CaseMatch

/-- Each item of a list is in some relation to the items before it. -/
def EachAfter {α : Type} (relation : List α → α → Prop) (items : List α) : Prop :=
  ∀ earlier item later, items = earlier ++ item :: later → relation earlier item

namespace EachAfter

variable {α : Type} {relation : List α → α → Prop}

theorem nil : EachAfter relation [] := by
  intro earlier item later h
  simp at h

/-- A relation holds of a longer list if it holds of the list and of what is added after it. -/
theorem concat_iff {items : List α} {last : α} :
    EachAfter relation (items ++ [last]) ↔ EachAfter relation items ∧ relation items last := by
  constructor
  · intro h
    refine ⟨?_, h items last [] rfl⟩
    intro earlier item later hItems
    refine h earlier item (later ++ [last]) ?_
    rw [hItems, List.append_assoc, List.cons_append]
  · rintro ⟨hItems, hLast⟩ earlier item later h
    rcases List.eq_nil_or_concat later with rfl | ⟨front, back, rfl⟩
    · obtain ⟨rfl, hSame⟩ := List.append_inj' h rfl
      rw [List.singleton_inj] at hSame
      exact hSame ▸ hLast
    · refine hItems earlier item front ?_
      rw [List.concat_eq_append, ← List.cons_append, ← List.append_assoc] at h
      exact (List.append_inj' h rfl).1

end EachAfter

/-- A name with a value that it is given. -/
abbrev Assignment := String × Value

/-- The first value that a list of assignments gives to a name, in letters of any case. -/
def firstValue? (assignments : List Assignment) (name : String) : Option Value :=
  (assignments.find? fun a => lowercase a.1 == lowercase name).map (·.2)

/-- The first value in two lists is that of the first list, if it has one. -/
theorem firstValue?_append (first second : List Assignment) (name : String) :
    firstValue? (first ++ second) name =
      (firstValue? first name).or (firstValue? second name) := by
  simp only [firstValue?, List.find?_append]
  cases first.find? (fun a => lowercase a.1 == lowercase name) <;> simp

/-- Each assignment to a name that was given a value before gives it an equal one: the first value
of a name equals all later ones. -/
def Consistent (assignments : List Assignment) : Prop :=
  EachAfter (fun earlier a => ∀ first, firstValue? earlier a.1 = some first →
    first.eq a.2 = true) assignments

namespace Bindings

/-- A name without a value is given one. A name that has a value keeps it. -/
def keep (b : Bindings) (name : String) (value : Value) : Bindings :=
  match b.get? name with
  | some _ => b
  | none => b.insert name value

/-- All assignments of a list are made, one after another. -/
def keepAll (b : Bindings) (assignments : List Assignment) : Bindings :=
  assignments.foldl (fun b a => b.keep a.1 a.2) b

/-- The bindings that a list of assignments comes to. -/
def ofAssignments (assignments : List Assignment) : Bindings := empty.keepAll assignments

/-- Taking out one name leaves the values of the others. -/
theorem lookup_filter_of_ne {entries : List Assignment} {name other : String} (h : other ≠ name) :
    (entries.filter fun entry => entry.1 != name).lookup other = entries.lookup other := by
  induction entries with
  | nil => rfl
  | cons entry rest ih =>
      obtain ⟨key, value⟩ := entry
      by_cases hKey : key = name
      · subst hKey
        simp [List.lookup_cons, beq_eq_false_iff_ne.2 h, ih]
      · simp [List.lookup_cons, hKey, ih]

/-- A name that is bound has its new value, and the other names have theirs. -/
theorem get?_insert (b : Bindings) (name other : String) (value : Value) :
    (b.insert name value).get? other =
      if lowercase other = lowercase name then some value else b.get? other := by
  by_cases h : lowercase other = lowercase name
  · simp [get?, insert, h]
  · simp [get?, insert, List.lookup_cons, beq_eq_false_iff_ne.2 h, h, lookup_filter_of_ne h]

/-- A value that is kept is that of its name, if the name had none. -/
theorem get?_keep (b : Bindings) (name other : String) (value : Value) :
    (b.keep name value).get? other = (b.get? other).or (firstValue? [(name, value)] other) := by
  by_cases h : lowercase other = lowercase name
  · have hSame : b.get? name = b.get? other := by simp [get?, h]
    cases hBound : b.get? other with
    | some bound => simp [keep, hSame, hBound]
    | none => simp [keep, hSame, hBound, get?_insert, firstValue?, h]
  · cases hBound : b.get? name <;>
      simp [keep, hBound, get?_insert, firstValue?, h, Ne.symm h]

/-- Names keep the values that they have, and the others get the first value of a list. -/
theorem get?_keepAll (b : Bindings) (assignments : List Assignment) (name : String) :
    (b.keepAll assignments).get? name = (b.get? name).or (firstValue? assignments name) := by
  induction assignments generalizing b with
  | nil => simp [keepAll, firstValue?]
  | cons a rest ih =>
      calc (b.keepAll (a :: rest)).get? name
          = ((b.keep a.1 a.2).get? name).or (firstValue? rest name) := ih (b.keep a.1 a.2)
        _ = (b.get? name).or ((firstValue? [a] name).or (firstValue? rest name)) := by
            rw [get?_keep, Option.or_assoc]
        _ = (b.get? name).or (firstValue? (a :: rest) name) := by
            rw [← firstValue?_append]
            rfl

theorem keepAll_append (b : Bindings) (first second : List Assignment) :
    b.keepAll (first ++ second) = (b.keepAll first).keepAll second :=
  List.foldl_append

/-- A name is bound to the first value that is assigned to it. -/
theorem get?_ofAssignments (assignments : List Assignment) (name : String) :
    (ofAssignments assignments).get? name = firstValue? assignments name := by
  rw [ofAssignments, get?_keepAll]
  rfl

end Bindings

/-- Where names have values to begin with, each assignment is to a name without a value or gives
one that the value of the name equals. -/
def ConsistentFrom (b : Bindings) (assignments : List Assignment) : Prop :=
  EachAfter (fun earlier a => ∀ first, (b.keepAll earlier).get? a.1 = some first →
    first.eq a.2 = true) assignments

/-- One more assignment can be made if those before it can, and its value equals the one that the
name has by then. -/
theorem ConsistentFrom.concat_iff {b : Bindings} {assignments : List Assignment} {name : String}
    {value : Value} :
    ConsistentFrom b (assignments ++ [(name, value)]) ↔ ConsistentFrom b assignments ∧
      ∀ first, (b.keepAll assignments).get? name = some first → first.eq value = true :=
  EachAfter.concat_iff

theorem consistentFrom_empty_iff {assignments : List Assignment} :
    ConsistentFrom .empty assignments ↔ Consistent assignments := by
  have hGet (earlier name) : (Bindings.empty.keepAll earlier).get? name =
      firstValue? earlier name := Bindings.get?_ofAssignments earlier name
  simp only [ConsistentFrom, Consistent, hGet]

/-- One more assignment is consistent with those before it if its value equals the first of its
name. -/
theorem Consistent.concat_iff {assignments : List Assignment} {name : String} {value : Value} :
    Consistent (assignments ++ [(name, value)]) ↔ Consistent assignments ∧
      ∀ first, (Bindings.ofAssignments assignments).get? name = some first →
        first.eq value = true := by
  rw [← consistentFrom_empty_iff, ConsistentFrom.concat_iff, consistentFrom_empty_iff]
  rfl

end CaseMatch
