import CaseMatch.Proofs.Matching.Composition
import Mathlib.Data.List.Nodup

/-!
Assignments that agree with each other, whatever their order. A list of assignments can be made one
after another exactly if any two of them to one name have equal values. The order then decides no
more than which of several equal values is the one that a name is bound to, and leaving assignments
out does no harm. All of this rests on equality being symmetric and transitive among built values.
-/

namespace CaseMatch

/-- Two assignments give one name equal values, or they are to different names. -/
def Agree (a b : Assignment) : Prop :=
  lowercase a.1 = lowercase b.1 → a.2.eq b.2 = true ∧ b.2.eq a.2 = true

theorem Agree.symm {a b : Assignment} (h : Agree a b) : Agree b a :=
  fun hName => (h hName.symm).symm

instance : Std.Symm Agree := ⟨fun _ _ => Agree.symm⟩

/-- Two values are one and the same, or equal. A value need not equal itself. -/
def Value.Same (v w : Value) : Prop := v = w ∨ v.eq w = true

/-! ### First values -/

/-- The first value of a name is that of an assignment to the name. -/
theorem exists_of_firstValue? {assignments : List Assignment} {name : String} {first : Value}
    (h : firstValue? assignments name = some first) :
    ∃ a ∈ assignments, lowercase a.1 = lowercase name ∧ a.2 = first := by
  rw [firstValue?, Option.map_eq_some_iff] at h
  obtain ⟨a, hFind, hValue⟩ := h
  have hName := List.find?_some hFind
  exact ⟨a, List.mem_of_find?_eq_some hFind, by simpa using hName, hValue⟩

/-- A name has a first value exactly if something is assigned to it. -/
theorem firstValue?_isSome_iff {assignments : List Assignment} {name : String} :
    (firstValue? assignments name).isSome = true ↔
      ∃ a ∈ assignments, lowercase a.1 = lowercase name := by
  simp [firstValue?]

/-- The first value of a name is the value of each assignment to it, or equals that value. -/
theorem same_firstValue? {assignments : List Assignment} (h : assignments.Pairwise Agree)
    {a : Assignment} (ha : a ∈ assignments) {name : String} (hName : lowercase a.1 = lowercase name)
    {first : Value} (hFirst : firstValue? assignments name = some first) : first.Same a.2 := by
  obtain ⟨b, hb, hBound, rfl⟩ := exists_of_firstValue? hFirst
  by_cases hSame : b = a
  · exact .inl (congrArg Prod.snd hSame)
  · exact .inr (h.forall hb ha hSame (hBound.trans hName.symm)).1

/-- A value that the first value of a name equals agrees with all assignments to the name. -/
theorem agree_all_iff {assignments : List Assignment} (h : assignments.Pairwise Agree)
    (hValues : ∀ a ∈ assignments, a.2.Built) {name : String} {value : Value}
    (hValue : value.Built) :
    (∀ first, firstValue? assignments name = some first → first.eq value = true) ↔
      ∀ a ∈ assignments, Agree a (name, value) := by
  constructor
  · intro hFirst a ha hName
    obtain ⟨first, hSome⟩ := Option.isSome_iff_exists.1 (firstValue?_isSome_iff.2 ⟨a, ha, hName⟩)
    have hEq : a.2.eq value = true := by
      rcases same_firstValue? h ha hName hSome with rfl | hSame
      · exact hFirst _ hSome
      · obtain ⟨b, hb, -, rfl⟩ := exists_of_firstValue? hSome
        have hBack := Value.eq_partialEquivalence.symm (hValues b hb) (hValues a ha) hSame
        exact Value.eq_partialEquivalence.trans (hValues a ha) (hValues b hb) hValue hBack
          (hFirst _ hSome)
    exact ⟨hEq, Value.eq_partialEquivalence.symm (hValues a ha) hValue hEq⟩
  · intro hAgree first hSome
    obtain ⟨a, ha, hName, rfl⟩ := exists_of_firstValue? hSome
    exact (hAgree a ha hName).1

/-! ### Assignments that can be made -/

/-- Assignments can be made one after another exactly if any two of them agree. -/
theorem consistent_iff_pairwise {assignments : List Assignment}
    (hValues : ∀ a ∈ assignments, a.2.Built) :
    Consistent assignments ↔ assignments.Pairwise Agree := by
  induction assignments using List.reverseRecOn with
  | nil => simp [Consistent, EachAfter.nil]
  | append_singleton earlier a ih =>
      obtain ⟨name, value⟩ := a
      rw [List.forall_mem_append, List.forall_mem_singleton] at hValues
      simp only [Consistent.concat_iff, ih hValues.1, Bindings.get?_ofAssignments,
        List.pairwise_append, List.pairwise_singleton, List.mem_singleton, forall_eq, true_and]
      exact and_congr_right fun hEarlier => agree_all_iff hEarlier hValues.1 hValues.2

/-- What is left of some assignments can be made by itself. -/
theorem Consistent.sublist {assignments fewer : List Assignment}
    (hValues : ∀ a ∈ assignments, a.2.Built) (h : Consistent assignments)
    (hFewer : fewer.Sublist assignments) : Consistent fewer := by
  have hFewerValues : ∀ a ∈ fewer, a.2.Built := fun a ha => hValues a (hFewer.subset ha)
  rw [consistent_iff_pairwise hFewerValues]
  exact ((consistent_iff_pairwise hValues).1 h).sublist hFewer

/-! ### Names that are bound -/

namespace Bindings

/-- The names that have values, as they are recorded. -/
def names (b : Bindings) : List String := b.entries.map Prod.fst

/-- A name is bound exactly if its small letters are among the names of the record. -/
theorem get?_isSome_iff {b : Bindings} {name : String} :
    (b.get? name).isSome = true ↔ lowercase name ∈ b.names := by
  rw [← not_iff_not, Bool.not_eq_true, Option.isSome_eq_false_iff, Option.isNone_iff_eq_none, get?,
    List.lookup_eq_none_iff]
  simp only [bne_iff_ne, names, List.mem_map]
  grind

/-- Keeping a value adds its name, if the name is not there. -/
theorem names_keep (b : Bindings) (name : String) (value : Value) :
    (b.keep name value).names = b.names.insert (lowercase name) := by
  cases hBound : b.get? name with
  | some bound =>
      have hMem : lowercase name ∈ b.names := get?_isSome_iff.1 (by rw [hBound]; rfl)
      rw [keep_of_bound hBound, List.insert_of_mem hMem]
  | none =>
      have hNew : lowercase name ∉ b.names := by
        rw [← get?_isSome_iff, hBound]
        simp
      rw [keep_of_unbound hBound, List.insert_of_not_mem hNew]
      rfl

/-- No name is in a record twice. -/
theorem nodup_names_ofAssignments (assignments : List Assignment) :
    (ofAssignments assignments).names.Nodup := by
  induction assignments using List.reverseRecOn with
  | nil => exact List.nodup_nil
  | append_singleton earlier a ih =>
      rw [ofAssignments, keepAll_concat, names_keep]
      exact ih.insert

/-- The names that assignments come to are those that they are to, in small letters. -/
theorem mem_names_ofAssignments {assignments : List Assignment} {name : String} :
    name ∈ (ofAssignments assignments).names ↔ ∃ a ∈ assignments, lowercase a.1 = name := by
  induction assignments using List.reverseRecOn with
  | nil => simp [ofAssignments, keepAll, empty, names]
  | append_singleton earlier a ih =>
      rw [ofAssignments, keepAll_concat, names_keep, List.mem_insert_iff, ← ofAssignments, ih]
      simp [or_comm, eq_comm]

/-- Every value that is recorded is that of an assignment to its name. -/
theorem mem_entries_ofAssignments {assignments : List Assignment} {e : Assignment}
    (h : e ∈ (ofAssignments assignments).entries) :
    ∃ a ∈ assignments, e = (lowercase a.1, a.2) := by
  induction assignments using List.reverseRecOn with
  | nil => cases h
  | append_singleton earlier a ih =>
      have hEarlier (hOld : e ∈ (ofAssignments earlier).entries) :
          ∃ b ∈ earlier ++ [a], e = (lowercase b.1, b.2) := by
        obtain ⟨b, hb, hEntry⟩ := ih hOld
        exact ⟨b, List.mem_append_left _ hb, hEntry⟩
      rw [ofAssignments, keepAll_concat, ← ofAssignments] at h
      cases hBound : (ofAssignments earlier).get? a.1 with
      | some bound =>
          rw [keep_of_bound hBound] at h
          exact hEarlier h
      | none =>
          rw [keep_of_unbound hBound, List.mem_cons] at h
          exact h.elim (fun hNew => ⟨a, by simp, hNew⟩) hEarlier

/-- A value that is bound is in the record under its name. -/
theorem mem_entries_of_get? {b : Bindings} {name : String} {value : Value}
    (h : b.get? name = some value) : (lowercase name, value) ∈ b.entries := by
  obtain ⟨before, after, hEntries, -⟩ := List.lookup_eq_some_iff.1 h
  simp [hEntries]

/-- The names of a record that is joined to another come before those of the other. -/
theorem names_join (b other : Bindings) :
    (b.join other).names =
      other.names.filter (fun name => (b.entries.lookup name).isNone) ++ b.names := by
  simp [join, names, List.filter_map, Function.comp_def]

/-- Two records bind the same names, each to values that are one and the same, or equal. -/
structure Alike (b b' : Bindings) : Prop where
  names : b.names.Perm b'.names
  values : ∀ name, Option.Rel Value.Same (b.get? name) (b'.get? name)

/-- Assignments that agree with each other come to the same in any order. -/
theorem alike_ofAssignments_of_perm {assignments reordered : List Assignment}
    (hPerm : assignments.Perm reordered) (h : assignments.Pairwise Agree) :
    (ofAssignments assignments).Alike (ofAssignments reordered) := by
  constructor
  · rw [List.perm_ext_iff_of_nodup (nodup_names_ofAssignments _) (nodup_names_ofAssignments _)]
    intro name
    rw [mem_names_ofAssignments, mem_names_ofAssignments]
    exact exists_congr fun a => and_congr_left fun _ => hPerm.mem_iff
  · intro name
    rw [get?_ofAssignments, get?_ofAssignments]
    have hBoth : (firstValue? assignments name).isSome = (firstValue? reordered name).isSome := by
      rw [Bool.eq_iff_iff, firstValue?_isSome_iff, firstValue?_isSome_iff]
      exact exists_congr fun a => and_congr_left fun _ => hPerm.mem_iff
    cases hFirst : firstValue? assignments name with
    | none =>
        cases hOther : firstValue? reordered name with
        | none => exact .none
        | some other => simp [hFirst, hOther] at hBoth
    | some first =>
        cases hOther : firstValue? reordered name with
        | none => simp [hFirst, hOther] at hBoth
        | some other =>
            obtain ⟨a, ha, hName, rfl⟩ := exists_of_firstValue? hOther
            exact .some (same_firstValue? h (hPerm.mem_iff.2 ha) hName hFirst)

/-- Joining to bindings keeps records alike: names that were bound keep their one value. -/
theorem Alike.join {first second : Bindings} (h : first.Alike second) (b : Bindings) :
    (b.join first).Alike (b.join second) := by
  constructor
  · rw [names_join, names_join]
    exact (h.names.filter _).append_right b.names
  · intro name
    rw [get?_join, get?_join]
    cases b.get? name with
    | some bound => exact .some (.inl rfl)
    | none => exact h.values name

/-- Bindings that agree with a record agree with any that is like it. -/
theorem AgreesWith.of_alike {b first second : Bindings} (hb : b.Built)
    (hFirst : ∀ name value, first.get? name = some value → value.Built)
    (hSecond : ∀ name value, second.get? name = some value → value.Built)
    (h : b.AgreesWith first) (hAlike : first.Alike second) : b.AgreesWith second := by
  intro name bound value hBound hValue
  have hSame := hAlike.values name
  rw [hValue] at hSame
  cases hOld : first.get? name with
  | none =>
      rw [hOld] at hSame
      cases hSame
  | some old =>
      rw [hOld] at hSame
      have hEq := h name bound old hBound hOld
      cases hSame with
      | some hSame =>
          rcases hSame with rfl | hSame
          · exact hEq
          · exact Value.eq_partialEquivalence.trans (hb.of_get? hBound) (hFirst name old hOld)
              (hSecond name value hValue) hEq hSame

end Bindings

/-- Where names have values to begin with, whether assignments can be made does not depend on their
order. -/
theorem ConsistentFrom.perm {b : Bindings} (hb : b.Built) {assignments reordered : List Assignment}
    (hValues : ∀ a ∈ assignments, a.2.Built) (hPerm : assignments.Perm reordered)
    (h : ConsistentFrom b assignments) : ConsistentFrom b reordered := by
  have hReordered : ∀ a ∈ reordered, a.2.Built := fun a ha => hValues a (hPerm.mem_iff.2 ha)
  rw [consistentFrom_iff hb hValues, consistent_iff_pairwise hValues] at h
  rw [consistentFrom_iff hb hReordered, consistent_iff_pairwise hReordered]
  have hAlike := Bindings.alike_ofAssignments_of_perm hPerm h.1
  exact ⟨hPerm.pairwise h.1 Agree.symm, h.2.of_alike hb
    (fun _ _ => Bindings.built_ofAssignments hValues)
    (fun _ _ => Bindings.built_ofAssignments hReordered) hAlike⟩

end CaseMatch
