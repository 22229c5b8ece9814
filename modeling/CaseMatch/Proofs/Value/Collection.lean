import CaseMatch.Proofs.Value.Equality
import Mathlib.Data.List.Induction

/-!
The map that comes of pairs, told without insertions: which entries pairs come to, one pair after
another. Pairs with different keys come to themselves.
-/

namespace CaseMatch

/-- The map that comes of pairs in order. A key that is new goes behind all others. A key that was
there before keeps its place, and takes the later value. -/
inductive Collects : List (Value × Value) → Dict → Prop where
  | nil : Collects [] []
  | fresh {pairs : List (Value × Value)} {d : Dict} {key value : Value} (prior : Collects pairs d)
      (absent : ∀ e ∈ d, key.sameKey e.1 = false) :
      Collects (pairs ++ [(key, value)]) (d ++ [(key, value)])
  | again {pairs : List (Value × Value)} {before after : Dict} {key value stored old : Value}
      (prior : Collects pairs (before ++ (stored, old) :: after))
      (same : key.sameKey stored = true) (first : ∀ e ∈ before, key.sameKey e.1 = false) :
      Collects (pairs ++ [(key, value)]) (before ++ (stored, value) :: after)

/-- A map that is given a value is collected of one more pair. -/
theorem Collects.insert {pairs : List (Value × Value)} {d : Dict} (h : Collects pairs d)
    (key value : Value) : Collects (pairs ++ [(key, value)]) (Dict.insert d key value).2 := by
  rcases Dict.insert_cases d key value with
    ⟨before, stored, old, after, rfl, hInsert, hSame, hBefore⟩ | ⟨hInsert, hNew⟩
  · rw [hInsert]
    exact .again h hSame hBefore
  · rw [hInsert]
    exact .fresh h hNew

/-- A key that no entry is under goes behind all others. -/
theorem Dict.insert_of_absent {d : Dict} {key : Value} (h : ∀ e ∈ d, key.sameKey e.1 = false)
    (value : Value) : d.insert key value = (none, d ++ [(key, value)]) := by
  rw [insert, replace?_eq_none_iff.2 h]

/-- A key that an entry is under gives the first such entry its value, and that entry keeps its own
key. -/
theorem Dict.insert_of_first {before after : Dict} {key stored : Value}
    (hSame : key.sameKey stored = true) (h : ∀ e ∈ before, key.sameKey e.1 = false)
    (old value : Value) :
    Dict.insert (before ++ (stored, old) :: after) key value =
      (some old, before ++ (stored, value) :: after) := by
  have hReplace : Dict.replace? (before ++ (stored, old) :: after) key value =
      some (old, before ++ (stored, value) :: after) := by
    induction before with
    | nil => simp [replace?, hSame]
    | cons e before ih =>
        rw [List.forall_mem_cons] at h
        rw [List.cons_append, replace?, ih h.2]
        simp [h.1]
  rw [insert, hReplace]

/-- The map that pairs come to is the one that inserting them gives. -/
theorem collects_iff {pairs : List (Value × Value)} {d : Dict} :
    Collects pairs d ↔ d = Dict.ofList pairs := by
  have hConcat (pairs : List (Value × Value)) (key value : Value) :
      Dict.ofList (pairs ++ [(key, value)]) = (Dict.insert (Dict.ofList pairs) key value).2 := by
    simp [Dict.ofList, Dict.insertAll]
  constructor
  · intro h
    induction h with
    | nil => rfl
    | @fresh pairs d key value _ absent ih =>
        rw [hConcat, ← ih, Dict.insert_of_absent absent]
    | @again pairs before after key value stored old _ same first ih =>
        rw [hConcat, ← ih, Dict.insert_of_first same first]
  · rintro rfl
    induction pairs using List.reverseRecOn with
    | nil => exact .nil
    | append_singleton pairs p ih =>
        rw [hConcat]
        exact ih.insert p.1 p.2

/-- Pairs without a repeated key come to the map that has them as its entries. -/
theorem Dict.Distinct.ofList_eq {pairs : List (Value × Value)} (h : Dict.Distinct pairs)
    (hKeys : ∀ e ∈ pairs, e.1.Built) : Dict.ofList pairs = pairs := by
  rw [eq_comm, ← collects_iff]
  induction pairs using List.reverseRecOn with
  | nil => exact .nil
  | append_singleton pairs e ih =>
      rw [List.forall_mem_append, List.forall_mem_singleton] at hKeys
      obtain ⟨hPairs, -, hDiffer⟩ := List.pairwise_append.1 h
      refine .fresh (ih hPairs hKeys.1) fun f hf => ?_
      by_contra hSame
      have hForth : e.1.sameKey f.1 = true := by simpa using hSame
      have hBack := Value.sameKey_partialEquivalence.symm hKeys.2 (hKeys.1 f hf) hForth
      exact hDiffer f hf e (by simp) ⟨hBack, hForth⟩

end CaseMatch
