import CaseMatch.Value.Basic
import Mathlib.Data.List.Pairwise

/-!
The values that a program can build. A map comes into being empty and grows by insertions alone,
so that no two of its entries have the same key. The type of values does not say this: a list of
entries may repeat a key. Everything that follows about equality and look-up rests on it.
-/

namespace CaseMatch

namespace Value

/-- Induction over a value with its parts, keys of maps included. -/
@[elab_as_elim, induction_eliminator]
theorem induction {motive : Value → Prop}
    (nil : motive .nil) (boolean : ∀ b, motive (.boolean b)) (integer : ∀ n, motive (.integer n))
    (float : ∀ x, motive (.float x)) (string : ∀ text, motive (.string text))
    (symbol : ∀ name, motive (.symbol name))
    (array : ∀ items, (∀ item ∈ items, motive item) → motive (.array items))
    (map : ∀ entries, (∀ e ∈ entries, motive e.1 ∧ motive e.2) → motive (.map entries))
    (object : ∀ ref, motive (.object ref)) : ∀ v, motive v := fun v =>
  @Value.rec motive (fun items => ∀ item ∈ items, motive item)
    (fun entries => ∀ e ∈ entries, motive e.1 ∧ motive e.2)
    (fun e => motive e.1 ∧ motive e.2)
    nil boolean integer float string symbol array map object
    (fun _ h => nomatch h)
    (fun _ _ hHead hTail => List.forall_mem_cons.2 ⟨hHead, hTail⟩)
    (fun _ h => nomatch h)
    (fun _ _ hHead hTail => List.forall_mem_cons.2 ⟨hHead, hTail⟩)
    (fun _ _ hKey hValue => ⟨hKey, hValue⟩)
    v

/-- The values that come of the constructors, of empty maps and of insertions into maps. -/
inductive Built : Value → Prop where
  | nil : Built .nil
  | boolean (b : Bool) : Built (.boolean b)
  | integer (n : Int64) : Built (.integer n)
  | float (x : Binary64) : Built (.float x)
  | string (text : String) : Built (.string text)
  | symbol (name : String) : Built (.symbol name)
  | object (ref : ObjectRef) : Built (.object ref)
  | array {items : List Value} (parts : ∀ item ∈ items, Built item) : Built (.array items)
  | emptyMap : Built (.map [])
  | insert {entries : Dict} {key value : Value} (prior : Built (.map entries))
      (ofKey : Built key) (ofValue : Built value) :
      Built (.map (Dict.insert entries key value).2)

end Value

namespace Dict

/-- The keys of two entries are not the same as each other. -/
def KeysDiffer (e f : Value × Value) : Prop :=
  ¬(e.1.sameKey f.1 = true ∧ f.1.sameKey e.1 = true)

instance : Std.Symm KeysDiffer := ⟨fun _ _ h hSame => h hSame.symm⟩

/-- No two entries at different places have the same key. -/
def Distinct (d : Dict) : Prop := d.Pairwise KeysDiffer

/-- What a replacement does where it succeeds: one entry under the same key takes the value, and
no entry before that one is under the key. -/
theorem replace?_eq_some {d d' : Dict} {key value old : Value}
    (h : d.replace? key value = some (old, d')) :
    ∃ before stored after, d = before ++ (stored, old) :: after ∧
      d' = before ++ (stored, value) :: after ∧ key.sameKey stored = true ∧
      ∀ e ∈ before, key.sameKey e.1 = false := by
  induction d generalizing d' with
  | nil => simp [replace?] at h
  | cons e rest ih =>
      obtain ⟨stored, held⟩ := e
      cases hKey : key.sameKey stored with
      | true =>
          simp only [replace?, hKey, if_true, Option.some.injEq, Prod.mk.injEq] at h
          obtain ⟨rfl, rfl⟩ := h
          exact ⟨[], stored, rest, rfl, rfl, hKey, by simp⟩
      | false =>
          simp only [replace?, hKey, Bool.false_eq_true, if_false, Option.map_eq_some_iff,
            Prod.mk.injEq, Prod.exists] at h
          obtain ⟨_, rest', hRest, rfl, rfl⟩ := h
          obtain ⟨before, stored', after, rfl, rfl, hSame, hBefore⟩ := ih hRest
          exact ⟨(stored, held) :: before, stored', after, rfl, rfl, hSame,
            List.forall_mem_cons.2 ⟨hKey, hBefore⟩⟩

/-- A replacement fails exactly where no entry is under the key. -/
theorem replace?_eq_none_iff {d : Dict} {key value : Value} :
    d.replace? key value = none ↔ ∀ e ∈ d, key.sameKey e.1 = false := by
  induction d with
  | nil => simp [replace?]
  | cons e rest ih =>
      cases hKey : key.sameKey e.1 <;> simp [replace?, hKey, ih]

/-- An insertion either gives the entry under the same key a new value in its place, or puts a
new entry behind all others. -/
theorem insert_cases (d : Dict) (key value : Value) :
    (∃ before stored old after, d = before ++ (stored, old) :: after ∧
      d.insert key value = (some old, before ++ (stored, value) :: after) ∧
      key.sameKey stored = true ∧ ∀ e ∈ before, key.sameKey e.1 = false) ∨
    (d.insert key value = (none, d ++ [(key, value)]) ∧ ∀ e ∈ d, key.sameKey e.1 = false) := by
  cases hReplace : d.replace? key value with
  | none =>
      refine Or.inr ⟨?_, replace?_eq_none_iff.1 hReplace⟩
      simp [insert, hReplace]
  | some found =>
      obtain ⟨old, d'⟩ := found
      obtain ⟨before, stored, after, hd, hd', hSame, hBefore⟩ := replace?_eq_some hReplace
      refine Or.inl ⟨before, stored, old, after, hd, ?_, hSame, hBefore⟩
      simp [insert, hReplace, hd']

/-- An insertion keeps the keys of a map apart. -/
theorem Distinct.insert {d : Dict} (hDistinct : d.Distinct) (key value : Value) :
    (d.insert key value).2.Distinct := by
  rcases d.insert_cases key value with
    ⟨before, stored, old, after, rfl, hInsert, -⟩ | ⟨hInsert, hNew⟩
  · rw [hInsert]
    -- only a value has changed, and values do not count for being distinct
    simpa [Distinct, KeysDiffer, List.pairwise_append] using hDistinct
  · rw [hInsert]
    refine List.pairwise_append.2 ⟨hDistinct, by simp, ?_⟩
    intro e he f hf
    rw [List.mem_singleton.1 hf]
    simp [KeysDiffer, hNew e he]

/-- Two entries under the same key are one entry. -/
theorem Distinct.eq_of_sameKey {d : Dict} (hDistinct : d.Distinct) {e f : Value × Value}
    (he : e ∈ d) (hf : f ∈ d) (hef : e.1.sameKey f.1 = true) (hfe : f.1.sameKey e.1 = true) :
    e = f := by
  by_contra hne
  exact List.Pairwise.forall hDistinct he hf hne ⟨hef, hfe⟩

end Dict

namespace Value.Built

theorem items {items : List Value} (h : Built (.array items)) : ∀ item ∈ items, Built item := by
  cases h with
  | array parts => exact parts

/-- The invariant of maps that insertions have built. -/
theorem map_invariant {d : Dict} (h : Built (.map d)) :
    (∀ e ∈ d, Built e.1 ∧ Built e.2) ∧ d.Distinct := by
  generalize hv : Value.map d = v at h
  induction h generalizing d with
  | emptyMap =>
      cases hv
      exact ⟨by simp, List.Pairwise.nil⟩
  | @insert entries key value _ ofKey ofValue ih _ _ =>
      cases hv
      obtain ⟨hParts, hDistinct⟩ := ih rfl
      refine ⟨?_, hDistinct.insert key value⟩
      rcases Dict.insert_cases entries key value with
        ⟨before, stored, old, after, rfl, hInsert, -⟩ | ⟨hInsert, -⟩
      · rw [hInsert]
        simp only [List.forall_mem_append, List.forall_mem_cons] at hParts ⊢
        exact ⟨hParts.1, ⟨hParts.2.1.1, ofValue⟩, hParts.2.2⟩
      · rw [hInsert]
        simp only [List.forall_mem_append, List.forall_mem_cons]
        exact ⟨hParts, ⟨ofKey, ofValue⟩, by simp⟩
  | _ => cases hv

/-- The keys and values of a built map are built. -/
theorem parts {d : Dict} (h : Built (.map d)) : ∀ e ∈ d, Built e.1 ∧ Built e.2 :=
  h.map_invariant.1

theorem distinct {d : Dict} (h : Built (.map d)) : d.Distinct := h.map_invariant.2

/-- Inserting pairs of built values one after another keeps a map built. -/
theorem insertAll {d : Dict} (h : Built (.map d)) {pairs : List (Value × Value)}
    (hPairs : ∀ p ∈ pairs, Built p.1 ∧ Built p.2) : Built (.map (Dict.insertAll d pairs)) := by
  induction pairs generalizing d with
  | nil => exact h
  | cons p rest ih =>
      obtain ⟨⟨hKey, hValue⟩, hRest⟩ := List.forall_mem_cons.1 hPairs
      exact ih (h.insert hKey hValue) hRest

/-- The map that pairs of built values come to is built. -/
theorem ofList {pairs : List (Value × Value)} (hPairs : ∀ p ∈ pairs, Built p.1 ∧ Built p.2) :
    Built (.map (Dict.ofList pairs)) :=
  emptyMap.insertAll hPairs

end Value.Built

end CaseMatch
