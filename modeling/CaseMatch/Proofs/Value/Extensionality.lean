import CaseMatch.Proofs.Value.Collection
import CaseMatch.Proofs.Value.Insertion

/-!
Maps as functions. The comparison of two maps counts their entries and looks each entry of the first
up in the second, but never the other way. Since a map has one entry for each of its keys this is
enough: maps that compare as the same have the same under every key, and maps that have the same
under every key compare as the same. The order in which keys came does not show.
-/

namespace CaseMatch

namespace Dict

open Value

variable {scalar : Value → Option Scalar} {related : Value → Value → Bool} {d d' : Dict}

/-- Under each key either map has nothing, or both have values that are related. -/
def SameUnderEachKey (related : Value → Value → Bool) (d d' : Dict) : Prop :=
  ∀ key : Value, key.Built →
    Option.Rel (fun v w => related v w = true) (d.get? key) (d'.get? key)

/-- No key holds anything that is not a number. -/
def KeysWithoutNaN (d : Dict) : Prop := ∀ e ∈ d, e.1.hasNaN = false

/-- What the first map has under a key is found again in a map that includes it. -/
theorem Included.exists_get? (hIncluded : d.Included related d') (hd : Built (.map d))
    (hd' : Built (.map d')) {key v : Value} (hKey : key.Built) (hGet : d.get? key = some v) :
    ∃ w, d'.get? key = some w ∧ related v w = true := by
  obtain ⟨stored, hMem, hSame⟩ := (get?_eq_some_iff hd hKey).1 hGet
  obtain ⟨f, hFind, hRelated⟩ := hIncluded _ hMem
  have hf := List.mem_of_find?_eq_some hFind
  have hKeys := sameKey_partialEquivalence.trans hKey (hd.parts _ hMem).1 (hd'.parts f hf).1 hSame
    (sameKey_of_find? hFind)
  exact ⟨f.2, (get?_eq_some_iff hd' hKey).2 ⟨f.1, hf, hKeys⟩, hRelated⟩

/-- A map that includes another of the same length has nothing under a key where that one has
nothing, since no entry of it is left out. -/
theorem Included.get?_eq_none (hIncluded : d.Included related d') (hLength : d.length = d'.length)
    (hd : Built (.map d)) (hd' : Built (.map d')) {key : Value} (hKey : key.Built)
    (hNone : d.get? key = none) : d'.get? key = none := by
  rw [get?_eq_none_iff] at hNone ⊢
  intro f hf
  obtain ⟨e, he, hSame, -⟩ := hIncluded.exists_of_mem hLength hd.distinct
    sameKey_partialEquivalence (fun e he => (hd.parts e he).1) (fun f hf => (hd'.parts f hf).1) f hf
  have hKeyE := hNone e he
  have he' := (hd.parts e he).1
  have hf' := (hd'.parts f hf).1
  by_contra hKeyF
  rw [Bool.not_eq_false] at hKeyF
  have hBack := sameKey_partialEquivalence.symm he' hf' hSame
  rw [sameKey_partialEquivalence.trans hKey hf' he' hKeyF hBack] at hKeyE
  cases hKeyE

/-- Each entry of the first map is found in the second if its key is equal to itself and both maps
have the same under each key. -/
theorem SameUnderEachKey.included (h : SameUnderEachKey related d d') (hd : Built (.map d))
    (hKeys : d.KeysWithoutNaN) : d.Included related d' := by
  intro e he
  have hKey := (hd.parts e he).1
  have hSelf : e.1.sameKey e.1 = true := (self_iff_hasNaN hKey).1.2 (hKeys e he)
  have hGet : d.get? e.1 = some e.2 := (get?_eq_some_iff hd hKey).2 ⟨e.1, he, hSelf⟩
  have hSame := h e.1 hKey
  rw [hGet] at hSame
  cases hFound : d'.get? e.1 with
  | none =>
      rw [hFound] at hSame
      cases hSame
  | some w =>
      rw [hFound] at hSame
      cases hSame with
      | some hRelated =>
          obtain ⟨f, hFind, rfl⟩ := Option.map_eq_some_iff.1 hFound
          exact ⟨f, hFind, hRelated⟩

/-- Where maps have the same under each key, each of them has a key wherever the other has it. -/
theorem SameUnderEachKey.keys (h : SameUnderEachKey related d d') :
    SameUnderEachKey (fun _ _ => true) d' d := by
  intro key hKey
  have hSame := h key hKey
  generalize d.get? key = v at hSame
  generalize d'.get? key = w at hSame
  cases hSame with
  | none => exact .none
  | some hRelated => exact .some rfl

/-- Maps compare as the same where they have the same under each key. -/
theorem related_map_iff_sameUnderEachKey (hCompares : Compares scalar related)
    (hd : Built (.map d)) (hd' : Built (.map d')) (hKeys : d.KeysWithoutNaN)
    (hKeys' : d'.KeysWithoutNaN) :
    related (.map d) (.map d') = true ↔ SameUnderEachKey related d d' := by
  rw [hCompares.map_iff]
  constructor
  · rintro ⟨hLength, hIncluded⟩ key hKey
    cases hGet : d.get? key with
    | none =>
        rw [hIncluded.get?_eq_none hLength hd hd' hKey hGet]
        exact .none
    | some v =>
        obtain ⟨w, hFound, hRelated⟩ := hIncluded.exists_get? hd hd' hKey hGet
        rw [hFound]
        exact .some hRelated
  · intro h
    have hIncluded := h.included hd hKeys
    have hBack := h.keys.included hd' hKeys'
    have hBuilt (e) (he : e ∈ d) : e.1.Built := (hd.parts e he).1
    have hBuilt' (f) (hf : f ∈ d') : f.1.Built := (hd'.parts f hf).1
    refine ⟨Nat.le_antisymm ?_ ?_, hIncluded⟩
    · exact hIncluded.length_le hd.distinct sameKey_partialEquivalence hBuilt hBuilt'
    · exact hBack.length_le hd'.distinct sameKey_partialEquivalence hBuilt' hBuilt

/-! ### The order of insertions -/

/-- Pairs with different keys are entries of a map in any order, and under each key that map has the
same. -/
theorem sameUnderEachKey_of_perm (hPerm : d.Perm d') (hd : Built (.map d)) (hd' : Built (.map d'))
    (hSelf : ∀ e ∈ d, related e.2 e.2 = true) : SameUnderEachKey related d d' := by
  intro key hKey
  cases hGet : d.get? key with
  | none =>
      have hNone : d'.get? key = none := by
        rw [get?_eq_none_iff] at hGet ⊢
        intro f hf
        exact hGet f (hPerm.mem_iff.2 hf)
      rw [hNone]
      exact .none
  | some v =>
      obtain ⟨stored, hMem, hSame⟩ := (get?_eq_some_iff hd hKey).1 hGet
      rw [(get?_eq_some_iff hd' hKey).2 ⟨stored, hPerm.mem_iff.1 hMem, hSame⟩]
      exact .some (hSelf _ hMem)

/-- No two pairs at different places have the same key. -/
def KeysApart (pairs : List (Value × Value)) : Prop :=
  pairs.Pairwise fun p q => p.1.sameKey q.1 = false

/-- Pairs whose keys are apart are entries of a map as they are. -/
theorem KeysApart.distinct {pairs : List (Value × Value)} (h : KeysApart pairs) :
    Distinct pairs := by
  apply List.Pairwise.imp _ h
  intro p q hApart hSame
  rw [hSame.1] at hApart
  cases hApart

/-- Neither the keys of pairs nor what stands under them holds anything that is not a number. -/
def PairsWithoutNaN (pairs : List (Value × Value)) : Prop :=
  ∀ p ∈ pairs, p.1.hasNaN = false ∧ p.2.hasNaN = false

/-- Pairs with different keys and no NaN come to maps that compare as the same in whatever order
they are inserted. -/
theorem related_ofList_of_perm (hCompares : Compares scalar related)
    (hNumbers : ∀ v : Value, v.Built → v.hasNaN = false → related v v = true)
    {pairs pairs' : List (Value × Value)} (hPerm : pairs.Perm pairs')
    (hPairs : ∀ p ∈ pairs, p.1.Built ∧ p.2.Built) (hApart : KeysApart pairs)
    (hAll : PairsWithoutNaN pairs) :
    related (.map (ofList pairs)) (.map (ofList pairs')) = true := by
  have hPairs' : ∀ p ∈ pairs', p.1.Built ∧ p.2.Built := fun p hp => hPairs p (hPerm.mem_iff.2 hp)
  have hDistinct' : Distinct pairs' := hPerm.pairwise hApart.distinct fun h hSame => h hSame.symm
  have hd := Built.ofList hPairs
  have hd' := Built.ofList hPairs'
  rw [hApart.distinct.ofList_eq fun p hp => (hPairs p hp).1] at hd ⊢
  rw [hDistinct'.ofList_eq fun p hp => (hPairs' p hp).1] at hd' ⊢
  apply (related_map_iff_sameUnderEachKey hCompares hd hd' ?_ ?_).2
  · apply sameUnderEachKey_of_perm hPerm hd hd'
    intro p hp
    exact hNumbers p.2 (hPairs p hp).2 (hAll p hp).2
  · exact fun p hp => (hAll p hp).1
  · exact fun p hp => (hAll p (hPerm.mem_iff.2 hp)).1

/-- Two maps with no NaN in their keys are equal exactly if under each key both have nothing, or
values that are equal. So pairs with different keys come to equal maps in whatever order they are
inserted, and these maps are the same as keys. -/
theorem eq_map_iff_sameUnderEachKey :
    (∀ d d' : Dict, Built (.map d) → Built (.map d') → d.KeysWithoutNaN → d'.KeysWithoutNaN →
      (Value.eq (.map d) (.map d') = true ↔ ∀ key : Value, key.Built →
        Option.Rel (fun v w => v.eq w = true) (d.get? key) (d'.get? key))) ∧
    ∀ pairs pairs' : List (Value × Value), pairs.Perm pairs' →
      (∀ p ∈ pairs, p.1.Built ∧ p.2.Built) → KeysApart pairs → PairsWithoutNaN pairs →
      Value.eq (.map (ofList pairs)) (.map (ofList pairs')) = true ∧
        sameKey (.map (ofList pairs)) (.map (ofList pairs')) = true := by
  constructor
  · intro d d' hd hd' hKeys hKeys'
    exact related_map_iff_sameUnderEachKey compares_eq hd hd' hKeys hKeys'
  · intro pairs pairs' hPerm hPairs hApart hAll
    constructor
    · exact related_ofList_of_perm compares_eq (fun v hv => (self_iff_hasNaN hv).2.2) hPerm hPairs
        hApart hAll
    · exact related_ofList_of_perm compares_sameKey (fun v hv => (self_iff_hasNaN hv).1.2) hPerm
        hPairs hApart hAll

/-- Keys that are easily confused: an integer, the floating-point number of its size, and a map with
the integer in it. -/
def confusablePairs : List (Value × Value) :=
  [(.integer 1, .string "integer"), (.float (.ofInt 1), .float (.zero true)),
    (.map (ofList [(.integer 1, .nil), (.integer 2, .nil)]), .array [.integer 3])]

/-- The map among these keys, with its entries the other way round. -/
def confusableKey : Value := .map (ofList [(.integer 2, .nil), (.integer 1, .nil)])

theorem built_confusablePairs : ∀ p ∈ confusablePairs, p.1.Built ∧ p.2.Built := by
  have hMap : Built (.map (ofList [(.integer 1, .nil), (.integer 2, .nil)])) :=
    .ofList (by simp [Built.integer, Built.nil])
  simp [confusablePairs, hMap, Built.integer, Built.string, Built.float, Built.array]

/-- Inserted in reverse the pairs come to an equal map, and the key is found in both. -/
theorem eq_map_iff_sameUnderEachKey_of_confusablePairs :
    KeysApart confusablePairs ∧ PairsWithoutNaN confusablePairs ∧
    Value.eq (.map (ofList confusablePairs)) (.map (ofList confusablePairs.reverse)) = true ∧
    sameKey (.map (ofList confusablePairs)) (.map (ofList confusablePairs.reverse)) = true ∧
    (ofList confusablePairs).KeysWithoutNaN ∧
    (ofList confusablePairs.reverse).KeysWithoutNaN ∧
    Option.Rel (fun v w => v.eq w = true) ((ofList confusablePairs).get? confusableKey)
      ((ofList confusablePairs.reverse).get? confusableKey) ∧
    (ofList confusablePairs).get? confusableKey = some (.array [.integer 3]) := by
  obtain ⟨hExtensional, hOrder⟩ := eq_map_iff_sameUnderEachKey
  have hReverse : confusablePairs.Perm confusablePairs.reverse :=
    (List.reverse_perm confusablePairs).symm
  have hPairs := built_confusablePairs
  have hPairs' : ∀ p ∈ confusablePairs.reverse, p.1.Built ∧ p.2.Built := fun p hp =>
    hPairs p (hReverse.mem_iff.2 hp)
  have hApart : KeysApart confusablePairs := by
    unfold KeysApart
    decide +kernel
  have hAll : PairsWithoutNaN confusablePairs := by
    unfold PairsWithoutNaN
    decide +kernel
  have hKeys : (ofList confusablePairs).KeysWithoutNaN := by
    unfold KeysWithoutNaN
    decide +kernel
  have hKeys' : (ofList confusablePairs.reverse).KeysWithoutNaN := by
    unfold KeysWithoutNaN
    decide +kernel
  have hKey : confusableKey.Built := .ofList (by simp [Built.integer, Built.nil])
  obtain ⟨hEq, hSame⟩ := hOrder _ _ hReverse hPairs hApart hAll
  exact ⟨hApart, hAll, hEq, hSame, hKeys, hKeys',
    (hExtensional _ _ (.ofList hPairs) (.ofList hPairs') hKeys hKeys').1 hEq confusableKey hKey,
    by rfl⟩

end Dict

end CaseMatch
