import CaseMatch.Proofs.Number.Exactness
import CaseMatch.Proofs.Value.Built
import Mathlib.Data.List.Forall2
import Mathlib.Data.List.Perm.Subperm

/-!
The two equalities of values as one comparison. Both compare arrays place by place and maps by
looking up the entries of one in the other under `Value.sameKey`. They differ in what they take
for the same among values without parts. Among built values each is symmetric and transitive.
-/

namespace CaseMatch

/-- Each entry of the first map has its key in the second, with a value related to its own. -/
def Dict.Included (related : Value → Value → Bool) (d d' : Dict) : Prop :=
  ∀ e ∈ d, ∃ f, d'.find? (fun f => e.1.sameKey f.1) = some f ∧ related e.2 f.2 = true

namespace Value

/-- What a value without parts is compared by. -/
inductive Scalar where
  | nil
  | boolean (b : Bool)
  | integer (n : Int64)
  | number (units : Int)
  | string (text : String)
  | symbol (name : String)
  | object (ref : ObjectRef)

/-- What a key without parts is compared by. What is not a number has nothing to be compared by. -/
def keyScalar? : Value → Option Scalar
  | .nil => some .nil
  | .boolean b => some (.boolean b)
  | .integer n => some (.integer n)
  | .float x => if x.isNaN then none else some (.number x.units)
  | .string text => some (.string text)
  | .symbol name => some (.symbol name)
  | .object ref => some (.object ref)
  | .array _ | .map _ => none

/-- An integer means the number that it is. -/
def Scalar.meaning : Scalar → Scalar
  | .integer n => .number (Binary64.unitsOfInt n)
  | s => s

/-- What a value without parts is compared by where its meaning counts. -/
def scalar? (v : Value) : Option Scalar := v.keyScalar?.map Scalar.meaning

/-- Two values are the same in themselves, or part by part. -/
inductive Alike (scalar : Value → Option Scalar) (related : Value → Value → Bool) :
    Value → Value → Prop where
  | scalar {a b : Value} {s : Scalar} (left : scalar a = some s) (right : scalar b = some s) :
      Alike scalar related a b
  | array {xs ys : List Value} (items : List.Forall₂ (fun x y => related x y = true) xs ys) :
      Alike scalar related (.array xs) (.array ys)
  | map {d d' : Dict} (length : d.length = d'.length) (entries : d.Included related d') :
      Alike scalar related (.map d) (.map d')

/-- Items are the same keys in turn, with none left over. -/
theorem sameItems_iff {xs ys : List Value} :
    sameItems xs ys = true ↔ List.Forall₂ (fun x y => sameKey x y = true) xs ys := by
  induction xs generalizing ys with
  | nil => cases ys <;> simp [sameItems]
  | cons x xs ih => cases ys <;> simp [sameItems, ih]

theorem eqItems_iff {xs ys : List Value} :
    eqItems xs ys = true ↔ List.Forall₂ (fun x y => eq x y = true) xs ys := by
  induction xs generalizing ys with
  | nil => cases ys <;> simp [eqItems]
  | cons x xs ih => cases ys <;> simp [eqItems, ih]

/-- The test of entries looks each entry of the first map up in the second. -/
theorem sameEntries_iff {d d' : Dict} : sameEntries d d' = true ↔ d.Included sameKey d' := by
  induction d with
  | nil => simp [sameEntries, Dict.Included]
  | cons e rest ih =>
      obtain ⟨key, value⟩ := e
      simp only [sameEntries, Bool.and_eq_true, ih, Dict.Included, List.forall_mem_cons]
      cases d'.find? (fun f => key.sameKey f.1) <;> simp

theorem eqEntries_iff {d d' : Dict} : eqEntries d d' = true ↔ d.Included eq d' := by
  induction d with
  | nil => simp [eqEntries, Dict.Included]
  | cons e rest ih =>
      obtain ⟨key, value⟩ := e
      simp only [eqEntries, Bool.and_eq_true, ih, Dict.Included, List.forall_mem_cons]
      cases d'.find? (fun f => key.sameKey f.1) <;> simp

/-- How two values are alike, with the cases apart that no scalar decides. -/
theorem alike_iff {scalar : Value → Option Scalar} {related : Value → Value → Bool} {a b : Value} :
    Alike scalar related a b ↔
      (∃ s, scalar a = some s ∧ scalar b = some s) ∨
      (∃ xs ys, a = .array xs ∧ b = .array ys ∧
        List.Forall₂ (fun x y => related x y = true) xs ys) ∨
      (∃ d d', a = .map d ∧ b = .map d' ∧ d.length = d'.length ∧ Dict.Included related d d') := by
  constructor
  · rintro (⟨left, right⟩ | ⟨items⟩ | ⟨length, entries⟩)
    · exact Or.inl ⟨_, left, right⟩
    · exact Or.inr (Or.inl ⟨_, _, rfl, rfl, items⟩)
    · exact Or.inr (Or.inr ⟨_, _, rfl, rfl, length, entries⟩)
  · rintro (⟨s, left, right⟩ | ⟨xs, ys, rfl, rfl, items⟩ | ⟨d, d', rfl, rfl, length, entries⟩)
    · exact .scalar left right
    · exact .array items
    · exact .map length entries

/-- A relation that compares values without parts by scalars and all others part by part. -/
structure Compares (scalar : Value → Option Scalar) (related : Value → Value → Bool) : Prop where
  iff_alike : ∀ a b, related a b = true ↔ Alike scalar related a b
  scalar_array : ∀ items, scalar (.array items) = none
  scalar_map : ∀ entries, scalar (.map entries) = none

namespace Compares

variable {scalar : Value → Option Scalar} {related : Value → Value → Bool}

/-- Arrays are compared item by item, under either equality. -/
theorem array_iff (h : Compares scalar related) {xs ys : List Value} :
    related (.array xs) (.array ys) = true ↔
      List.Forall₂ (fun x y => related x y = true) xs ys := by
  rw [h.iff_alike, alike_iff]
  simp [h.scalar_array]

/-- Maps are compared by their lengths and by looking up each entry of the first in the second,
under either equality. -/
theorem map_iff (h : Compares scalar related) {d d' : Dict} :
    related (.map d) (.map d') = true ↔ d.length = d'.length ∧ d.Included related d' := by
  rw [h.iff_alike, alike_iff]
  simp [h.scalar_map]

end Compares

/-- Being the same key is a comparison of which the scalars decide that are kept as they are. -/
theorem compares_sameKey : Compares keyScalar? sameKey where
  iff_alike a b := by
    rw [alike_iff]
    cases a <;> cases b <;>
      simp [sameKey, keyScalar?, sameItems_iff, sameEntries_iff, Binary64.numEq_iff] <;>
      tauto
  scalar_array _ := rfl
  scalar_map _ := rfl

/-- Equality is a comparison of which the scalars decide by what they mean. -/
theorem compares_eq : Compares scalar? eq where
  iff_alike a b := by
    rw [alike_iff]
    cases a <;> cases b <;>
      simp [eq, scalar?, keyScalar?, Scalar.meaning, eqItems_iff, eqEntries_iff,
        Binary64.numEq_iff, Binary64.equalsInt_toInt_iff, Binary64.unitsOfInt_inj] <;>
      tauto
  scalar_array _ := rfl
  scalar_map _ := rfl

/-- A relation that is symmetric and transitive among some values. It need not hold of a value and
itself. -/
structure PartialEquivalence (among : Value → Prop) (related : Value → Value → Bool) : Prop where
  symm : ∀ {a b}, among a → among b → related a b = true → related b a = true
  trans : ∀ {a b c}, among a → among b → among c →
    related a b = true → related b c = true → related a c = true

namespace PartialEquivalence

variable {among : Value → Prop} {related : Value → Value → Bool}

/-- What is related to anything is related to itself. -/
theorem left (h : PartialEquivalence among related) {a b : Value} (ha : among a) (hb : among b)
    (hab : related a b = true) : related a a = true :=
  h.trans ha hb ha hab (h.symm ha hb hab)

/-- Items in turn are related both ways if members of the lists are. -/
theorem items_symm (h : PartialEquivalence among related) {xs ys : List Value}
    (hxs : ∀ x ∈ xs, among x) (hys : ∀ y ∈ ys, among y)
    (hItems : List.Forall₂ (fun x y => related x y = true) xs ys) :
    List.Forall₂ (fun x y => related x y = true) ys xs := by
  induction hItems with
  | nil => exact .nil
  | cons head _ ih =>
      rw [List.forall_mem_cons] at hxs hys
      exact .cons (h.symm hxs.1 hys.1 head) (ih hxs.2 hys.2)

/-- Items related in turn to a list and this to another are related to the other. -/
theorem items_trans (h : PartialEquivalence among related) {xs ys zs : List Value}
    (hxs : ∀ x ∈ xs, among x) (hys : ∀ y ∈ ys, among y) (hzs : ∀ z ∈ zs, among z)
    (hLeft : List.Forall₂ (fun x y => related x y = true) xs ys)
    (hRight : List.Forall₂ (fun x y => related x y = true) ys zs) :
    List.Forall₂ (fun x y => related x y = true) xs zs := by
  induction hLeft generalizing zs with
  | nil => exact hRight
  | cons head _ ih =>
      cases hRight with
      | cons head' tail' =>
          rw [List.forall_mem_cons] at hxs hys hzs
          exact .cons (h.trans hxs.1 hys.1 hzs.1 head head') (ih hxs.2 hys.2 hzs.2 tail')

end PartialEquivalence

end Value

namespace Dict

open Value

variable {among : Value → Prop} {related : Value → Value → Bool}

/-- What looking up a key finds is under the same key. -/
theorem sameKey_of_find? {d : Dict} {key : Value} {f : Value × Value}
    (hFind : d.find? (fun f => key.sameKey f.1) = some f) : key.sameKey f.1 = true := by
  have hFound := List.find?_some hFind
  exact hFound

/-- Among keys on which `Value.sameKey` is a partial equivalence, every entry under a key is the
one that looking up the key finds. -/
theorem Distinct.find?_eq_some {d : Dict} (hDistinct : d.Distinct)
    (keys : PartialEquivalence among sameKey) (hKeys : ∀ e ∈ d, among e.1) {key : Value}
    (hKey : among key) {e : Value × Value} (he : e ∈ d) (hSame : key.sameKey e.1 = true) :
    d.find? (fun f => key.sameKey f.1) = some e := by
  cases hFind : d.find? (fun f => key.sameKey f.1) with
  | none => exact absurd hSame (by simpa using List.find?_eq_none.1 hFind e he)
  | some f =>
      have hf := List.mem_of_find?_eq_some hFind
      have hSame' := sameKey_of_find? hFind
      have hfKey := keys.symm hKey (hKeys f hf) hSame'
      have hfe := keys.trans (hKeys f hf) hKey (hKeys e he) hfKey hSame
      have hef := keys.symm (hKeys f hf) (hKeys e he) hfe
      rw [hDistinct.eq_of_sameKey hf he hfe hef]

/-- An inclusion finds different entries for different keys. -/
theorem Included.exists_found {d d' : Dict} (hIncluded : d.Included related d')
    (hDistinct : d.Distinct) (keys : PartialEquivalence among sameKey)
    (hKeys : ∀ e ∈ d, among e.1) (hKeys' : ∀ f ∈ d', among f.1) :
    ∃ found : Value × Value → Value × Value, (d.map found).Subperm d' ∧
      ∀ e ∈ d, e.1.sameKey (found e).1 = true ∧ related e.2 (found e).2 = true := by
  choose! found hFind hRelated using hIncluded
  have hMem : ∀ e ∈ d, found e ∈ d' := fun e he => List.mem_of_find?_eq_some (hFind e he)
  have hSame : ∀ e ∈ d, e.1.sameKey (found e).1 = true := fun e he =>
    sameKey_of_find? (hFind e he)
  have hInjective : ∀ e ∈ d, ∀ e' ∈ d, found e = found e' → e.1.sameKey e'.1 = true := by
    intro e he e' he' hFound
    have hBack := keys.symm (hKeys e' he') (hKeys' _ (hMem e' he')) (hSame e' he')
    exact keys.trans (hKeys e he) (hKeys' _ (hMem e he)) (hKeys e' he') (hSame e he)
      (hFound ▸ hBack)
  have hNodup : (d.map found).Nodup :=
    List.pairwise_map.2 (hDistinct.imp_of_mem fun {e e'} he he' hDiffer hFound =>
      hDiffer ⟨hInjective e he e' he' hFound, hInjective e' he' e he hFound.symm⟩)
  have hSubset : d.map found ⊆ d' := by
    intro f hf
    obtain ⟨e, he, rfl⟩ := List.mem_map.1 hf
    exact hMem e he
  exact ⟨found, List.subperm_of_subset hNodup hSubset, fun e he => ⟨hSame e he, hRelated e he⟩⟩

/-- A map that is included in another has no more entries. -/
theorem Included.length_le {d d' : Dict} (hIncluded : d.Included related d')
    (hDistinct : d.Distinct) (keys : PartialEquivalence among sameKey)
    (hKeys : ∀ e ∈ d, among e.1) (hKeys' : ∀ f ∈ d', among f.1) : d.length ≤ d'.length := by
  obtain ⟨found, hSubperm, -⟩ := hIncluded.exists_found hDistinct keys hKeys hKeys'
  simpa using hSubperm.length_le

/-- An inclusion between maps of one length leaves no entry of the second map out: as many entries
are found as the second map has. -/
theorem Included.exists_of_mem {d d' : Dict} (hIncluded : d.Included related d')
    (hLength : d.length = d'.length) (hDistinct : d.Distinct)
    (keys : PartialEquivalence among sameKey) (hKeys : ∀ e ∈ d, among e.1)
    (hKeys' : ∀ f ∈ d', among f.1) :
    ∀ f ∈ d', ∃ e ∈ d, e.1.sameKey f.1 = true ∧ related e.2 f.2 = true := by
  obtain ⟨found, hSubperm, hFound⟩ := hIncluded.exists_found hDistinct keys hKeys hKeys'
  have hPerm : (d.map found).Perm d' := hSubperm.perm_of_length_le (by simp [hLength])
  intro f hf
  obtain ⟨e, he, rfl⟩ := List.mem_map.1 (hPerm.mem_iff.2 hf)
  exact ⟨e, he, hFound e he⟩

/-- Maps of one length include each other both ways, if their keys and values are among those on
which the relations are known. -/
theorem Included.symm {d d' : Dict} (hIncluded : d.Included related d')
    (hLength : d.length = d'.length) (hDistinct : d.Distinct)
    (keys : PartialEquivalence among sameKey) (values : PartialEquivalence among related)
    (hParts : ∀ e ∈ d, among e.1 ∧ among e.2) (hParts' : ∀ f ∈ d', among f.1 ∧ among f.2) :
    d'.Included related d := by
  have hKeys : ∀ e ∈ d, among e.1 := fun e he => (hParts e he).1
  intro f hf
  obtain ⟨e, he, hSame, hRelated⟩ := hIncluded.exists_of_mem hLength hDistinct keys hKeys
    (fun f hf => (hParts' f hf).1) f hf
  refine ⟨e, ?_, values.symm (hParts e he).2 (hParts' f hf).2 hRelated⟩
  exact hDistinct.find?_eq_some keys hKeys (hParts' f hf).1 he
    (keys.symm (hParts e he).1 (hParts' f hf).1 hSame)

/-- A map is included in itself where each of its parts is related to itself. -/
theorem included_self_iff {d : Dict} (hDistinct : d.Distinct)
    (keys : PartialEquivalence among sameKey) (hKeys : ∀ e ∈ d, among e.1) :
    d.Included related d ↔ ∀ e ∈ d, e.1.sameKey e.1 = true ∧ related e.2 e.2 = true := by
  have hFindSelf (e) (he : e ∈ d) (hSame : e.1.sameKey e.1 = true) :
      d.find? (fun f => e.1.sameKey f.1) = some e :=
    hDistinct.find?_eq_some keys hKeys (hKeys e he) he hSame
  constructor
  · intro hIncluded e he
    obtain ⟨f, hFind, hRelated⟩ := hIncluded e he
    have hf := List.mem_of_find?_eq_some hFind
    have hSame := keys.left (hKeys e he) (hKeys f hf) (sameKey_of_find? hFind)
    rw [hFindSelf e he hSame, Option.some.injEq] at hFind
    exact ⟨hSame, hFind ▸ hRelated⟩
  · intro hSelf e he
    exact ⟨e, hFindSelf e he (hSelf e he).1, (hSelf e he).2⟩

/-- A map that is included in one which is included in another is included in the other. -/
theorem Included.trans {d d' d'' : Dict} (hLeft : d.Included related d')
    (hRight : d'.Included related d'') (hDistinct : d''.Distinct)
    (keys : PartialEquivalence among sameKey) (values : PartialEquivalence among related)
    (hParts : ∀ e ∈ d, among e.1 ∧ among e.2) (hParts' : ∀ f ∈ d', among f.1 ∧ among f.2)
    (hParts'' : ∀ g ∈ d'', among g.1 ∧ among g.2) : d.Included related d'' := by
  intro e he
  obtain ⟨f, hFind, hRelated⟩ := hLeft e he
  have hf := List.mem_of_find?_eq_some hFind
  have hSame := sameKey_of_find? hFind
  obtain ⟨g, hFind', hRelated'⟩ := hRight f hf
  have hg := List.mem_of_find?_eq_some hFind'
  have hSame' := sameKey_of_find? hFind'
  refine ⟨g, ?_, values.trans (hParts e he).2 (hParts' f hf).2 (hParts'' g hg).2 hRelated hRelated'⟩
  exact hDistinct.find?_eq_some keys (fun g hg => (hParts'' g hg).1) (hParts e he).1 hg
    (keys.trans (hParts e he).1 (hParts' f hf).1 (hParts'' g hg).1 hSame hSame')

end Dict

namespace Value

/-- The built values below a size. -/
def Below (bound : Nat) (v : Value) : Prop := v.Built ∧ sizeOf v < bound

theorem Below.items {bound : Nat} {items : List Value} (h : Below (bound + 1) (.array items)) :
    ∀ item ∈ items, Below bound item := by
  intro item hItem
  have hSize := List.sizeOf_lt_of_mem hItem
  have hWhole : sizeOf (Value.array items) = 1 + sizeOf items := Value.array.sizeOf_spec items
  exact ⟨h.1.items item hItem, by have := h.2; omega⟩

/-- The keys and values of a map are smaller than the map. -/
theorem Below.entries {bound : Nat} {d : Dict} (h : Below (bound + 1) (.map d)) :
    ∀ e ∈ d, Below bound e.1 ∧ Below bound e.2 := by
  intro e he
  have hSize := List.sizeOf_lt_of_mem he
  have hWhole : sizeOf (Value.map d) = 1 + sizeOf d := Value.map.sizeOf_spec d
  have hEntry : sizeOf e = 1 + sizeOf e.1 + sizeOf e.2 := rfl
  have hBelow := h.2
  exact ⟨⟨(h.1.parts e he).1, by omega⟩, ⟨(h.1.parts e he).2, by omega⟩⟩

/-- A comparison is a partial equivalence one size further up, since the parts of a value are
smaller than the value. -/
theorem PartialEquivalence.succ {scalar : Value → Option Scalar} {related : Value → Value → Bool}
    {bound : Nat} (hCompares : Compares scalar related)
    (keys : PartialEquivalence (Below bound) sameKey)
    (values : PartialEquivalence (Below bound) related) :
    PartialEquivalence (Below (bound + 1)) related where
  symm {a b} ha hb hab := by
    rw [hCompares.iff_alike] at hab ⊢
    cases hab with
    | scalar left right => exact .scalar right left
    | array items => exact .array (values.items_symm ha.items hb.items items)
    | map length entries =>
        exact .map length.symm
          (entries.symm length ha.1.distinct keys values ha.entries hb.entries)
  trans {a b c} ha hb hc hab hbc := by
    rw [hCompares.iff_alike] at hab hbc ⊢
    cases hab with
    | scalar left right =>
        cases hbc with
        | scalar left' right' =>
            rw [left', Option.some.injEq] at right
            exact .scalar left (right ▸ right')
        | array items => simp [hCompares.scalar_array] at right
        | map length entries => simp [hCompares.scalar_map] at right
    | array items =>
        cases hbc with
        | scalar left' right' => simp [hCompares.scalar_array] at left'
        | array items' => exact .array (values.items_trans ha.items hb.items hc.items items items')
    | map length entries =>
        cases hbc with
        | scalar left' right' => simp [hCompares.scalar_map] at left'
        | map length' entries' =>
            exact .map (length.trans length') (entries.trans entries' hc.1.distinct keys values
              ha.entries hb.entries hc.entries)

/-- There is no value below size zero. -/
theorem PartialEquivalence.zero (related : Value → Value → Bool) :
    PartialEquivalence (Below 0) related where
  symm ha := absurd ha.2 (Nat.not_lt_zero _)
  trans ha := absurd ha.2 (Nat.not_lt_zero _)

/-- What holds below every size holds of all built values. -/
theorem PartialEquivalence.of_forall_below {related : Value → Value → Bool}
    (h : ∀ bound, PartialEquivalence (Below bound) related) :
    PartialEquivalence Built related where
  symm {a b} ha hb := (h (sizeOf a + sizeOf b + 1)).symm ⟨ha, by omega⟩ ⟨hb, by omega⟩
  trans {a b c} ha hb hc := (h (sizeOf a + sizeOf b + sizeOf c + 1)).trans
    ⟨ha, by omega⟩ ⟨hb, by omega⟩ ⟨hc, by omega⟩

/-- Being the same key is a partial equivalence below any size, by induction on the size. -/
theorem sameKey_partialEquivalence_below (bound : Nat) :
    PartialEquivalence (Below bound) sameKey := by
  induction bound with
  | zero => exact .zero sameKey
  | succ bound ih => exact .succ compares_sameKey ih ih

/-- Equality is a partial equivalence below any size. The keys are compared by the other relation,
of which this is known already. -/
theorem eq_partialEquivalence_below (bound : Nat) : PartialEquivalence (Below bound) eq := by
  induction bound with
  | zero => exact .zero eq
  | succ bound ih => exact .succ compares_eq (sameKey_partialEquivalence_below bound) ih

theorem sameKey_partialEquivalence : PartialEquivalence Built sameKey :=
  .of_forall_below sameKey_partialEquivalence_below

theorem eq_partialEquivalence : PartialEquivalence Built eq :=
  .of_forall_below eq_partialEquivalence_below

end Value

end CaseMatch
