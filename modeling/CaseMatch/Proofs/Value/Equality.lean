import CaseMatch.Proofs.Value.Comparison

/-!
The laws of the two equalities on built values. Both are partial equivalences, equality of keys is
the finer one, and a value equals itself under either exactly where nothing in it, keys of maps
included, fails to be a number. Nor does it matter for maps from which side keys are looked up and
values are compared.
-/

namespace CaseMatch

namespace Value

mutual

/-- Whether something that is not a number stands anywhere in a value, keys included. -/
def hasNaN : Value → Bool
  | .float x => x.isNaN
  | .array items => itemsHaveNaN items
  | .map entries => entriesHaveNaN entries
  | _ => false

def itemsHaveNaN : List Value → Bool
  | [] => false
  | item :: rest => hasNaN item || itemsHaveNaN rest

def entriesHaveNaN : List (Value × Value) → Bool
  | [] => false
  | (key, value) :: rest => hasNaN key || hasNaN value || entriesHaveNaN rest

end

/-- An array is free of NaN if its items are. -/
@[simp]
theorem hasNaN_array {items : List Value} :
    hasNaN (.array items) = false ↔ ∀ item ∈ items, hasNaN item = false := by
  rw [hasNaN]
  induction items with
  | nil => simp [itemsHaveNaN]
  | cons item rest ih => simp [itemsHaveNaN, ih]

/-- A map is free of NaN if its keys and values are. -/
@[simp]
theorem hasNaN_map {entries : Dict} :
    hasNaN (.map entries) = false ↔ ∀ e ∈ entries, hasNaN e.1 = false ∧ hasNaN e.2 = false := by
  rw [hasNaN]
  induction entries with
  | nil => simp [entriesHaveNaN]
  | cons e rest ih => simp [entriesHaveNaN, ih, and_assoc]

/-- Items that are the same keys mean the same, where this is known of each of them. -/
theorem forall₂_eq_of_sameKey {xs ys : List Value}
    (h : ∀ x ∈ xs, ∀ y, x.sameKey y = true → x.eq y = true)
    (hSame : List.Forall₂ (fun x y => sameKey x y = true) xs ys) :
    List.Forall₂ (fun x y => eq x y = true) xs ys := by
  induction hSame with
  | nil => exact .nil
  | cons head _ ih =>
      rw [List.forall_mem_cons] at h
      exact .cons (h.1 _ head) (ih h.2)

/-- What are the same keys mean the same. The converse fails, since an integer may mean the same
as a floating-point number. -/
theorem eq_of_sameKey {a b : Value} (h : a.sameKey b = true) : a.eq b = true := by
  induction a generalizing b with
  | array items ih =>
      rw [compares_sameKey.iff_alike] at h
      cases h with
      | scalar left _ => simp [keyScalar?] at left
      | array same =>
          exact compares_eq.array_iff.2 (forall₂_eq_of_sameKey (fun x hx y => ih x hx) same)
  | map entries ih =>
      rw [compares_sameKey.iff_alike] at h
      cases h with
      | scalar left _ => simp [keyScalar?] at left
      | map length included =>
          refine compares_eq.map_iff.2 ⟨length, fun e he => ?_⟩
          obtain ⟨f, hFind, hSame⟩ := included e he
          exact ⟨f, hFind, (ih e he).2 hSame⟩
  | _ =>
      rw [compares_sameKey.iff_alike] at h
      cases h with
      | scalar left right =>
          rw [compares_eq.iff_alike]
          exact .scalar (congrArg (Option.map Scalar.meaning) left)
            (congrArg (Option.map Scalar.meaning) right)

/-- A built value equals itself, under either equality, exactly where all in it are numbers that
claim to be. -/
theorem self_iff_hasNaN {v : Value} (hv : v.Built) :
    (v.sameKey v = true ↔ v.hasNaN = false) ∧ (v.eq v = true ↔ v.hasNaN = false) := by
  induction v with
  | array items ih =>
      have hItems := fun item h => ih item h (hv.items item h)
      rw [compares_sameKey.array_iff, compares_eq.array_iff, List.forall₂_same, List.forall₂_same,
        hasNaN_array]
      exact ⟨forall₂_congr fun item h => (hItems item h).1,
        forall₂_congr fun item h => (hItems item h).2⟩
  | map entries ih =>
      have hKeys := fun e he => (ih e he).1 (hv.parts e he).1
      have hValues := fun e he => (ih e he).2 (hv.parts e he).2
      have hIncluded (related : Value → Value → Bool) :
          Dict.Included related entries entries ↔
          ∀ e ∈ entries, e.1.sameKey e.1 = true ∧ related e.2 e.2 = true :=
        Dict.included_self_iff hv.distinct sameKey_partialEquivalence fun e he => (hv.parts e he).1
      rw [compares_sameKey.map_iff, compares_eq.map_iff, hIncluded, hIncluded, hasNaN_map]
      simp only [true_and]
      exact ⟨forall₂_congr fun e he => and_congr (hKeys e he).1 (hValues e he).1,
        forall₂_congr fun e he => and_congr (hKeys e he).1 (hValues e he).2⟩
  | float x => simp [sameKey, eq, hasNaN, Binary64.numEq_iff]
  | _ => simp [sameKey, eq, hasNaN]

/-- Looking up a key from the side of the entries finds the same entry. -/
theorem find?_sameKey_comm {d : Dict} (hd : Built (.map d)) {key : Value} (hKey : key.Built) :
    d.find? (fun f => f.1.sameKey key) = d.find? (fun f => key.sameKey f.1) := by
  rw [← List.head?_filter, ← List.head?_filter]
  congr 1
  apply List.filter_congr
  intro f hf
  have hBuilt := (hd.parts f hf).1
  exact Bool.eq_iff_iff.2 ⟨sameKey_partialEquivalence.symm hBuilt hKey,
    sameKey_partialEquivalence.symm hKey hBuilt⟩

/-- Two maps are the same key where they have as many entries as each other and the value under each
key of the first is the same key as the one that the second has, looked up from the side of the
second. -/
theorem sameKey_map_iff_comm {d d' : Dict} (hd : Built (.map d)) (hd' : Built (.map d')) :
    sameKey (.map d) (.map d') = true ↔ d.length = d'.length ∧
      ∀ e ∈ d, ∃ f, d'.find? (fun f => f.1.sameKey e.1) = some f ∧ e.2.sameKey f.2 = true := by
  rw [compares_sameKey.map_iff]
  refine and_congr_right fun _ => forall₂_congr fun e he => exists_congr fun f => ?_
  rw [find?_sameKey_comm hd' (hd.parts e he).1]

/-- Two maps are equal where they have as many entries as each other and the value under each key
of the first is equal to the one that the second has, looked up and compared from the side of the
second. -/
theorem eq_map_iff_comm {d d' : Dict} (hd : Built (.map d)) (hd' : Built (.map d')) :
    eq (.map d) (.map d') = true ↔ d.length = d'.length ∧
      ∀ e ∈ d, ∃ f, d'.find? (fun f => f.1.sameKey e.1) = some f ∧ f.2.eq e.2 = true := by
  rw [compares_eq.map_iff]
  refine and_congr_right fun _ => forall₂_congr fun e he => exists_congr fun f => ?_
  rw [find?_sameKey_comm hd' (hd.parts e he).1]
  refine and_congr_right fun hFind => ?_
  have hf := (hd'.parts f (List.mem_of_find?_eq_some hFind)).2
  have he := (hd.parts e he).2
  exact ⟨eq_partialEquivalence.symm he hf, eq_partialEquivalence.symm hf he⟩

/-- The laws of both equalities on built values. -/
theorem equality_laws {a b c : Value} (ha : a.Built) (hb : b.Built) (hc : c.Built) :
    (a.eq b = true → b.eq a = true) ∧
    (a.eq b = true → b.eq c = true → a.eq c = true) ∧
    (a.sameKey b = true → b.sameKey a = true) ∧
    (a.sameKey b = true → b.sameKey c = true → a.sameKey c = true) ∧
    (a.sameKey b = true → a.eq b = true) ∧
    (a.eq a = true ↔ a.sameKey a = true) ∧ (a.sameKey a = true ↔ a.hasNaN = false) := by
  obtain ⟨hSameKey, hEq⟩ := self_iff_hasNaN ha
  exact ⟨eq_partialEquivalence.symm ha hb, eq_partialEquivalence.trans ha hb hc,
    sameKey_partialEquivalence.symm ha hb, sameKey_partialEquivalence.trans ha hb hc,
    eq_of_sameKey, hEq.trans hSameKey.symm, hSameKey⟩

/-- Three maps that mean the same, with their entries in different orders, with numbers of either
kind and with zeros of either sign. -/
def integersFirst : Dict :=
  Dict.ofList [(.integer 1, .array [.integer 1, .float (.zero true)]), (.string "k", .integer 2)]

def integersLast : Dict :=
  Dict.ofList [(.string "k", .integer 2), (.integer 1, .array [.float (.ofInt 1), .integer 0])]

def floatsLast : Dict :=
  Dict.ofList
    [(.string "k", .float (.ofInt 2)), (.integer 1, .array [.integer 1, .float (.zero false)])]

theorem built_examples :
    Built (.map integersFirst) ∧ Built (.map integersLast) ∧ Built (.map floatsLast) := by
  refine ⟨.ofList ?_, .ofList ?_, .ofList ?_⟩ <;>
    simp [Built.integer, Built.string, Built.float, Built.array]

theorem equality_laws_of_orders :
    (Built (.map integersFirst) ∧ Built (.map integersLast) ∧ Built (.map floatsLast)) ∧
    eq (.map integersLast) (.map integersFirst) = true ∧
    eq (.map integersFirst) (.map floatsLast) = true ∧
    sameKey (.map integersFirst) (.map integersLast) = false ∧
    sameKey (.map integersFirst) (.map integersFirst) = true ∧
    hasNaN (.map integersFirst) = false := by
  obtain ⟨hFirst, hLast, hFloats⟩ := built_examples
  have hForth : eq (.map integersFirst) (.map integersLast) = true := by decide +kernel
  have hOnwards : eq (.map integersLast) (.map floatsLast) = true := by decide +kernel
  have hKeys : sameKey (.map integersFirst) (.map integersLast) = false := by decide +kernel
  have hNaN : hasNaN (.map integersFirst) = false := by decide +kernel
  obtain ⟨hSymm, hTrans, -, -, -, -, hSelf⟩ := equality_laws hFirst hLast hFloats
  exact ⟨⟨hFirst, hLast, hFloats⟩, hSymm hForth, hTrans hForth hOnwards, hKeys, hSelf.2 hNaN, hNaN⟩

end Value

end CaseMatch
