import CaseMatch.Proofs.Value.Equality

/-!
A map as a finite function that remembers the order in which its keys came. Two keys that are the
same as each other share an entry, which keeps the key that it was made for. A key in which
something is not a number is not even the same as itself: each insertion under it adds an entry
that no look-up finds.
-/

namespace CaseMatch

namespace Dict

open Value

theorem contains_eq_isSome_get? (d : Dict) (key : Value) :
    d.contains key = (d.get? key).isSome := by
  rw [contains, get?, Option.isSome_map, Bool.eq_iff_iff, List.find?_isSome, List.any_eq_true]

/-- The entry with the value of an insertion, if it is the one under the key. -/
def revised (key value : Value) (e : Value × Value) : Value × Value :=
  (e.1, if key.sameKey e.1 then value else e.2)

/-- What is to be said of an insertion: the value that it gives back, and the map that it leaves. -/
structure Inserted (d : Dict) (key value : Value) (replaced : Option Value) (d' : Dict) :
    Prop where
  /-- The value goes under each key that is the same as the one of the insertion. -/
  get_same : ∀ {key'}, key'.Built → key.sameKey key' = true → d'.get? key' = some value
  /-- Under each other key stands what stood there before. -/
  get_other : ∀ {key'}, key'.Built → key.sameKey key' = false → d'.get? key' = d.get? key'
  /-- What the insertion gives back stood under the key before. -/
  gives : replaced = d.get? key
  length : d'.length = d.length + if replaced = none then 1 else 0
  /-- Keys keep their places, and a new one goes behind all others. -/
  keys : d'.map Prod.fst = d.map Prod.fst ++ if replaced = none then [key] else []
  /-- So do the entries. This says more than look-up can tell, which finds no key with something
  in it that is not a number. -/
  entries : d' = d.map (revised key value) ++ if replaced = none then [(key, value)] else []

section lookup

variable {d : Dict} {key : Value}

/-- Looking up finds the one value that stands under a key. -/
theorem get?_eq_some_iff (hd : Built (.map d)) (hKey : key.Built) {value : Value} :
    d.get? key = some value ↔ ∃ stored, (stored, value) ∈ d ∧ key.sameKey stored = true := by
  rw [get?, Option.map_eq_some_iff]
  constructor
  · rintro ⟨⟨stored, _⟩, hFind, rfl⟩
    exact ⟨stored, List.mem_of_find?_eq_some hFind, sameKey_of_find? hFind⟩
  · rintro ⟨stored, hMem, hSame⟩
    exact ⟨(stored, value), hd.distinct.find?_eq_some sameKey_partialEquivalence
      (fun e he => (hd.parts e he).1) hKey hMem hSame, rfl⟩

/-- It does not matter from which side the keys are compared. -/
theorem get?_eq_find?_comm (hd : Built (.map d)) (hKey : key.Built) :
    d.get? key = (d.find? (fun e => e.1.sameKey key)).map Prod.snd := by
  rw [get?, find?_sameKey_comm hd hKey]

/-- Nothing is found under a key that no entry is under. -/
theorem get?_eq_none_iff : d.get? key = none ↔ ∀ e ∈ d, key.sameKey e.1 = false := by
  simp [get?]

end lookup

section insertion

variable {d : Dict} {key value : Value}

theorem fst_revised (e : Value × Value) : (revised key value e).1 = e.1 := rfl

/-- Entries under other keys are left as they are. -/
theorem map_revised_of_new {entries : List (Value × Value)}
    (h : ∀ e ∈ entries, key.sameKey e.1 = false) : entries.map (revised key value) = entries := by
  have hId : ∀ e ∈ entries, revised key value e = id e := fun e he => by simp [revised, h e he]
  rw [List.map_congr_left hId, List.map_id]

/-- An insertion revises the entry under its key, and adds one if there is none. -/
theorem insert_eq_revised (hd : Built (.map d)) (hKey : key.Built) (value : Value) :
    d.insert key value = (d.get? key,
      d.map (revised key value) ++ if d.get? key = none then [(key, value)] else []) := by
  rcases d.insert_cases key value with
    ⟨before, stored, old, after, rfl, hInsert, hSame, hBefore⟩ | ⟨hInsert, hNew⟩
  · have hGet : Dict.get? (before ++ (stored, old) :: after) key = some old :=
      (get?_eq_some_iff hd hKey).2 ⟨stored, by simp, hSame⟩
    -- an entry further on under the key would have the key of the one that is revised
    have hAfter : ∀ e ∈ after, key.sameKey e.1 = false := by
      intro e he
      have hStored := (hd.parts (stored, old) (by simp)).1
      have hLater := (hd.parts e (by simp [he])).1
      have hDiffer : KeysDiffer (stored, old) e :=
        (List.pairwise_cons.1 (List.pairwise_append.1 hd.distinct).2.1).1 e he
      by_contra hKeyE
      rw [Bool.not_eq_false] at hKeyE
      have hForth := sameKey_partialEquivalence.trans hStored hKey hLater
        (sameKey_partialEquivalence.symm hKey hStored hSame) hKeyE
      exact hDiffer ⟨hForth, sameKey_partialEquivalence.symm hStored hLater hForth⟩
    rw [hInsert, hGet, List.map_append, List.map_cons, map_revised_of_new hBefore,
      map_revised_of_new hAfter]
    simp [revised, hSame]
  · have hGet : d.get? key = none := get?_eq_none_iff.2 hNew
    rw [hInsert, hGet, map_revised_of_new hNew]
    simp

/-- The entries that an insertion leaves. -/
theorem mem_insert_iff (hd : Built (.map d)) (hKey : key.Built) {e : Value × Value} :
    e ∈ (d.insert key value).2 ↔
      (∃ prior ∈ d, revised key value prior = e) ∨ d.get? key = none ∧ e = (key, value) := by
  rw [insert_eq_revised hd hKey, List.mem_append, List.mem_map]
  split <;> simp_all

/-- Under every spelling of the key of an insertion its value is found. -/
theorem get?_insert_of_same (hd : Built (.map d)) (hKey : key.Built) (hValue : value.Built)
    {key' : Value} (hKey' : key'.Built) (hSame : key.sameKey key' = true) :
    (d.insert key value).2.get? key' = some value := by
  have hBack := sameKey_partialEquivalence.symm hKey hKey' hSame
  refine (get?_eq_some_iff (hd.insert hKey hValue) hKey').2 ?_
  cases hGet : d.get? key with
  | none => exact ⟨key, (mem_insert_iff hd hKey).2 (Or.inr ⟨hGet, rfl⟩), hBack⟩
  | some old =>
      obtain ⟨stored, hMem, hStored⟩ := (get?_eq_some_iff hd hKey).1 hGet
      refine ⟨stored, (mem_insert_iff hd hKey).2 (Or.inl ⟨_, hMem, ?_⟩), ?_⟩
      · simp [revised, hStored]
      · exact sameKey_partialEquivalence.trans hKey' hKey (hd.parts _ hMem).1 hBack hStored

/-- Under a key that is not the one of an insertion there is what there was. -/
theorem get?_insert_of_other (hd : Built (.map d)) (hKey : key.Built) (hValue : value.Built)
    {key' : Value} (hKey' : key'.Built) (hOther : key.sameKey key' = false) :
    (d.insert key value).2.get? key' = d.get? key' := by
  ext found
  rw [get?_eq_some_iff (hd.insert hKey hValue) hKey', get?_eq_some_iff hd hKey']
  -- an entry under the other key is not under the key of the insertion
  have hUnrevised {stored : Value} (hStored : stored.Built) (hSame : key'.sameKey stored = true) :
      key.sameKey stored = false := by
    by_contra hKeyStored
    rw [Bool.not_eq_false] at hKeyStored
    have hLeft := sameKey_partialEquivalence.trans hKey hStored hKey' hKeyStored
      (sameKey_partialEquivalence.symm hKey' hStored hSame)
    simp [hLeft] at hOther
  refine exists_congr fun stored => and_congr_left fun hSame => ?_
  rw [mem_insert_iff hd hKey]
  constructor
  · rintro (⟨⟨stored', held⟩, hMem, hRevised⟩ | ⟨-, hNew⟩)
    · obtain ⟨rfl, rfl⟩ := Prod.mk.inj hRevised
      simpa [hUnrevised (hd.parts _ hMem).1 hSame] using hMem
    · obtain ⟨rfl, rfl⟩ := Prod.mk.inj hNew
      have hForth := sameKey_partialEquivalence.symm hKey' hKey hSame
      simp [hForth] at hOther
  · intro hMem
    exact Or.inl ⟨_, hMem, by simp [revised, hUnrevised (hd.parts _ hMem).1 hSame]⟩

/-- All that an insertion does to a built map. -/
theorem inserted (hd : Built (.map d)) (hKey : key.Built) (hValue : value.Built) :
    Inserted d key value (d.insert key value).1 (d.insert key value).2 where
  get_same hKey' hSame := get?_insert_of_same hd hKey hValue hKey' hSame
  get_other hKey' hOther := get?_insert_of_other hd hKey hValue hKey' hOther
  gives := by rw [insert_eq_revised hd hKey]
  length := by
    rw [insert_eq_revised hd hKey]
    split <;> simp
  keys := by
    rw [insert_eq_revised hd hKey]
    split <;> simp [Function.comp_def, fst_revised]
  entries := by rw [insert_eq_revised hd hKey]

end insertion

/-- A map that insertions have led to has one entry for each of its keys, and one more insertion
changes what stands under the key of the insertion and nothing else. -/
theorem insertion_laws {pairs : List (Value × Value)}
    (hPairs : ∀ p ∈ pairs, p.1.Built ∧ p.2.Built) :
    (∀ i j (hi : i < (ofList pairs).length) (hj : j < (ofList pairs).length), i ≠ j →
      (ofList pairs)[i].1.sameKey (ofList pairs)[j].1 = false) ∧
    (∀ key, (ofList pairs).contains key = ((ofList pairs).get? key).isSome) ∧
    (∀ key : Value, key.Built → (ofList pairs).get? key =
      ((ofList pairs).find? (fun e => e.1.sameKey key)).map Prod.snd) ∧
    ∀ {key value : Value}, key.Built → value.Built →
      Inserted (ofList pairs) key value ((ofList pairs).insert key value).1
        ((ofList pairs).insert key value).2 := by
  have hd := Built.ofList hPairs
  refine ⟨?_, contains_eq_isSome_get? _, fun _ => get?_eq_find?_comm hd, inserted hd⟩
  intro i j hi hj hne
  by_contra hSame
  rw [Bool.not_eq_false] at hSame
  have hKeys (k) (hk : k < (ofList pairs).length) : (ofList pairs)[k].1.Built :=
    (hd.parts _ (List.getElem_mem hk)).1
  have hBack := sameKey_partialEquivalence.symm (hKeys i hi) (hKeys j hj) hSame
  have hDiffer := List.pairwise_iff_getElem.1 hd.distinct
  rcases Nat.lt_or_gt_of_ne hne with hij | hji
  · exact hDiffer i j hi hj hij ⟨hSame, hBack⟩
  · exact hDiffer j i hj hi hji ⟨hBack, hSame⟩

/-- Keys of every kind: two that are not numbers, a zero, and a map. -/
def mixedPairs : List (Value × Value) :=
  [(.float (.ofParts false (Nat.pow 2 63 - 1)), .integer 1),
    (.float (.ofParts false (Nat.pow 2 63 - 1)), .integer 2),
    (.float (.zero true), .integer 3),
    (.map (ofList [(.integer 1, .nil), (.integer 2, .float (.zero false))]), .integer 4)]

/-- The last key of `mixedPairs` in another order, with the other zero. -/
def reordered : Value := .map (ofList [(.integer 2, .float (.zero true)), (.integer 1, .nil)])

theorem built_mixedPairs : ∀ p ∈ mixedPairs, p.1.Built ∧ p.2.Built := by
  have hMap : Built (.map (ofList [(.integer 1, .nil), (.integer 2, .float (.zero false))])) :=
    .ofList (by simp [Built.integer, Built.nil, Built.float])
  simp [mixedPairs, hMap, Built.integer, Built.float]

theorem built_reordered : reordered.Built :=
  .ofList (by simp [Built.integer, Built.nil, Built.float])

theorem insertion_laws_of_reordered :
    (∀ p ∈ mixedPairs, p.1.Built ∧ p.2.Built) ∧
    (ofList mixedPairs).map Prod.snd = [.integer 1, .integer 2, .integer 3, .integer 4] ∧
    Inserted (ofList mixedPairs) reordered (.string "new") (some (.integer 4))
      ((ofList mixedPairs).insert reordered (.string "new")).2 ∧
    ((ofList mixedPairs).insert reordered (.string "new")).2.get? reordered =
      some (.string "new") := by
  have hReplaced : ((ofList mixedPairs).insert reordered (.string "new")).1 =
      some (.integer 4) := by rfl
  have hSelf : reordered.sameKey reordered = true := by decide +kernel
  obtain ⟨-, -, -, hInserted⟩ := insertion_laws built_mixedPairs
  have hLaws := hInserted built_reordered (.string "new")
  rw [hReplaced] at hLaws
  exact ⟨built_mixedPairs, by rfl, hLaws, hLaws.get_same built_reordered hSelf⟩

end Dict

end CaseMatch
