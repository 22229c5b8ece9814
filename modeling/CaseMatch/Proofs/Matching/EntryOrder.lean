import CaseMatch.Proofs.Matching.Agreement

/-!
The order of the entries of a map pattern. It decides in which order values are given names, and so
which of several equal values a name is bound to and what a failure is blamed on, but not whether a
subject matches, nor which names are bound.
-/

namespace CaseMatch

namespace Pattern

/-- What a match in a context comes to: the pattern has to fit the subject and the names have to
take their values, and nothing but the bindings changes. -/
theorem run_eq_ok_iff {p : Pattern} {c c' : Context} :
    p.run c = (.ok (), c') ↔ Fits p c.current ∧ ConsistentFrom c.bindings (p.binds c.current) ∧
      c' = { c with bindings := c.bindings.keepAll (p.binds c.current) } := by
  rw [p.makes_checks c.current c rfl, Check.performAll_eq_ok_iff, Check.allMetFrom_iff,
    satisfied_checks, assignments_checks, and_assoc]

/-- A match succeeds exactly if the subject fits and the names can take their values. -/
theorem fst_run_eq_ok_iff {p : Pattern} {c : Context} :
    (p.run c).1 = .ok () ↔
      Fits p c.current ∧ ConsistentFrom c.bindings (p.binds c.current) := by
  constructor
  · intro h
    obtain ⟨hFits, hConsistent, -⟩ := run_eq_ok_iff.1 (Prod.ext h rfl : p.run c = (.ok (), _))
    exact ⟨hFits, hConsistent⟩
  · intro ⟨hFits, hConsistent⟩
    rw [run_eq_ok_iff.2 ⟨hFits, hConsistent, rfl⟩]

/-- Each entry gives names by itself. -/
theorem entryBinds_eq_flatMap (entries : List (MapKey × Pattern)) (pairs : Dict) :
    entryBinds entries pairs = entries.flatMap fun e => entryBinds [e] pairs := by
  induction entries with
  | nil => rfl
  | cons e entries ih =>
      obtain ⟨key, p⟩ := e
      cases key <;> simp [entryBinds, ← ih]

variable {entries reordered : List (MapKey × Pattern)} {guard : Option (Value → Bool)}
  {name : Option String} {label label' : String} {subject : Value}

/-- Whether a map pattern fits a subject does not depend on the order of its entries. -/
theorem fits_map_of_perm (hPerm : entries.Perm reordered)
    (h : Fits ⟨.map entries, guard, name, label⟩ subject) :
    Fits ⟨.map reordered, guard, name, label'⟩ subject := by
  obtain ⟨matched, guarded⟩ := h
  refine .intro ?_ guarded
  cases subject with
  | map pairs =>
      rw [fitsMatcher_map_iff] at matched ⊢
      exact fun e he => matched e (hPerm.mem_iff.2 he)
  | _ => cases matched

/-- In another order, the entries of a map pattern give names in another order. -/
theorem binds_map_perm (hPerm : entries.Perm reordered) :
    (binds ⟨.map entries, guard, name, label⟩ subject).Perm
      (binds ⟨.map reordered, guard, name, label'⟩ subject) := by
  rw [binds, binds]
  apply List.Perm.append_right
  cases subject with
  | map pairs =>
      rw [matcherBinds, matcherBinds, entryBinds_eq_flatMap, entryBinds_eq_flatMap reordered]
      exact hPerm.flatMap_right _
  | _ => exact .refl _

/-- A map pattern that matches in one order of its entries matches in any other. -/
theorem fst_run_map_of_perm (hPerm : entries.Perm reordered) {c : Context}
    (hSubject : c.current.Built) (hBound : c.bindings.Built)
    (h : (run ⟨.map entries, guard, name, label⟩ c).1 = .ok ()) :
    (run ⟨.map reordered, guard, name, label'⟩ c).1 = .ok () := by
  rw [fst_run_eq_ok_iff] at h ⊢
  exact ⟨fits_map_of_perm hPerm h.1,
    h.2.perm hBound (built_binds _ hSubject) (binds_map_perm hPerm)⟩

/-- Two map patterns with the same entries in different orders match the same subjects, whatever
names are bound to begin with. Where they match they bind the same names, and the values that a name
has are one and the same, or equal. -/
theorem run_map_perm (guard : Option (Value → Bool)) (name : Option String) (label label' : String)
    (hPerm : entries.Perm reordered) {c : Context} (hSubject : c.current.Built)
    (hBound : c.bindings.Built) :
    ((run ⟨.map entries, guard, name, label⟩ c).1 = .ok () ↔
      (run ⟨.map reordered, guard, name, label'⟩ c).1 = .ok ()) ∧
    ∀ c₁ c₂, run ⟨.map entries, guard, name, label⟩ c = (.ok (), c₁) →
      run ⟨.map reordered, guard, name, label'⟩ c = (.ok (), c₂) →
      c₁.bindings.Alike c₂.bindings := by
  refine ⟨⟨fst_run_map_of_perm hPerm hSubject hBound,
    fst_run_map_of_perm hPerm.symm hSubject hBound⟩, ?_⟩
  intro c₁ c₂ hFirst hSecond
  obtain ⟨-, hConsistent, rfl⟩ := run_eq_ok_iff.1 hFirst
  obtain ⟨-, -, rfl⟩ := run_eq_ok_iff.1 hSecond
  have hValues := built_binds ⟨.map entries, guard, name, label⟩ hSubject
  have hAgree := (consistent_iff_pairwise hValues).1
    ((consistentFrom_iff hBound hValues).1 hConsistent).1
  show (c.bindings.keepAll _).Alike (c.bindings.keepAll _)
  rw [Bindings.keepAll_eq_join, Bindings.keepAll_eq_join]
  exact (Bindings.alike_ofAssignments_of_perm (binds_map_perm hPerm) hAgree).join c.bindings

/-- A name for anything, under two keys, and another name under the first of them again. -/
def sharedEntries : List (MapKey × Pattern) :=
  [(.required (.string "a"), ⟨.predicate fun _ => true, none, some "x", "_"⟩),
    (.optional (.string "b"), ⟨.predicate fun _ => true, none, some "x", "_"⟩),
    (.required (.string "a"), ⟨.predicate fun _ => true, none, some "y", "_"⟩)]

/-- A map with an integer and a floating-point number that equal each other, where a name is bound
to something that is not a number. -/
def withEqualNumbers : Context :=
  ⟨⟨.map (Dict.ofList [(.string "a", .integer 1), (.string "b", .float (.ofInt 1))]), none⟩, [],
    ⟨[("z", .float .nan)]⟩⟩

theorem run_map_perm_sharedEntries :
    (sharedEntries.Perm sharedEntries.reverse ∧ withEqualNumbers.current.Built ∧
      withEqualNumbers.bindings.Built) ∧
    ∃ c₁ c₂, run ⟨.map sharedEntries, none, none, ""⟩ withEqualNumbers = (.ok (), c₁) ∧
      run ⟨.map sharedEntries.reverse, none, none, ""⟩ withEqualNumbers = (.ok (), c₂) ∧
      c₁.bindings.Alike c₂.bindings := by
  have hPerm : sharedEntries.Perm sharedEntries.reverse := (List.reverse_perm _).symm
  have hSubject : withEqualNumbers.current.Built :=
    Value.Built.ofList (by simp [Value.Built.string, Value.Built.integer, Value.Built.float])
  have hBound : withEqualNumbers.bindings.Built := by
    simp [Bindings.Built, withEqualNumbers, Value.Built.float]
  have hOk : (run ⟨.map sharedEntries, none, none, ""⟩ withEqualNumbers).1.isOk = true := by
    decide +kernel
  obtain ⟨hBoth, hAlike⟩ := run_map_perm none none "" "" hPerm hSubject hBound
  rcases hFirst : run ⟨.map sharedEntries, none, none, ""⟩ withEqualNumbers with ⟨_ | _, c₁⟩
  · simp [hFirst, Except.isOk, Except.toBool] at hOk
  · have hReordered := hBoth.1 (by rw [hFirst])
    rcases hSecond : run ⟨.map sharedEntries.reverse, none, none, ""⟩ withEqualNumbers with
      ⟨_ | _, c₂⟩
    · simp [hSecond] at hReordered
    · exact ⟨⟨hPerm, hSubject, hBound⟩, c₁, c₂, rfl, rfl, hAlike c₁ c₂ hFirst hSecond⟩

end Pattern

end CaseMatch
