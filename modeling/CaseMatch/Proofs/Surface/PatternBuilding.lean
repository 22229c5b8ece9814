import CaseMatch.Proofs.Surface.PatternGrammar

/-!
What the items of an array and the entries of a map make once they are read. Items make a pattern if
no star stands before any but the last of them, and entries if no star stands before any of their
values; the pattern is that of the tree.
-/

namespace CaseMatch

namespace Surface

/-- What an item is read as: what gives the pattern of its tree, or the tail that its star makes. -/
def Builds : Template → ItemTree → Prop
  | t, .plain f => t.Gives f.pattern
  | t, .starred each rest => t = .tail (.ofRest each.pattern rest)

/-- What an entry is read as, under the same key. -/
def BuildsEntry (e : MapKey × Template) (x : MapKey × ItemTree) : Prop :=
  e.1 = x.1 ∧ Builds e.2 x.2

/-- Items have no star, or a first one. -/
theorem items_cases (xs : List ItemTree) : (∃ fs : List PatternTree, xs = fs.map .plain) ∨
    ∃ (fs : List PatternTree) (each : PatternTree) (rest : Option String) (more : List ItemTree),
      xs = fs.map .plain ++ .starred each rest :: more := by
  induction xs with
  | nil => exact .inl ⟨[], rfl⟩
  | cons x xs ih =>
      cases x with
      | starred each rest => exact .inr ⟨[], each, rest, xs, rfl⟩
      | plain f =>
          rcases ih with ⟨fs, rfl⟩ | ⟨fs, each, rest, more, rfl⟩
          · exact .inl ⟨f :: fs, rfl⟩
          · exact .inr ⟨f :: fs, each, rest, more, rfl⟩

/-- Entries have no star, or a first one. -/
theorem entries_cases (xs : List (MapKey × ItemTree)) :
    (∃ fs : List (MapKey × PatternTree), xs = fs.map fun e => (e.1, .plain e.2)) ∨
      ∃ (fs : List (MapKey × PatternTree)) (key : MapKey) (each : PatternTree)
        (rest : Option String) (more : List (MapKey × ItemTree)),
        xs = (fs.map fun e => (e.1, .plain e.2)) ++ (key, .starred each rest) :: more := by
  induction xs with
  | nil => exact .inl ⟨[], rfl⟩
  | cons x xs ih =>
      obtain ⟨key, x⟩ := x
      cases x with
      | starred each rest => exact .inr ⟨[], key, each, rest, xs, rfl⟩
      | plain f =>
          rcases ih with ⟨fs, rfl⟩ | ⟨fs, key', each, rest, more, rfl⟩
          · exact .inl ⟨(key, f) :: fs, rfl⟩
          · exact .inr ⟨(key, f) :: fs, key', each, rest, more, rfl⟩

/-- The element of an array pattern that an item is. -/
def ItemTree.element : ItemTree → Element
  | .plain f => .pattern f.pattern
  | .starred each rest => .tail (.ofRest each.pattern rest)

/-- The elements that items make are those of their trees. -/
theorem toElements_of_builds {ts : List Template} {xs : List ItemTree}
    (h : List.Forall₂ Builds ts xs) : Template.toElements ts = .ok (xs.map ItemTree.element) := by
  induction h with
  | nil => rfl
  | @cons t x ts xs hBuilds _ ih =>
      cases x with
      | plain f =>
          have hGives : t.Gives f.pattern := hBuilds
          rw [Template.toElements_cons hGives, ih]
          rfl
      | starred each rest =>
          obtain rfl : t = .tail (.ofRest each.pattern rest) := hBuilds
          rw [Template.toElements, ih]
          rfl

/-- An array is put together from the elements of its trees. -/
theorem toPattern_array_of_builds {ts : List Template} {xs : List ItemTree}
    (h : List.Forall₂ Builds ts xs) :
    (Template.array ts).toPattern = Pattern.ofElements (xs.map ItemTree.element) := by
  rw [Template.toPattern, toElements_of_builds h]
  rfl

theorem map_element_plain (fs : List PatternTree) :
    (fs.map ItemTree.plain).map ItemTree.element =
      (PatternTree.patterns fs).map Element.pattern := by
  rw [PatternTree.patterns_eq_map, List.map_map, List.map_map]
  rfl

section items

variable {ts : List Template} {fs : List PatternTree} {each : PatternTree} {rest : Option String}

/-- Items without a star make an array of as many items. -/
theorem gives_of_plain (h : List.Forall₂ Builds ts (fs.map .plain)) :
    (Template.array ts).Gives (PatternTree.array fs).pattern := by
  rw [Template.Gives, toPattern_array_of_builds h, map_element_plain, Pattern.ofElements,
    splitTail_map_pattern]
  rfl

/-- A star before the last item makes an array that is open at its end. -/
theorem gives_of_open (h : List.Forall₂ Builds ts (fs.map .plain ++ [.starred each rest])) :
    (Template.array ts).Gives (PatternTree.openArray fs each rest).pattern := by
  rw [Template.Gives, toPattern_array_of_builds h, List.map_append, map_element_plain,
    Pattern.ofElements, List.map_singleton, ItemTree.element, splitTail_append_tail]
  rfl

/-- A star before an item that is not the last makes an array that is no pattern. -/
theorem refuses_misplaced {x : ItemTree} {more : List ItemTree}
    (h : List.Forall₂ Builds ts (fs.map .plain ++ .starred each rest :: x :: more)) :
    (Template.array ts).toPattern = .error (.tailNotLast (.ofRest each.pattern rest) fs.length
      (fs.length + (more.length + 2))) := by
  rw [toPattern_array_of_builds h, List.map_append, map_element_plain, Pattern.ofElements,
    List.map_cons, ItemTree.element, splitTail_append_tail, PatternTree.patterns_eq_map]
  simp [Except.map]

/-- Items that make a pattern have no star but before the last of them. -/
theorem exists_array_of_gives {xs : List ItemTree} {p : Pattern}
    (h : List.Forall₂ Builds ts xs) (hGives : (Template.array ts).Gives p) :
    (∃ fs : List PatternTree, xs = fs.map .plain ∧ p = (PatternTree.array fs).pattern) ∨
      ∃ (fs : List PatternTree) (each : PatternTree) (rest : Option String),
        xs = fs.map .plain ++ [.starred each rest] ∧
          p = (PatternTree.openArray fs each rest).pattern := by
  rcases items_cases xs with ⟨fs, rfl⟩ | ⟨fs, each, rest, more, rfl⟩
  · exact .inl ⟨fs, rfl, Except.ok.inj (hGives.symm.trans (gives_of_plain h))⟩
  · cases more with
    | nil =>
        exact .inr ⟨fs, each, rest, rfl, Except.ok.inj (hGives.symm.trans (gives_of_open h))⟩
    | cons x more => cases hGives.symm.trans (refuses_misplaced h)

end items

section entries

variable {es : List (MapKey × Template)} {fs : List (MapKey × PatternTree)}

/-- Entries without a star make a map of their keys and patterns. -/
theorem gives_of_entries (h : List.Forall₂ BuildsEntry es (fs.map fun e => (e.1, .plain e.2))) :
    (Template.map es).Gives (PatternTree.map fs).pattern := by
  rw [PatternTree.pattern, PatternTree.entryPatterns_eq_map]
  refine Template.gives_map ?_
  rw [List.forall₂_map_right_iff] at h ⊢
  exact h

/-- A star before a value of a map makes a map that is no pattern. -/
theorem refuses_entries {key : MapKey} {each : PatternTree} {rest : Option String}
    {more : List (MapKey × ItemTree)}
    (h : List.Forall₂ BuildsEntry es
      ((fs.map fun e => (e.1, .plain e.2)) ++ (key, .starred each rest) :: more)) :
    (Template.map es).toPattern = .error (.tailOutsideArray (.ofRest each.pattern rest)) := by
  have hEntries : Template.toEntries es =
      .error (.tailOutsideArray (.ofRest each.pattern rest)) := by
    induction fs generalizing es with
    | nil =>
        cases h with
        | @cons e _ es _ hBuilds _ =>
            obtain ⟨key', t⟩ := e
            obtain ⟨-, rfl⟩ : key' = key ∧ t = .tail (.ofRest each.pattern rest) := hBuilds
            rfl
    | cons f fs ih =>
        cases h with
        | @cons e _ es _ hBuilds hRest =>
            obtain ⟨key', t⟩ := e
            obtain ⟨-, hGives⟩ : key' = f.1 ∧ t.Gives f.2.pattern := hBuilds
            rw [Template.toEntries_cons hGives, ih hRest]
            rfl
  rw [Template.toPattern, hEntries]
  rfl

/-- Entries that make a pattern have no star. -/
theorem exists_map_of_gives {xs : List (MapKey × ItemTree)} {p : Pattern}
    (h : List.Forall₂ BuildsEntry es xs) (hGives : (Template.map es).Gives p) :
    ∃ fs : List (MapKey × PatternTree), xs = (fs.map fun e => (e.1, .plain e.2)) ∧
      p = (PatternTree.map fs).pattern := by
  rcases entries_cases xs with ⟨fs, rfl⟩ | ⟨fs, key, each, rest, more, rfl⟩
  · exact ⟨fs, rfl, Except.ok.inj (hGives.symm.trans (gives_of_entries h))⟩
  · cases hGives.symm.trans (refuses_entries h)

end entries

end Surface

end CaseMatch
