import CaseMatch.Proofs.Pattern.Variables

/-!
Patterns whose names are given by `named`. What is put together from such patterns is such a pattern
again, as long as further names are given by `named` too.
-/

namespace CaseMatch

open Surface (bind_eq_ok_iff)

theorem map_eq_ok_iff {ε α β : Type} {x : Except ε α} {f : α → β} {b : β} :
    x.map f = .ok b ↔ ∃ a, x = .ok a ∧ f a = b := by
  cases x <;> simp [Except.map]

theorem map_eq_error_iff {ε α β : Type} {x : Except ε α} {f : α → β} {e : ε} :
    x.map f = .error e ↔ x = .error e := by
  cases x <;> simp [Except.map]

/-- All names in a tail are given, those in its items and its own. -/
structure TailPattern.NamesGiven (t : TailPattern) : Prop where
  each : t.each.NamesGiven
  name : ∀ name ∈ t.name, ∃ given, variableName given = .ok name

namespace Pattern

/-! ### Variables of the parts -/

/-- The variables of a pattern without a name of its own are those of its matcher. -/
theorem occurrences_ofMatcher (matcher : Matcher Pattern) (label : String) :
    (ofMatcher matcher label).occurrences = matcherOccurrences matcher :=
  List.append_nil _

theorem elementOccurrences_eq_flatMap (ps : List Pattern) :
    elementOccurrences ps = ps.flatMap occurrences := by
  induction ps with
  | nil => rfl
  | cons p ps ih => rw [elementOccurrences, ih, List.flatMap_cons]

/-- A variable that has become doubtful has kept its name. -/
theorem exists_of_mem_doubtful {p : Pattern} {o : Occurrence}
    (h : o ∈ p.occurrences.map .doubtful) : ∃ inner ∈ p.occurrences, inner.name = o.name := by
  obtain ⟨inner, hInner, rfl⟩ := List.mem_map.1 h
  exact ⟨inner, hInner, rfl⟩

/-- A variable of a map pattern has the name of one in some entry. -/
theorem exists_of_mem_entryOccurrences {entries : List (MapKey × Pattern)} {o : Occurrence}
    (h : o ∈ entryOccurrences entries) :
    ∃ e ∈ entries, ∃ inner ∈ e.2.occurrences, inner.name = o.name := by
  induction entries with
  | nil => cases h
  | cons e entries ih =>
      obtain ⟨key, p⟩ := e
      have hRest (hRest : o ∈ entryOccurrences entries) :
          ∃ e ∈ (key, p) :: entries, ∃ inner ∈ e.2.occurrences, inner.name = o.name := by
        obtain ⟨e, he, hInner⟩ := ih hRest
        exact ⟨e, List.mem_cons_of_mem _ he, hInner⟩
      cases key with
      | required key =>
          rcases List.mem_append.1 h with hFirst | hLater
          · exact ⟨_, List.mem_cons_self, o, hFirst, rfl⟩
          · exact hRest hLater
      | optional key =>
          rcases List.mem_append.1 h with hFirst | hLater
          · exact ⟨_, List.mem_cons_self, exists_of_mem_doubtful hFirst⟩
          · exact hRest hLater

/-- A variable of a tail has a given name, be it that of the tail or of its pattern. -/
theorem exists_of_mem_tailOccurrences {fixed : Nat} {tail : TailPattern} (h : tail.NamesGiven)
    {o : Occurrence} (ho : o ∈ tailOccurrences fixed (some tail)) :
    ∃ given, variableName given = .ok o.name := by
  obtain ⟨each, guard, name⟩ := tail
  rcases List.mem_append.1 ho with ho | ho
  · obtain ⟨inner, hInner, hSame⟩ := exists_of_mem_doubtful ho
    exact hSame ▸ h.each inner hInner
  · cases name with
    | none => cases ho
    | some name =>
        obtain rfl := List.mem_singleton.1 ho
        exact h.name name rfl

/-! ### Patterns that are put together -/

/-- A predicate has no variables, so that all its names are given. -/
theorem namesGiven_ofPredicate (label : String) (accepts : Value → Bool) :
    (ofPredicate label accepts).NamesGiven :=
  nofun

theorem NamesGiven.nested {p : Pattern} (h : p.NamesGiven) : p.nested.NamesGiven := by
  intro o ho
  rw [Pattern.nested, occurrences_ofMatcher] at ho
  exact h o ho

/-- `named` gives a name, whatever name a pattern had. -/
theorem NamesGiven.named {p q : Pattern} (h : p.NamesGiven) {given : String}
    (hNamed : p.named given = .ok q) : q.NamesGiven := by
  obtain ⟨matcher, guard, own, label⟩ := p
  obtain ⟨name, hName, rfl⟩ := map_eq_ok_iff.1 hNamed
  intro o ho
  rcases List.mem_append.1 ho with ho | ho
  · exact h o (List.mem_append_left _ ho)
  · obtain rfl := List.mem_singleton.1 ho
    exact ⟨given, hName⟩

/-- The names of an array pattern are given if those of its elements and of its tail are. -/
theorem namesGiven_array {ps : List Pattern} {tail : Option TailPattern}
    (h : ∀ p ∈ ps, p.NamesGiven) (hTail : ∀ t ∈ tail, t.NamesGiven) (label : String) :
    (ofMatcher (.array ps tail) label).NamesGiven := by
  intro o ho
  rw [occurrences_ofMatcher, matcherOccurrences, elementOccurrences_eq_flatMap] at ho
  rcases List.mem_append.1 ho with ho | ho
  · obtain ⟨p, hp, ho⟩ := List.mem_flatMap.1 ho
    exact h p hp o ho
  · cases tail with
    | none => cases ho
    | some tail => exact exists_of_mem_tailOccurrences (hTail tail rfl) ho

/-- The names of a map pattern are given if those of its entries are. -/
theorem namesGiven_ofEntries {entries : List (MapKey × Pattern)}
    (h : ∀ e ∈ entries, e.2.NamesGiven) : (ofEntries entries).NamesGiven := by
  intro o ho
  rw [ofEntries, occurrences_ofMatcher] at ho
  obtain ⟨e, he, inner, hInner, hSame⟩ := exists_of_mem_entryOccurrences ho
  exact hSame ▸ h e he inner hInner

end Pattern

theorem TailPattern.namesGiven_ofPattern {each : Pattern} (h : each.NamesGiven) :
    (ofPattern each).NamesGiven :=
  ⟨h, nofun⟩

/-- Naming a tail gives it a name, whatever name it had. -/
theorem TailPattern.NamesGiven.named {t u : TailPattern} (h : t.NamesGiven) {given : String}
    (hNamed : t.named given = .ok u) : u.NamesGiven := by
  obtain ⟨name, hName, rfl⟩ := map_eq_ok_iff.1 hNamed
  refine ⟨h.each, fun other hOther => ?_⟩
  obtain rfl := Option.mem_some_iff.1 hOther
  exact ⟨given, hName⟩

/-! ### Templates -/

/-- All names in an item of an array pattern are given. -/
def Element.NamesGiven : Element → Prop
  | .pattern p => p.NamesGiven
  | .tail t => t.NamesGiven

/-- Sorting out the tail leaves all names given. -/
theorem namesGiven_of_splitTail {position count : Nat} {elements : List Element}
    (h : ∀ e ∈ elements, e.NamesGiven) {ps : List Pattern} {tail : Option TailPattern}
    (hSplit : splitTail position count elements = .ok (ps, tail)) :
    (∀ p ∈ ps, p.NamesGiven) ∧ ∀ t ∈ tail, t.NamesGiven := by
  induction elements generalizing position ps with
  | nil =>
      cases hSplit
      exact ⟨nofun, nofun⟩
  | cons e rest ih =>
      rw [List.forall_mem_cons] at h
      cases e with
      | pattern p =>
          obtain ⟨⟨others, last⟩, hRest, hParts⟩ := map_eq_ok_iff.1 hSplit
          cases hParts
          obtain ⟨hOthers, hTail⟩ := ih h.2 hRest
          exact ⟨List.forall_mem_cons.2 ⟨h.1, hOthers⟩, hTail⟩
      | tail t =>
          rw [splitTail] at hSplit
          split at hSplit
          · cases hSplit
            refine ⟨nofun, fun last hLast => ?_⟩
            obtain rfl := Option.mem_some_iff.1 hLast
            exact h.1
          · cases hSplit

/-- The pattern of items whose names are given has its names given. -/
theorem Pattern.namesGiven_ofElements {elements : List Element}
    (h : ∀ e ∈ elements, e.NamesGiven) {p : Pattern} (hPattern : ofElements elements = .ok p) :
    p.NamesGiven := by
  obtain ⟨⟨ps, tail⟩, hSplit, rfl⟩ := map_eq_ok_iff.1 hPattern
  obtain ⟨hParts, hTail⟩ := namesGiven_of_splitTail h hSplit
  exact namesGiven_array hParts hTail _

namespace Template

/-- All names are given in the patterns and tails that stand in a template. -/
inductive NamesGiven : Template → Prop where
  | pattern {p : Pattern} (given : p.NamesGiven) : NamesGiven (.pattern p)
  | tail {t : TailPattern} (given : t.NamesGiven) : NamesGiven (.tail t)
  | regex (r : Regex) : NamesGiven (.regex r)
  | array {items : List Template} (given : ∀ t ∈ items, NamesGiven t) : NamesGiven (.array items)
  | range (r : NumberRange) : NamesGiven (.range r)
  | set (members : List Int64) : NamesGiven (.set members)
  | map {entries : List (MapKey × Template)} (given : ∀ e ∈ entries, NamesGiven e.2) :
      NamesGiven (.map entries)
  | kind (k : Kind) : NamesGiven (.kind k)
  | literal (v : Value) : NamesGiven (.literal v)

/-- The elements that items stand for have given names, if the items and what they stand for
have. -/
theorem namesGiven_of_toElements {items : List Template} (h : ∀ t ∈ items, t.NamesGiven)
    (hParts : ∀ t ∈ items, ∀ p, t.toPattern = .ok p → p.NamesGiven) {elements : List Element}
    (hElements : toElements items = .ok elements) : ∀ e ∈ elements, e.NamesGiven := by
  induction items generalizing elements with
  | nil =>
      cases hElements
      exact nofun
  | cons t rest ih =>
      rw [List.forall_mem_cons] at h hParts
      rcases toElements_cases t rest with ⟨tail, rfl⟩ | hCons
      · obtain ⟨others, hOthers, hElement⟩ := bind_eq_ok_iff.1 hElements
        cases hElement
        have hTail : tail.NamesGiven := by
          cases h.1
          assumption
        exact List.forall_mem_cons.2 ⟨hTail, ih h.2 hParts.2 hOthers⟩
      · rw [hCons] at hElements
        obtain ⟨p, hPattern, hRest⟩ := bind_eq_ok_iff.1 hElements
        obtain ⟨others, hOthers, hElement⟩ := bind_eq_ok_iff.1 hRest
        cases hElement
        exact List.forall_mem_cons.2 ⟨hParts.1 p hPattern, ih h.2 hParts.2 hOthers⟩

/-- The entries that values stand for have given names, if what the values stand for has. -/
theorem namesGiven_of_toEntries {items : List (MapKey × Template)}
    (hParts : ∀ e ∈ items, ∀ p, e.2.toPattern = .ok p → p.NamesGiven)
    {entries : List (MapKey × Pattern)} (hEntries : toEntries items = .ok entries) :
    ∀ e ∈ entries, e.2.NamesGiven := by
  induction items generalizing entries with
  | nil =>
      cases hEntries
      exact nofun
  | cons e rest ih =>
      obtain ⟨key, t⟩ := e
      rw [List.forall_mem_cons] at hParts
      obtain ⟨p, hPattern, hRest⟩ := bind_eq_ok_iff.1 hEntries
      obtain ⟨others, hOthers, hEntry⟩ := bind_eq_ok_iff.1 hRest
      cases hEntry
      exact List.forall_mem_cons.2 ⟨hParts.1 p hPattern, ih hParts.2 hOthers⟩

/-- The pattern that a template stands for has its names given if the patterns and tails in the
template have. -/
theorem NamesGiven.toPattern {t : Template} (h : t.NamesGiven) {p : Pattern}
    (hPattern : t.toPattern = .ok p) : p.NamesGiven := by
  induction h generalizing p with
  | pattern given =>
      cases hPattern
      exact given
  | tail given => cases hPattern
  | array given ih =>
      obtain ⟨elements, hElements, hArray⟩ := bind_eq_ok_iff.1 hPattern
      exact Pattern.namesGiven_ofElements
        (namesGiven_of_toElements given (fun t ht p => ih t ht) hElements) hArray
  | map given ih =>
      obtain ⟨entries, hEntries, hMap⟩ := bind_eq_ok_iff.1 hPattern
      cases hMap
      exact Pattern.namesGiven_ofEntries (namesGiven_of_toEntries (fun e he p => ih e he) hEntries)
  | _ =>
      cases hPattern
      exact Pattern.namesGiven_ofPredicate _ _

/-- A name that is put around what a template stands for is given too. -/
theorem NamesGiven.bind {t : Template} (h : t.NamesGiven) {name : String} {p : Pattern}
    (hBind : t.bind name = .ok p) : p.NamesGiven := by
  obtain ⟨inner, hInner, hNamed⟩ := bind_eq_ok_iff.1 hBind
  exact (h.toPattern hInner).nested.named hNamed

end Template

end CaseMatch
