import CaseMatch.Proofs.Pattern.GivenNames

/-!
Where tails stand in a template. A template stands for a pattern exactly if each tail in it is the
last item of an array, however deep. If one is not, the refusal is about such a tail. The pattern
has the parts of the template, each in its place and none besides.
-/

namespace CaseMatch

open Surface (bind_eq_ok_iff bind_eq_error_iff)

/-- What is related to a list put together from two is put together from what is related to
them. -/
theorem exists_append_of_forall₂ {α β : Type} {R : α → β → Prop} {xs : List α} {ys zs : List β}
    (h : List.Forall₂ R xs (ys ++ zs)) :
    ∃ us vs, xs = us ++ vs ∧ List.Forall₂ R us ys ∧ List.Forall₂ R vs zs :=
  ⟨_, _, (List.take_append_drop ys.length xs).symm, List.forall₂_take_append _ _ _ h,
    List.forall₂_drop_append _ _ _ h⟩

theorem exists_of_forall₂ {α β : Type} {R : α → β → Prop} {xs : List α} {ys : List β}
    (h : List.Forall₂ R xs ys) : ∀ x ∈ xs, ∃ y, R x y := by
  induction h with
  | nil => exact nofun
  | cons head _ ih => exact List.forall_mem_cons.2 ⟨⟨_, head⟩, ih⟩

/-! ### Items of an array pattern -/

/-- Items have no tail, or a first one. -/
theorem elements_cases (elements : List Element) :
    (∃ ps : List Pattern, elements = ps.map .pattern) ∨
      ∃ (ps : List Pattern) (tail : TailPattern) (more : List Element),
        elements = ps.map .pattern ++ .tail tail :: more := by
  induction elements with
  | nil => exact .inl ⟨[], rfl⟩
  | cons element elements ih =>
      cases element with
      | tail tail => exact .inr ⟨[], tail, elements, rfl⟩
      | pattern p =>
          rcases ih with ⟨ps, rfl⟩ | ⟨ps, tail, more, rfl⟩
          · exact .inl ⟨p :: ps, rfl⟩
          · exact .inr ⟨p :: ps, tail, more, rfl⟩

section split

variable {position count : Nat} {elements : List Element} {ps : List Pattern}
  {tail : Option TailPattern}

/-- Items are sorted if they are fixed elements with at most a tail behind them. -/
theorem splitTail_eq_ok_iff : splitTail position count elements = .ok (ps, tail) ↔
    elements = ps.map .pattern ++ tail.toList.map .tail := by
  constructor
  · intro hSplit
    rcases elements_cases elements with ⟨qs, rfl⟩ | ⟨qs, last, more, rfl⟩
    · rw [splitTail_map_pattern] at hSplit
      cases hSplit
      simp
    · rw [splitTail_append_tail] at hSplit
      split at hSplit
      next hMore =>
        cases hSplit
        simpa using hMore
      next => cases hSplit
  · rintro rfl
    cases tail with
    | none => simpa using splitTail_map_pattern position count ps
    | some last => simpa using splitTail_append_tail position count ps last []

/-- Items that are not sorted have something behind their first tail. -/
theorem exists_of_splitTail_eq_error {e : PatternError}
    (hSplit : splitTail position count elements = .error e) :
    ∃ (ps : List Pattern) (tail : TailPattern) (more : List Element),
      elements = ps.map .pattern ++ .tail tail :: more ∧ more ≠ [] ∧
        e = .tailNotLast tail (position + ps.length) count := by
  rcases elements_cases elements with ⟨qs, rfl⟩ | ⟨qs, last, more, rfl⟩
  · rw [splitTail_map_pattern] at hSplit
    cases hSplit
  · rw [splitTail_append_tail] at hSplit
    split at hSplit
    next => cases hSplit
    next hMore =>
      cases hSplit
      exact ⟨qs, last, more, rfl, by simpa using hMore, rfl⟩

end split

namespace Template

/-- Induction over a template with its parts. -/
@[elab_as_elim, induction_eliminator]
theorem induction {motive : Template → Prop}
    (pattern : ∀ p, motive (.pattern p)) (tail : ∀ t, motive (.tail t))
    (regex : ∀ r, motive (.regex r))
    (array : ∀ items, (∀ t ∈ items, motive t) → motive (.array items))
    (range : ∀ r, motive (.range r)) (set : ∀ members, motive (.set members))
    (map : ∀ entries, (∀ e ∈ entries, motive e.2) → motive (.map entries))
    (kind : ∀ k, motive (.kind k)) (literal : ∀ v, motive (.literal v)) : ∀ t, motive t := fun t =>
  @Template.rec motive (fun items => ∀ t ∈ items, motive t)
    (fun entries => ∀ e ∈ entries, motive e.2) (fun e => motive e.2)
    pattern tail regex array range set map kind literal
    (fun _ h => nomatch h)
    (fun _ _ hHead hTail => List.forall_mem_cons.2 ⟨hHead, hTail⟩)
    (fun _ h => nomatch h)
    (fun _ _ hHead hTail => List.forall_mem_cons.2 ⟨hHead, hTail⟩)
    (fun _ _ hTemplate => hTemplate)
    t

/-! ### What a template stands for, one layer at a time -/

/-- What an item of an array is as an element. A tail stays the tail that it is. -/
inductive GivesElement : Template → Element → Prop where
  | tail (t : TailPattern) : GivesElement (.tail t) (.tail t)
  | pattern {t : Template} {p : Pattern} (gives : t.Gives p) : GivesElement t (.pattern p)

/-- An item is a fixed element if it stands for a pattern. -/
theorem givesElement_pattern_iff {t : Template} {p : Pattern} :
    t.GivesElement (.pattern p) ↔ t.Gives p := by
  constructor
  · intro h
    cases h
    assumption
  · exact .pattern

/-- An item is a tail as an element only if it is that tail. -/
theorem givesElement_tail_iff {t : Template} {tail : TailPattern} :
    t.GivesElement (.tail tail) ↔ t = .tail tail := by
  constructor
  · intro h
    cases h
    rfl
  · rintro rfl
    exact .tail tail

theorem not_gives_tail {tail : TailPattern} {p : Pattern} : ¬(Template.tail tail).Gives p := by
  intro h
  cases h

/-- Items are made into elements one by one. -/
theorem toElements_eq_ok_iff {ts : List Template} {elements : List Element} :
    toElements ts = .ok elements ↔ List.Forall₂ GivesElement ts elements := by
  induction ts generalizing elements with
  | nil => simp [toElements, eq_comm]
  | cons t ts ih =>
      constructor
      · intro hElements
        rcases toElements_cases t ts with ⟨tail, rfl⟩ | hCons
        · obtain ⟨others, hOthers, hElement⟩ := bind_eq_ok_iff.1 hElements
          cases hElement
          exact .cons (.tail tail) (ih.1 hOthers)
        · rw [hCons] at hElements
          obtain ⟨p, hPattern, hRest⟩ := bind_eq_ok_iff.1 hElements
          obtain ⟨others, hOthers, hElement⟩ := bind_eq_ok_iff.1 hRest
          cases hElement
          exact .cons (.pattern hPattern) (ih.1 hOthers)
      · rintro (_ | ⟨head, others⟩)
        cases head with
        | tail tail =>
            rw [toElements, ih.2 others]
            rfl
        | pattern gives =>
            rw [toElements_cons gives, ih.2 others]
            rfl

/-- Entries are made into those of a pattern one by one, under their keys. -/
theorem toEntries_eq_ok_iff {es : List (MapKey × Template)} {fs : List (MapKey × Pattern)} :
    toEntries es = .ok fs ↔ List.Forall₂ GivesEntry es fs := by
  constructor
  · intro hEntries
    induction es generalizing fs with
    | nil =>
        cases hEntries
        exact .nil
    | cons e es ih =>
        obtain ⟨key, t⟩ := e
        obtain ⟨p, hPattern, hRest⟩ := bind_eq_ok_iff.1 hEntries
        obtain ⟨others, hOthers, hEntry⟩ := bind_eq_ok_iff.1 hRest
        cases hEntry
        exact .cons ⟨rfl, hPattern⟩ (ih hOthers)
  · exact toEntries_of_gives

/-- An array stands for a pattern if its items do, but for a tail that may be the last of them. -/
theorem gives_array_iff {items : List Template} {p : Pattern} :
    (array items).Gives p ↔ ∃ (fixed : List Template) (ps : List Pattern)
      (tail : Option TailPattern), items = fixed ++ tail.toList.map .tail ∧
        List.Forall₂ Gives fixed ps ∧ p = .ofMatcher (.array ps tail) (arrayText ps tail) := by
  constructor
  · intro hArray
    obtain ⟨elements, hElements, hPattern⟩ := bind_eq_ok_iff.1 hArray
    obtain ⟨⟨ps, tail⟩, hSplit, rfl⟩ := map_eq_ok_iff.1 hPattern
    rw [toElements_eq_ok_iff, splitTail_eq_ok_iff.1 hSplit] at hElements
    obtain ⟨fixed, last, rfl, hFixed, hTail⟩ := exists_append_of_forall₂ hElements
    simp only [List.forall₂_map_right_iff, givesElement_pattern_iff] at hFixed
    have hLast : List.Forall₂ Eq last (tail.toList.map .tail) := by
      simpa only [List.forall₂_map_right_iff, givesElement_tail_iff] using hTail
    rw [List.forall₂_eq_eq_eq] at hLast
    exact ⟨fixed, ps, tail, by rw [hLast], hFixed, rfl⟩
  · rintro ⟨fixed, ps, tail, rfl, hFixed, rfl⟩
    have hElements : toElements (fixed ++ tail.toList.map .tail) =
        .ok (ps.map .pattern ++ tail.toList.map .tail) := by
      rw [toElements_eq_ok_iff]
      refine List.rel_append ?_ ?_
      · simpa [givesElement_pattern_iff] using hFixed
      · simp [givesElement_tail_iff]
    rw [Gives, toPattern, hElements]
    exact map_eq_ok_iff.2 ⟨(ps, tail), splitTail_eq_ok_iff.2 rfl, rfl⟩

/-- A map stands for a pattern if its values do. -/
theorem gives_map_iff {es : List (MapKey × Template)} {p : Pattern} :
    (map es).Gives p ↔ ∃ fs, List.Forall₂ GivesEntry es fs ∧
      p = .ofMatcher (.map fs) (mapText fs) := by
  constructor
  · intro hMap
    obtain ⟨fs, hEntries, hPattern⟩ := bind_eq_ok_iff.1 hMap
    cases hPattern
    exact ⟨fs, toEntries_eq_ok_iff.1 hEntries, rfl⟩
  · rintro ⟨fs, hEntries, rfl⟩
    exact gives_map hEntries

/-- Items that are no elements have one among them that stands for no pattern. -/
theorem exists_of_toElements_eq_error {ts : List Template} {e : PatternError}
    (hElements : toElements ts = .error e) :
    ∃ t ∈ ts, (∀ tail, t ≠ .tail tail) ∧ t.toPattern = .error e := by
  induction ts with
  | nil => cases hElements
  | cons t ts ih =>
      have hLater (hRest : toElements ts = .error e) : ∃ u ∈ t :: ts, (∀ tail, u ≠ .tail tail) ∧
          u.toPattern = .error e := by
        obtain ⟨u, hu, hError⟩ := ih hRest
        exact ⟨u, List.mem_cons_of_mem _ hu, hError⟩
      by_cases hTail : ∃ tail, t = .tail tail
      · obtain ⟨tail, rfl⟩ := hTail
        rcases bind_eq_error_iff.1 hElements with hRest | ⟨others, -, hElement⟩
        · exact hLater hRest
        · cases hElement
      · rw [(toElements_cases t ts).resolve_left hTail] at hElements
        rcases bind_eq_error_iff.1 hElements with hError | ⟨p, -, hRest⟩
        · exact ⟨t, List.mem_cons_self, not_exists.1 hTail, hError⟩
        · rcases bind_eq_error_iff.1 hRest with hRest | ⟨others, -, hElement⟩
          · exact hLater hRest
          · cases hElement

/-- Entries that are refused have one among them whose value is. -/
theorem exists_of_toEntries_eq_error {es : List (MapKey × Template)} {e : PatternError}
    (hEntries : toEntries es = .error e) : ∃ x ∈ es, x.2.toPattern = .error e := by
  induction es with
  | nil => cases hEntries
  | cons x es ih =>
      obtain ⟨key, t⟩ := x
      rcases bind_eq_error_iff.1 hEntries with hError | ⟨p, -, hRest⟩
      · exact ⟨_, List.mem_cons_self, hError⟩
      · rcases bind_eq_error_iff.1 hRest with hRest | ⟨others, -, hEntry⟩
        · obtain ⟨x, hx, hError⟩ := ih hRest
          exact ⟨x, List.mem_cons_of_mem _ hx, hError⟩
        · cases hEntry

/-! ### The tails of a template -/

/-- What can be reached from a template through items of arrays and values of maps. -/
inductive Reaches : Template → Template → Prop where
  | refl (t : Template) : Reaches t t
  | item {items : List Template} {t part : Template} (member : t ∈ items)
      (further : Reaches t part) : Reaches (.array items) part
  | value {entries : List (MapKey × Template)} {e : MapKey × Template} {part : Template}
      (member : e ∈ entries) (further : Reaches e.2 part) : Reaches (.map entries) part

/-- From an array its items are reached, and what is reached from them. -/
theorem reaches_array_iff {items : List Template} {part : Template} :
    Reaches (array items) part ↔ part = array items ∨ ∃ t ∈ items, Reaches t part := by
  constructor
  · rintro (_ | ⟨hItem, further⟩)
    · exact .inl rfl
    · exact .inr ⟨_, hItem, further⟩
  · rintro (rfl | ⟨t, hItem, further⟩)
    · exact .refl _
    · exact .item hItem further

/-- Each tail is the last item of an array. It is not the template itself, it is no value of a map
that is reached, and nothing stands behind it in an array that is reached. -/
structure TailsLast (t : Template) : Prop where
  root : ∀ tail, t ≠ .tail tail
  values : ∀ entries, Reaches t (.map entries) → ∀ e ∈ entries, ∀ tail, e.2 ≠ .tail tail
  items : ∀ before tail after, Reaches t (.array (before ++ .tail tail :: after)) → after = []

/-- A tail of the template that is not the last item of an array, with what is to be said of it. -/
inductive Misplaced (t : Template) : PatternError → Prop where
  | root {tail : TailPattern} (same : t = .tail tail) : Misplaced t (.tailOutsideArray tail)
  | value {entries : List (MapKey × Template)} {e : MapKey × Template} {tail : TailPattern}
      (reached : Reaches t (.map entries)) (member : e ∈ entries) (same : e.2 = .tail tail) :
      Misplaced t (.tailOutsideArray tail)
  | item {before after : List Template} {tail : TailPattern}
      (reached : Reaches t (.array (before ++ .tail tail :: after))) (notLast : after ≠ []) :
      Misplaced t (.tailNotLast tail before.length (before ++ .tail tail :: after).length)

/-- A misplaced tail is one that is not last. -/
theorem Misplaced.not_tailsLast {t : Template} {e : PatternError} (h : t.Misplaced e) :
    ¬t.TailsLast := by
  intro hLast
  cases h with
  | root same => exact hLast.root _ same
  | value reached member same => exact hLast.values _ reached _ member _ same
  | item reached notLast => exact notLast (hLast.items _ _ _ reached)

/-- What is misplaced in an item that is no tail is misplaced in the array. -/
theorem Misplaced.of_item {items : List Template} {t : Template} {e : PatternError}
    (h : t.Misplaced e) (hItem : t ∈ items) (hTail : ∀ tail, t ≠ .tail tail) :
    (array items).Misplaced e := by
  cases h with
  | root same => exact absurd same (hTail _)
  | value reached member same => exact .value (.item hItem reached) member same
  | item reached notLast => exact .item (.item hItem reached) notLast

/-- What is misplaced in a value is misplaced in the map. -/
theorem Misplaced.of_value {entries : List (MapKey × Template)} {x : MapKey × Template}
    {e : PatternError} (h : x.2.Misplaced e) (hEntry : x ∈ entries) :
    (map entries).Misplaced e := by
  cases h with
  | root same => exact .value (.refl _) hEntry same
  | value reached member same => exact .value (.value hEntry reached) member same
  | item reached notLast => exact .item (.value hEntry reached) notLast

/-- What is refused among the items of an array is a tail with items behind it. -/
theorem misplaced_of_splitTail {items : List Template} {elements : List Element}
    (hElements : List.Forall₂ GivesElement items elements) {e : PatternError}
    (hSplit : splitTail 0 elements.length elements = .error e) : (array items).Misplaced e := by
  obtain ⟨ps, tail, more, hParts, hMore, rfl⟩ := exists_of_splitTail_eq_error hSplit
  rw [← hElements.length_eq]
  rw [hParts] at hElements
  obtain ⟨before, behind, rfl, hBefore, hBehind⟩ := exists_append_of_forall₂ hElements
  obtain ⟨t, after, hTail, hAfter, rfl⟩ := List.forall₂_cons_right_iff.1 hBehind
  obtain rfl := givesElement_tail_iff.1 hTail
  have hPosition : 0 + ps.length = before.length := by simpa using hBefore.length_eq.symm
  rw [hPosition]
  refine .item (.refl _) ?_
  rintro rfl
  cases hAfter
  exact hMore rfl

/-- A template that stands for no pattern has a misplaced tail, and that is what is said. -/
theorem misplaced_of_error {t : Template} {e : PatternError} (hError : t.toPattern = .error e) :
    t.Misplaced e := by
  induction t with
  | tail tail =>
      cases hError
      exact .root rfl
  | array items ih =>
      rcases bind_eq_error_iff.1 hError with hItems | ⟨elements, hElements, hArray⟩
      · obtain ⟨t, hItem, hTail, hItemError⟩ := exists_of_toElements_eq_error hItems
        exact (ih t hItem hItemError).of_item hItem hTail
      · rw [toElements_eq_ok_iff] at hElements
        apply misplaced_of_splitTail hElements
        simpa [Pattern.ofElements, map_eq_error_iff] using hArray
  | map entries ih =>
      rcases bind_eq_error_iff.1 hError with hEntries | ⟨fs, -, hMap⟩
      · obtain ⟨x, hEntry, hEntryError⟩ := exists_of_toEntries_eq_error hEntries
        exact (ih x hEntry hEntryError).of_value hEntry
      · cases hMap
  | _ => cases hError

/-- Nothing stands behind a tail of items of which only the last may be one. -/
theorem eq_nil_of_tail {fixed before after : List Template} {last : TailPattern}
    {tail : Option TailPattern} (h : ∀ t ∈ fixed, ∀ tail, t ≠ .tail tail)
    (hItems : fixed ++ tail.toList.map .tail = before ++ .tail last :: after) : after = [] := by
  have hShort : (tail.toList.map Template.tail).length ≤ 1 := by
    cases tail <;> simp
  rcases List.append_eq_append_iff.1 hItems with ⟨more, rfl, hTail⟩ | ⟨more, rfl, hTail⟩
  · rw [hTail, List.length_append, List.length_cons] at hShort
    apply List.length_eq_zero_iff.1
    omega
  · cases more with
    | nil =>
        rw [← show Template.tail last :: after = tail.toList.map .tail from hTail,
          List.length_cons] at hShort
        apply List.length_eq_zero_iff.1
        omega
    | cons t more =>
        obtain ⟨rfl, -⟩ := List.cons.inj hTail
        exact absurd rfl (h (.tail last) (by simp) last)

/-- The tails of an array are last if those of its items are, but for a tail that is the last of
them. -/
theorem TailsLast.array {fixed : List Template} (h : ∀ t ∈ fixed, t.TailsLast)
    (tail : Option TailPattern) :
    (Template.array (fixed ++ tail.toList.map .tail)).TailsLast := by
  have hReached {part : Template} (hPart : Reaches (.array (fixed ++ tail.toList.map .tail)) part)
      (hArray : part ≠ .array (fixed ++ tail.toList.map .tail))
      (hTail : ∀ last, part ≠ .tail last) : ∃ t ∈ fixed, Reaches t part := by
    obtain ⟨t, hItem, further⟩ := (reaches_array_iff.1 hPart).resolve_left hArray
    rcases List.mem_append.1 hItem with hFixed | hLast
    · exact ⟨t, hFixed, further⟩
    · obtain ⟨last, -, rfl⟩ := List.mem_map.1 hLast
      cases further
      exact absurd rfl (hTail last)
  refine ⟨nofun, ?_, ?_⟩
  · intro entries hPart
    obtain ⟨t, hFixed, further⟩ := hReached hPart nofun nofun
    exact (h t hFixed).values entries further
  · intro before last after hPart
    by_cases hItems : fixed ++ tail.toList.map .tail = before ++ .tail last :: after
    · exact eq_nil_of_tail (fun t ht => (h t ht).root) hItems
    · obtain ⟨t, hFixed, further⟩ :=
        hReached hPart (fun hArray => hItems (Template.array.inj hArray).symm) nofun
      exact (h t hFixed).items before last after further

/-- The tails of a map are last if those of its values are. -/
theorem TailsLast.map {entries : List (MapKey × Template)} (h : ∀ e ∈ entries, e.2.TailsLast) :
    (Template.map entries).TailsLast := by
  refine ⟨nofun, ?_, ?_⟩
  · rintro inside (_ | _ | ⟨hEntry, further⟩)
    · exact fun e he => (h e he).root
    · exact (h _ hEntry).values inside further
  · rintro before tail after (_ | _ | ⟨hEntry, further⟩)
    exact (h _ hEntry).items before tail after further

/-- A template of no parts that is no tail has no tail. -/
theorem TailsLast.leaf {t : Template} (hTail : ∀ tail, t ≠ .tail tail)
    (hArray : ∀ items, t ≠ .array items) (hMap : ∀ entries, t ≠ .map entries) : t.TailsLast := by
  have hOnly {part : Template} (hPart : Reaches t part) : t = part := by
    cases hPart with
    | refl => rfl
    | item => exact absurd rfl (hArray _)
    | value => exact absurd rfl (hMap _)
  exact ⟨hTail, fun entries hPart => absurd (hOnly hPart) (hMap entries),
    fun before tail after hPart => absurd (hOnly hPart) (hArray _)⟩

/-- In a template that stands for a pattern each tail is the last item of an array. -/
theorem Gives.tailsLast {t : Template} {p : Pattern} (h : t.Gives p) : t.TailsLast := by
  induction t generalizing p with
  | tail tail => exact absurd h not_gives_tail
  | array items ih =>
      obtain ⟨fixed, ps, tail, rfl, hFixed, -⟩ := gives_array_iff.1 h
      apply TailsLast.array
      intro t ht
      obtain ⟨q, hq⟩ := exists_of_forall₂ hFixed t ht
      exact ih t (List.mem_append_left _ ht) hq
  | map entries ih =>
      obtain ⟨fs, hEntries, -⟩ := gives_map_iff.1 h
      apply TailsLast.map
      intro e he
      obtain ⟨f, -, hGives⟩ := exists_of_forall₂ hEntries e he
      exact ih e he hGives
  | _ => exact .leaf nofun nofun nofun

/-! ### The parts of the pattern -/

/-- A template becomes a pattern part by part. In an array the items come in order with the tail, if
there is one, behind them, and in a map the values come in order under the same keys. -/
inductive Becomes : Template → Pattern → Prop where
  | pattern (p : Pattern) : Becomes (.pattern p) p
  | regex (r : Regex) : Becomes (.regex r) (.ofRegex r)
  | array {items : List Template} {ps : List Pattern} (each : List.Forall₂ Becomes items ps)
      (tail : Option TailPattern) :
      Becomes (.array (items ++ tail.toList.map .tail))
        (.ofMatcher (.array ps tail) (arrayText ps tail))
  | range (r : NumberRange) : Becomes (.range r) (.ofRange r)
  | set (members : List Int64) : Becomes (.set members) (.ofSet members)
  | map {entries : List (MapKey × Template)} {fs : List (MapKey × Pattern)}
      (keys : entries.map Prod.fst = fs.map Prod.fst)
      (each : List.Forall₂ Becomes (entries.map Prod.snd) (fs.map Prod.snd)) :
      Becomes (.map entries) (.ofMatcher (.map fs) (mapText fs))
  | kind (k : Kind) : Becomes (.kind k) (.ofKind k)
  | literal (v : Value) : Becomes (.literal v) (.literal v)

/-- Templates stand for patterns in turn as they become them, if this is known of each. -/
theorem forall₂_gives_iff_becomes {ts : List Template}
    (h : ∀ t ∈ ts, ∀ p, t.Gives p ↔ t.Becomes p) {ps : List Pattern} :
    List.Forall₂ Gives ts ps ↔ List.Forall₂ Becomes ts ps := by
  constructor
  · intro hGives
    refine ((List.forall₂_and_left _ _).2 ⟨h, hGives⟩).imp ?_
    exact fun t p ht => (ht.1 p).1 ht.2
  · intro hBecomes
    refine ((List.forall₂_and_left _ _).2 ⟨h, hBecomes⟩).imp ?_
    exact fun t p ht => (ht.1 p).2 ht.2

/-- Entries are related if their keys are the same in order and their values are related. -/
theorem forall₂_givesEntry_iff {es : List (MapKey × Template)} {fs : List (MapKey × Pattern)} :
    List.Forall₂ GivesEntry es fs ↔ es.map Prod.fst = fs.map Prod.fst ∧
      List.Forall₂ Gives (es.map Prod.snd) (fs.map Prod.snd) := by
  induction es generalizing fs with
  | nil => cases fs <;> simp
  | cons e es ih => cases fs <;> simp [GivesEntry, ih, and_and_and_comm]

/-- A template stands for just the pattern that it becomes. -/
theorem gives_iff_becomes {t : Template} {p : Pattern} : t.Gives p ↔ t.Becomes p := by
  induction t generalizing p with
  | tail tail => exact ⟨fun h => absurd h not_gives_tail, nofun⟩
  | array items ih =>
      rw [gives_array_iff]
      constructor
      · rintro ⟨fixed, ps, tail, rfl, hFixed, rfl⟩
        have hEach := fun t ht p => @ih t (List.mem_append_left _ ht) p
        exact .array ((forall₂_gives_iff_becomes hEach).1 hFixed) tail
      · intro h
        cases h with
        | @array fixed ps each tail =>
            have hEach := fun t ht p => @ih t (List.mem_append_left _ ht) p
            exact ⟨fixed, ps, tail, rfl, (forall₂_gives_iff_becomes hEach).2 each, rfl⟩
  | map entries ih =>
      have hEach : ∀ t ∈ entries.map Prod.snd, ∀ p, t.Gives p ↔ t.Becomes p := by
        intro t ht p
        obtain ⟨e, he, rfl⟩ := List.mem_map.1 ht
        exact ih e he
      rw [gives_map_iff]
      simp only [forall₂_givesEntry_iff, forall₂_gives_iff_becomes hEach]
      constructor
      · rintro ⟨fs, ⟨hKeys, each⟩, rfl⟩
        exact .map hKeys each
      · intro h
        cases h with
        | map keys each => exact ⟨_, ⟨keys, each⟩, rfl⟩
  | _ =>
      constructor
      · intro h
        cases h
        constructor
      · intro h
        cases h
        rfl

/-- A template is made into a pattern exactly if each tail in it is the last item of an array; if
not, what is refused is a tail that stands elsewhere. The pattern has the parts of the template in
their places, an array the items in order and the tail behind them, a map the same keys in order. -/
theorem toPattern_iff_tailsLast (t : Template) :
    ((∃ p, t.toPattern = .ok p) ↔ t.TailsLast) ∧
    (¬t.TailsLast → ∃ e, t.toPattern = .error e ∧ t.Misplaced e) ∧
    ∀ p, t.toPattern = .ok p ↔ t.Becomes p := by
  have hRefused {e : PatternError} (hError : t.toPattern = .error e) : ¬t.TailsLast :=
    (misplaced_of_error hError).not_tailsLast
  refine ⟨⟨?_, ?_⟩, ?_, ?_⟩
  · rintro ⟨p, hGives⟩
    exact Gives.tailsLast hGives
  · intro hLast
    cases hPattern : t.toPattern with
    | ok p => exact ⟨p, rfl⟩
    | error e => exact absurd hLast (hRefused hPattern)
  · intro hNotLast
    cases hPattern : t.toPattern with
    | ok p => exact absurd (Gives.tailsLast hPattern) hNotLast
    | error e => exact ⟨e, rfl, misplaced_of_error hPattern⟩
  · exact fun p => gives_iff_becomes

/-- A tail is in its place as the last item of an array under a key, and out of it under the key
itself or before another item. -/
theorem toPattern_iff_tailsLast_of_nested :
    (map [(.required .nil, array [literal .nil, tail (.ofPattern .wildcard)])]).TailsLast ∧
    (∃ e, (map [(.required .nil, tail (.ofPattern .wildcard))]).toPattern = .error e ∧
      (map [(.required .nil, tail (.ofPattern .wildcard))]).Misplaced e) ∧
    ∃ e, (array [tail (.ofPattern .wildcard), literal .nil]).toPattern = .error e ∧
      (array [tail (.ofPattern .wildcard), literal .nil]).Misplaced e := by
  refine ⟨(toPattern_iff_tailsLast _).1.1 ⟨_, rfl⟩, ?_, ?_⟩
  · apply (toPattern_iff_tailsLast _).2.1
    intro hLast
    exact hLast.values _ (.refl _) _ (List.mem_singleton_self _) _ rfl
  · apply (toPattern_iff_tailsLast _).2.1
    intro hLast
    exact absurd (hLast.items [] _ _ (.refl _)) (List.cons_ne_nil _ _)

end Template

end CaseMatch
