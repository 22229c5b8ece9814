import CaseMatch.Pattern.Template
import CaseMatch.Proofs.Matching.Reference
import CaseMatch.Proofs.Value.Equality

/-!
The patterns that values stand for. The pattern of an array asks for as many items, each for the
pattern of its own, and the pattern of a map for a value under each key. Other keys are let pass,
so that one pattern alone does not tell maps apart. Two values are equal where each stands for a
pattern that the other matches.
-/

namespace CaseMatch

namespace Value

/-- What can be reached from a value through elements of arrays and values of maps. -/
inductive Reaches : Value → Value → Prop where
  | refl (v : Value) : Reaches v v
  | item {items : List Value} {item part : Value} (member : item ∈ items)
      (further : Reaches item part) : Reaches (.array items) part
  | value {entries : Dict} {e : Value × Value} {part : Value} (member : e ∈ entries)
      (further : Reaches e.2 part) : Reaches (.map entries) part

theorem Reaches.trans {v w part : Value} (h : Reaches v w) (further : Reaches w part) :
    Reaches v part := by
  induction h with
  | refl v => exact further
  | item member _ ih => exact .item member (ih further)
  | value member _ ih => exact .value member (ih further)

/-- No map is reached. -/
def Mapless (v : Value) : Prop := ∀ entries, ¬Reaches v (.map entries)

/-- No map is reached that has an array of one element as a key. -/
def NoSingletonKeys (v : Value) : Prop :=
  ∀ entries, Reaches v (.map entries) → ∀ e ∈ entries, ∀ inner, e.1 ≠ .array [inner]

/-- There is no map in an array if there is none in its items. -/
theorem mapless_array {items : List Value} :
    Mapless (.array items) ↔ ∀ item ∈ items, item.Mapless := by
  constructor
  · exact fun h item hItem entries further => h entries (.item hItem further)
  · rintro h entries (_ | ⟨hItem, further⟩)
    exact h _ hItem entries further

theorem mapless_of_scalar {v : Value} (hArray : ∀ items, v ≠ .array items)
    (hMap : ∀ entries, v ≠ .map entries) : v.Mapless := by
  rintro entries (_ | _ | _)
  · exact hMap entries rfl
  · exact hArray _ rfl
  · exact hMap _ rfl

theorem Mapless.noSingletonKeys {v : Value} (h : v.Mapless) : v.NoSingletonKeys :=
  fun entries further => absurd further (h entries)

theorem not_mapless_map (entries : Dict) : ¬Mapless (.map entries) :=
  fun h => h entries (.refl _)

theorem noSingletonKeys_array {items : List Value} :
    NoSingletonKeys (.array items) ↔ ∀ item ∈ items, item.NoSingletonKeys := by
  constructor
  · exact fun h item hItem entries further => h entries (.item hItem further)
  · rintro h entries (_ | ⟨hItem, further⟩)
    exact h _ hItem entries further

/-- A map has no key that is an array of one element if none of its own is and its values have
none. -/
theorem noSingletonKeys_map {entries : Dict} :
    NoSingletonKeys (.map entries) ↔
      ∀ e ∈ entries, (∀ inner, e.1 ≠ .array [inner]) ∧ e.2.NoSingletonKeys := by
  constructor
  · exact fun h e he =>
      ⟨h entries (.refl _) e he, fun inside further => h inside (.value he further)⟩
  · rintro h inside (_ | _ | ⟨he, further⟩)
    · exact fun e he => (h e he).1
    · exact (h _ he).2 inside further

end Value

namespace Pattern

mutual

/-- The pattern that a value stands for. -/
def ofValue : Value → Pattern
  | .array items => ofMatcher (.array (ofItems items) none) (arrayText (ofItems items) none)
  | .map entries => ofEntries (ofPairs entries)
  | v => literal v

def ofItems : List Value → List Pattern
  | [] => []
  | item :: rest => ofValue item :: ofItems rest

def ofPairs : List (Value × Value) → List (MapKey × Pattern)
  | [] => []
  | (key, value) :: rest => (Template.keyOfValue key, ofValue value) :: ofPairs rest

end

theorem ofItems_eq_map (items : List Value) : ofItems items = items.map ofValue := by
  induction items with
  | nil => rfl
  | cons item rest ih => rw [ofItems, ih, List.map_cons]

theorem ofPairs_eq_map (entries : Dict) :
    ofPairs entries = entries.map fun e => (Template.keyOfValue e.1, ofValue e.2) := by
  induction entries with
  | nil => rfl
  | cons e rest ih => rw [ofPairs, ih, List.map_cons]

end Pattern

/-- Patterns without a tail among them are all fixed elements. -/
theorem splitTail_map_pattern (position count : Nat) (ps : List Pattern) :
    splitTail position count (ps.map Element.pattern) = .ok (ps, none) := by
  induction ps generalizing position with
  | nil => rfl
  | cons p ps ih => rw [List.map_cons, splitTail, ih]; rfl

/-- A tail has to be the last of the elements. -/
theorem splitTail_append_tail (position count : Nat) (ps : List Pattern) (tail : TailPattern)
    (more : List Element) :
    splitTail position count (ps.map Element.pattern ++ .tail tail :: more) =
      if more.isEmpty then .ok (ps, some tail)
      else .error (.tailNotLast tail (position + ps.length) count) := by
  induction ps generalizing position with
  | nil => rfl
  | cons p ps ih =>
      rw [List.map_cons, List.cons_append, splitTail, ih, List.length_cons, Nat.add_right_comm,
        Nat.add_assoc]
      split <;> rfl

/-- The pattern of arrays that have just these items. -/
def Pattern.ofFixed (elements : List Pattern) : Pattern :=
  ofMatcher (.array elements none) (arrayText elements none)

namespace Template

/-- The template stands for the pattern. -/
def Gives (t : Template) (p : Pattern) : Prop := t.toPattern = .ok p

/-- The entry of templates stands for the entry of patterns, under the same key. -/
def GivesEntry (e : MapKey × Template) (f : MapKey × Pattern) : Prop :=
  e.1 = f.1 ∧ e.2.Gives f.2

/-- Every item but a tail is an element if it stands for a pattern. -/
theorem toElements_cases (t : Template) (ts : List Template) : (∃ tail, t = .tail tail) ∨
    toElements (t :: ts) = (do
      let p ← t.toPattern
      .ok (.pattern p :: (← toElements ts))) := by
  cases t with
  | tail tail => exact .inl ⟨tail, rfl⟩
  | _ => exact .inr rfl

theorem toElements_cons {t : Template} {p : Pattern} (h : t.Gives p) (ts : List Template) :
    toElements (t :: ts) = (toElements ts).map (.pattern p :: ·) := by
  rcases toElements_cases t ts with ⟨tail, rfl⟩ | hCons
  · cases h
  · rw [hCons, h]
    cases toElements ts <;> rfl

/-- Templates that all stand for patterns are fixed elements. -/
theorem toElements_of_gives {ts : List Template} {ps : List Pattern}
    (h : List.Forall₂ Gives ts ps) : toElements ts = .ok (ps.map .pattern) := by
  induction h with
  | nil => rfl
  | cons hGives _ ih =>
      rw [toElements_cons hGives, ih]
      rfl

theorem toEntries_cons {t : Template} {p : Pattern} (h : t.Gives p) (key : MapKey)
    (es : List (MapKey × Template)) :
    toEntries ((key, t) :: es) = (toEntries es).map ((key, p) :: ·) := by
  rw [toEntries, h]
  cases toEntries es <;> rfl

/-- Entries whose values stand for patterns are those of a map pattern. -/
theorem toEntries_of_gives {es : List (MapKey × Template)} {fs : List (MapKey × Pattern)}
    (h : List.Forall₂ GivesEntry es fs) : toEntries es = .ok fs := by
  induction h with
  | nil => rfl
  | @cons e f es fs hGives _ ih =>
      obtain ⟨key, t⟩ := e
      obtain ⟨key', p⟩ := f
      obtain ⟨rfl, hGives⟩ : key = key' ∧ t.Gives p := hGives
      rw [toEntries_cons hGives, ih]
      rfl

/-- An array of templates that stand for patterns has no tail. -/
theorem gives_array {ts : List Template} {ps : List Pattern} (h : List.Forall₂ Gives ts ps) :
    (array ts).Gives (.ofFixed ps) := by
  rw [Gives, toPattern, toElements_of_gives h]
  show Pattern.ofElements _ = _
  rw [Pattern.ofElements, splitTail_map_pattern]
  rfl

/-- A map of templates that stand for patterns stands for the map pattern of them. -/
theorem gives_map {es : List (MapKey × Template)} {fs : List (MapKey × Pattern)}
    (h : List.Forall₂ GivesEntry es fs) : (map es).Gives (.ofEntries fs) := by
  rw [Gives, toPattern, toEntries_of_gives h]
  rfl

theorem ofItems_eq_map (items : List Value) : ofItems items = items.map ofValue := by
  induction items with
  | nil => rfl
  | cons item rest ih => rw [ofItems, ih, List.map_cons]

theorem ofEntries_eq_map (entries : Dict) :
    ofEntries entries = entries.map fun e => (keyOfValue e.1, ofValue e.2) := by
  induction entries with
  | nil => rfl
  | cons e rest ih => rw [ofEntries, ih, List.map_cons]

/-- A value always stands for a pattern. -/
theorem toPattern_ofValue (v : Value) : (ofValue v).toPattern = .ok (.ofValue v) := by
  induction v with
  | array items ih =>
      rw [ofValue, ofItems_eq_map, Pattern.ofValue, Pattern.ofItems_eq_map]
      refine gives_array ?_
      rw [List.forall₂_map_left_iff, List.forall₂_map_right_iff, List.forall₂_same]
      exact ih
  | map entries ih =>
      rw [ofValue, ofEntries_eq_map, Pattern.ofValue, Pattern.ofPairs_eq_map]
      refine gives_map ?_
      rw [List.forall₂_map_left_iff, List.forall₂_map_right_iff, List.forall₂_same]
      exact fun e he => ⟨rfl, (ih e he).2⟩
  | _ => rfl

end Template

namespace Pattern

theorem binds_ofMatcher (matcher : Matcher Pattern) (label : String) (subject : Value) :
    binds (ofMatcher matcher label) subject = matcherBinds matcher subject :=
  List.append_nil _

theorem elementBinds_ofItems {items : List Value}
    (h : ∀ item ∈ items, ∀ w, (ofValue item).binds w = []) (subjects : List Value) :
    elementBinds (ofItems items) subjects = [] := by
  induction items generalizing subjects with
  | nil => rfl
  | cons item rest ih =>
      rw [List.forall_mem_cons] at h
      cases subjects with
      | nil => rfl
      | cons w ws => rw [ofItems, elementBinds, h.1, ih h.2, List.append_nil]

theorem entryBinds_ofPairs {entries : Dict}
    (h : ∀ e ∈ entries, ∀ w, (ofValue e.2).binds w = []) (pairs : Dict) :
    entryBinds (ofPairs entries) pairs = [] := by
  induction entries with
  | nil => rfl
  | cons e rest ih =>
      obtain ⟨key, value⟩ := e
      rw [List.forall_mem_cons] at h
      rw [ofPairs]
      cases Template.keyOfValue key with
      | required key =>
          rw [entryBinds, ih h.2]
          cases pairs.get? key with
          | none => rfl
          | some w => simp [h.1 w]
      | optional key =>
          rw [entryBinds, ih h.2]
          cases pairs.get? key with
          | none => rfl
          | some w => simp [h.1 w]

/-- The pattern of a value gives no names. -/
theorem binds_ofValue (v w : Value) : (ofValue v).binds w = [] := by
  induction v generalizing w with
  | array items ih =>
      rw [ofValue, binds_ofMatcher]
      cases w with
      | array subjects =>
          rw [matcherBinds, elementBinds_ofItems (fun item h w => ih item h w), tailBinds,
            List.append_nil]
      | _ => rfl
  | map entries ih =>
      rw [ofValue, ofEntries, binds_ofMatcher]
      cases w with
      | map pairs => exact entryBinds_ofPairs (fun e he w => (ih e he).2 w) pairs
      | _ => rfl
  | _ => rfl

/-- A pattern accepts a subject that it matches by itself. -/
def Accepts (p : Pattern) (subject : Value) : Prop := ∃ b, p.test subject = .ok b

/-- A pattern that gives no names accepts what it fits, and binds nothing. -/
theorem test_eq_ok_iff_fits {p : Pattern} {subject : Value} (hBinds : p.binds subject = [])
    {b : Bindings} : p.test subject = .ok b ↔ Fits p subject ∧ b = .empty := by
  have hConsistent : Consistent [] := EachAfter.nil
  rw [test_eq_ok_iff, Check.allMet_iff, assignments_checks, hBinds, satisfied_checks,
    and_iff_left hConsistent]
  rfl

/-- A pattern that gives no names accepts just what it fits. -/
theorem accepts_iff_fits {p : Pattern} {subject : Value} (hBinds : p.binds subject = []) :
    p.Accepts subject ↔ Fits p subject := by
  simp [Accepts, test_eq_ok_iff_fits hBinds]

theorem fits_ofMatcher_iff {matcher : Matcher Pattern} {label : String} {subject : Value} :
    Fits (ofMatcher matcher label) subject ↔ FitsMatcher matcher subject :=
  ⟨fun ⟨matched, _⟩ => matched, fun matched => .intro matched rfl⟩

/-- A predicate fits what it holds of. -/
theorem fits_ofPredicate_iff {label : String} {accepts : Value → Bool} {subject : Value} :
    Fits (ofPredicate label accepts) subject ↔ accepts subject = true := by
  rw [ofPredicate, fits_ofMatcher_iff]
  exact ⟨fun h => by cases h; assumption, .predicate⟩

theorem binds_ofPredicate (label : String) (accepts : Value → Bool) (subject : Value) :
    (ofPredicate label accepts).binds subject = [] := by
  rw [ofPredicate, binds_ofMatcher, matcherBinds]

/-- A pattern made from a predicate asks for it and binds nothing. -/
theorem test_ofPredicate_eq_ok_iff {label : String} {accepts : Value → Bool} {subject : Value}
    {b : Bindings} :
    (ofPredicate label accepts).test subject = .ok b ↔ accepts subject = true ∧ b = .empty := by
  rw [test_eq_ok_iff_fits (binds_ofPredicate label accepts subject), fits_ofPredicate_iff]

/-- The pattern of a value accepts what equals it. -/
theorem fits_literal_iff {v subject : Value} : Fits (literal v) subject ↔ subject.eq v = true := by
  rw [literal, fits_ofPredicate_iff]

/-- The pattern of an array fits arrays as long, whose items fit those of the array in turn. -/
theorem fits_ofValue_array_iff {items : List Value} {w : Value} :
    Fits (ofValue (.array items)) w ↔
      ∃ subjects, w = .array subjects ∧
        List.Forall₂ (fun item subject => Fits (ofValue item) subject) items subjects := by
  rw [ofValue, fits_ofMatcher_iff, ofItems_eq_map]
  cases w with
  | array subjects =>
      rw [fitsMatcher_exactArray_iff, List.forall₂_map_left_iff]
      simp
  | _ => exact iff_of_false (fun h => by cases h) (by simp)

/-- Each key of a map has a value in another map which the pattern of its own value fits. -/
def MetBy (d d' : Dict) : Prop :=
  ∀ e ∈ d, ∃ f, d'.find? (fun f => e.1.sameKey f.1) = some f ∧ Fits (ofValue e.2) f.2

/-- A map meets the keys of another if under each of them it has what fits the value. -/
theorem metBy_iff_get? {d d' : Dict} :
    MetBy d d' ↔ ∀ e ∈ d, ∃ value, d'.get? e.1 = some value ∧ Fits (ofValue e.2) value := by
  simp only [MetBy, Dict.get?, Option.map_eq_some_iff]
  refine forall₂_congr fun e _ => ⟨?_, ?_⟩
  · rintro ⟨f, hFind, fit⟩
    exact ⟨f.2, ⟨f, hFind, rfl⟩, fit⟩
  · rintro ⟨_, ⟨f, hFind, rfl⟩, fit⟩
    exact ⟨f, hFind, fit⟩

/-- The pattern of a map asks for a value under each key, if no key is an array of one element,
which would make it optional. -/
theorem fits_ofValue_map_iff {d : Dict} {w : Value}
    (hKeys : ∀ e ∈ d, ∀ inner, e.1 ≠ .array [inner]) :
    Fits (ofValue (.map d)) w ↔ ∃ d', w = .map d' ∧ MetBy d d' := by
  have hRequired : ∀ e ∈ d, Template.keyOfValue e.1 = .required e.1 := by
    intro e he
    unfold Template.keyOfValue
    split
    · next inner hKey => exact absurd hKey (hKeys e he inner)
    · rfl
  rw [ofValue, ofEntries, fits_ofMatcher_iff, ofPairs_eq_map]
  cases w with
  | map d' =>
      rw [fitsMatcher_map_iff, List.forall_mem_map]
      simp only [Value.map.injEq, exists_eq_left', metBy_iff_get?]
      refine forall₂_congr fun e he => ?_
      rw [hRequired e he, EntryFits]
  | _ => exact iff_of_false (fun h => by cases h) (by simp)

/-- Two maps of which each meets the keys of the other are equal, where this is known of their
values. Each has no more entries than the other, and what is found under a key in the second map
finds the same key again in the first. -/
theorem metBy_and_metBy_iff {d d' : Dict} (hd : Value.Built (.map d)) (hd' : Value.Built (.map d'))
    (h : ∀ e ∈ d, ∀ f ∈ d', e.2.eq f.2 = true ↔
      Fits (ofValue e.2) f.2 ∧ Fits (ofValue f.2) e.2) :
    Value.eq (.map d) (.map d') = true ↔ MetBy d d' ∧ MetBy d' d := by
  have hKeys : ∀ e ∈ d, e.1.Built := fun e he => (hd.parts e he).1
  have hKeys' : ∀ f ∈ d', f.1.Built := fun f hf => (hd'.parts f hf).1
  have keys := Value.sameKey_partialEquivalence
  rw [Value.compares_eq.map_iff]
  constructor
  · rintro ⟨hLength, hIncluded⟩
    have hBack := hIncluded.symm hLength hd.distinct keys Value.eq_partialEquivalence hd.parts
      hd'.parts
    refine ⟨fun e he => ?_, fun f hf => ?_⟩
    · obtain ⟨f, hFind, hEq⟩ := hIncluded e he
      exact ⟨f, hFind, ((h e he f (List.mem_of_find?_eq_some hFind)).1 hEq).1⟩
    · obtain ⟨e, hFind, hEq⟩ := hBack f hf
      have he := List.mem_of_find?_eq_some hFind
      have hEq' := Value.eq_partialEquivalence.symm (hd'.parts f hf).2 (hd.parts e he).2 hEq
      exact ⟨e, hFind, ((h e he f hf).1 hEq').2⟩
  · rintro ⟨hMet, hMet'⟩
    have hFound : Dict.Included (fun _ _ => true) d d' := fun e he => by
      obtain ⟨f, hFind, -⟩ := hMet e he
      exact ⟨f, hFind, rfl⟩
    have hFound' : Dict.Included (fun _ _ => true) d' d := fun f hf => by
      obtain ⟨e, hFind, -⟩ := hMet' f hf
      exact ⟨e, hFind, rfl⟩
    refine ⟨Nat.le_antisymm (hFound.length_le hd.distinct keys hKeys hKeys')
      (hFound'.length_le hd'.distinct keys hKeys' hKeys), fun e he => ?_⟩
    obtain ⟨f, hFind, fit⟩ := hMet e he
    have hf := List.mem_of_find?_eq_some hFind
    obtain ⟨e', hFind', fit'⟩ := hMet' f hf
    have hSame := keys.symm (hKeys e he) (hKeys' f hf) (Dict.sameKey_of_find? hFind)
    rw [hd.distinct.find?_eq_some keys hKeys (hKeys' f hf) he hSame, Option.some.injEq] at hFind'
    exact ⟨f, hFind, (h e he f hf).2 ⟨fit, hFind' ▸ fit'⟩⟩

/-- A relation of lists may be replaced by one that is the same on their members. -/
theorem forall₂_congr_of_mem {α β : Type} {P Q : α → β → Prop} {xs : List α} {ys : List β}
    (h : ∀ x ∈ xs, ∀ y ∈ ys, P x y ↔ Q x y) :
    List.Forall₂ P xs ys ↔ List.Forall₂ Q xs ys := by
  induction xs generalizing ys with
  | nil => cases ys <;> simp
  | cons x xs ih =>
      cases ys with
      | nil => simp
      | cons y ys =>
          rw [List.forall₂_cons, List.forall₂_cons, h x (by simp) y (by simp),
            ih fun x' hx' y' hy' => h x' (.tail _ hx') y' (.tail _ hy')]

/-- Lists are related one way and the other exactly if their members are. -/
theorem forall₂_and_swap_iff {α : Type} {P Q R : α → α → Prop} {xs ys : List α}
    (h : ∀ x ∈ xs, ∀ y ∈ ys, P x y ↔ Q x y ∧ R y x) :
    List.Forall₂ P xs ys ↔ List.Forall₂ Q xs ys ∧ List.Forall₂ R ys xs := by
  rw [forall₂_congr_of_mem h]
  clear h
  constructor
  · exact fun hBoth => ⟨hBoth.imp fun _ _ => And.left, (hBoth.imp fun _ _ => And.right).flip⟩
  · rintro ⟨hForth, hBack⟩
    induction hForth with
    | nil => exact .nil
    | cons hx _ ih =>
        cases hBack with
        | cons hy hRest => exact .cons ⟨hx, hy⟩ (ih hRest)

/-- A value that stands for a pattern without parts equals another where each fits the pattern of
the other. -/
theorem eq_iff_fits_of_literal {v w : Value} (hv : v.Built) (hw : w.Built)
    (hLiteral : ofValue v = literal v) (hArray : ∀ items, v ≠ .array items)
    (hMap : ∀ entries, v ≠ .map entries) :
    v.eq w = true ↔ Fits (ofValue v) w ∧ Fits (ofValue w) v := by
  have hSymm : w.eq v = true ↔ v.eq w = true :=
    ⟨Value.eq_partialEquivalence.symm hw hv, Value.eq_partialEquivalence.symm hv hw⟩
  rw [hLiteral, fits_literal_iff, hSymm]
  refine ⟨fun hEq => ⟨hEq, ?_⟩, And.left⟩
  cases w with
  | array items => cases v <;> simp_all [Value.eq]
  | map entries => cases v <;> simp_all [Value.eq]
  | _ => exact fits_literal_iff.2 hEq

/-- Values are equal where each fits the pattern of the other. -/
theorem eq_iff_fits {v w : Value} (hv : v.Built) (hw : w.Built) (hKeys : v.NoSingletonKeys)
    (hKeys' : w.NoSingletonKeys) :
    v.eq w = true ↔ Fits (ofValue v) w ∧ Fits (ofValue w) v := by
  induction v generalizing w with
  | array items ih =>
      cases w with
      | array subjects =>
          rw [Value.noSingletonKeys_array] at hKeys hKeys'
          rw [Value.compares_eq.array_iff, fits_ofValue_array_iff, fits_ofValue_array_iff]
          simp only [Value.array.injEq, exists_eq_left']
          exact forall₂_and_swap_iff fun x hx y hy =>
            ih x hx (hv.items x hx) (hw.items y hy) (hKeys x hx) (hKeys' y hy)
      | _ => exact iff_of_false (by simp [Value.eq]) (by simp [fits_ofValue_array_iff])
  | map entries ih =>
      rw [Value.noSingletonKeys_map] at hKeys
      have hNone := fun e he => (hKeys e he).1
      cases w with
      | map pairs =>
          rw [Value.noSingletonKeys_map] at hKeys'
          rw [fits_ofValue_map_iff hNone, fits_ofValue_map_iff fun f hf => (hKeys' f hf).1]
          simp only [Value.map.injEq, exists_eq_left']
          exact metBy_and_metBy_iff hv hw fun e he f hf =>
            (ih e he).2 (hv.parts e he).2 (hw.parts f hf).2 (hKeys e he).2 (hKeys' f hf).2
      | _ => exact iff_of_false (by simp [Value.eq]) (by simp [fits_ofValue_map_iff hNone])
  | _ => exact eq_iff_fits_of_literal hv hw rfl (by simp) (by simp)

/-- Where no map is reached, what fits the pattern of a value equals it. -/
theorem fits_ofValue_iff_of_mapless {v w : Value} (hv : v.Built) (hw : w.Built)
    (hMapless : v.Mapless) : Fits (ofValue v) w ↔ v.eq w = true := by
  induction v generalizing w with
  | array items ih =>
      cases w with
      | array subjects =>
          rw [Value.compares_eq.array_iff, fits_ofValue_array_iff]
          simp only [Value.array.injEq, exists_eq_left']
          exact forall₂_congr_of_mem fun x hx y hy =>
            ih x hx (hv.items x hx) (hw.items y hy) (Value.mapless_array.1 hMapless x hx)
      | _ => exact iff_of_false (by simp [fits_ofValue_array_iff]) (by simp [Value.eq])
  | map entries ih => exact absurd hMapless (Value.not_mapless_map entries)
  | _ =>
      refine fits_literal_iff.trans ?_
      exact ⟨Value.eq_partialEquivalence.symm hw hv, Value.eq_partialEquivalence.symm hv hw⟩

/-- Every value stands for a pattern, which binds nothing. Two values are equal where each matches
the pattern of the other, and for one in which there is no map its own pattern is enough. This is
said of values in which no array of one element is a key, since such a key is optional. -/
theorem ofValue_accepts_iff_eq {v w : Value} (hv : v.Built) (hw : w.Built)
    (hKeys : v.NoSingletonKeys) (hKeys' : w.NoSingletonKeys) :
    ∃ p q, (Template.ofValue v).toPattern = .ok p ∧ (Template.ofValue w).toPattern = .ok q ∧
      (v.eq w = true ↔ p.Accepts w ∧ q.Accepts v) ∧
      (∀ b, p.test w = .ok b → b = .empty) ∧ (∀ b, q.test v = .ok b → b = .empty) ∧
      (v.Mapless → (p.Accepts w ↔ v.eq w = true)) := by
  refine ⟨ofValue v, ofValue w, Template.toPattern_ofValue v, Template.toPattern_ofValue w, ?_,
    fun b hTest => ?_, fun b hTest => ?_, fun hMapless => ?_⟩
  · rw [accepts_iff_fits (binds_ofValue v w), accepts_iff_fits (binds_ofValue w v)]
    exact eq_iff_fits hv hw hKeys hKeys'
  · exact ((test_eq_ok_iff_fits (binds_ofValue v w)).1 hTest).2
  · exact ((test_eq_ok_iff_fits (binds_ofValue w v)).1 hTest).2
  · rw [accepts_iff_fits (binds_ofValue v w)]
    exact fits_ofValue_iff_of_mapless hv hw hMapless

/-- A map with numbers and text for its keys has no key that is an array. -/
theorem noSingletonKeys_examples :
    (Value.map Value.integersFirst).NoSingletonKeys ∧
      (Value.map Value.floatsLast).NoSingletonKeys := by
  have hScalar (v : Value) (hArray : ∀ items, v ≠ .array items)
      (hMap : ∀ entries, v ≠ .map entries) : v.NoSingletonKeys :=
    (Value.mapless_of_scalar hArray hMap).noSingletonKeys
  constructor
  · show (Value.map [(.integer 1, .array [.integer 1, .float (.zero true)]),
      (.string "k", .integer 2)]).NoSingletonKeys
    simp [Value.noSingletonKeys_map, Value.noSingletonKeys_array, hScalar]
  · show (Value.map [(.string "k", .float (.ofInt 2)),
      (.integer 1, .array [.integer 1, .float (.zero false)])]).NoSingletonKeys
    simp [Value.noSingletonKeys_map, Value.noSingletonKeys_array, hScalar]

/-- Arrays of numbers hold no map. -/
theorem mapless_examples : (Value.array [.integer 1, .nil]).Mapless ∧
    (Value.array [.float (.ofInt 1), .nil]).Mapless := by
  simp [Value.mapless_array, Value.mapless_of_scalar]

/-- Two maps that agree but for the order of their entries and the kind of their numbers, and two
arrays without maps. -/
theorem ofValue_accepts_of_orders :
    (Value.map Value.integersFirst).NoSingletonKeys ∧
    (Value.map Value.floatsLast).NoSingletonKeys ∧
    (∃ p q, (Template.ofValue (.map Value.integersFirst)).toPattern = .ok p ∧
      (Template.ofValue (.map Value.floatsLast)).toPattern = .ok q ∧
      p.Accepts (.map Value.floatsLast) ∧ q.Accepts (.map Value.integersFirst)) ∧
    (Value.array [.integer 1, .nil]).Mapless ∧
    ∃ p, (Template.ofValue (.array [.integer 1, .nil])).toPattern = .ok p ∧
      p.Accepts (.array [.float (.ofInt 1), .nil]) := by
  obtain ⟨hKeys, hKeys'⟩ := noSingletonKeys_examples
  obtain ⟨hFirst, -, hFloats⟩ := Value.built_examples
  have hEq : Value.eq (.map Value.integersFirst) (.map Value.floatsLast) = true := by
    decide +kernel
  obtain ⟨p, q, hp, hq, hAccepts, -⟩ := ofValue_accepts_iff_eq hFirst hFloats hKeys hKeys'
  obtain ⟨hInteger, hFloat⟩ := mapless_examples
  have hBuilt : Value.Built (.array [.integer 1, .nil]) :=
    .array (by simp [Value.Built.integer, Value.Built.nil])
  have hBuilt' : Value.Built (.array [.float (.ofInt 1), .nil]) :=
    .array (by simp [Value.Built.float, Value.Built.nil])
  have hEqArrays :
      Value.eq (.array [.integer 1, .nil]) (.array [.float (.ofInt 1), .nil]) = true := by
    decide +kernel
  obtain ⟨r, -, hr, -, -, -, -, hAlone⟩ := ofValue_accepts_iff_eq hBuilt hBuilt'
    hInteger.noSingletonKeys hFloat.noSingletonKeys
  exact ⟨hKeys, hKeys', ⟨p, q, hp, hq, hAccepts.1 hEq⟩, hInteger, r, hr,
    (hAlone hInteger).2 hEqArrays⟩

end Pattern

end CaseMatch
