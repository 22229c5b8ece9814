import CaseMatch.Proofs.Pattern.ValuePattern

/-!
What a notation of a pattern says, as a tree, and told twice: as the pattern that it denotes, and as
the subjects that it accepts with the names that it gives. The two agree, so that matching a
subject by the pattern does what the tree says.
-/

namespace CaseMatch

/-- A pattern as it is written. -/
inductive PatternTree where
  | wildcard
  | name (name : String)
  | kind (k : Kind)
  | range (r : NumberRange)
  | regex (r : Regex)
  | symbolRegex (r : Regex)
  | scalar (v : Value)
  | array (items : List PatternTree)
  | openArray (items : List PatternTree) (each : PatternTree) (rest : Option String)
  | map (entries : List (MapKey × PatternTree))
  | named (inner : PatternTree) (name : String)

/-- The pattern with a name that needs no check. -/
def Pattern.withName (p : Pattern) (name : String) : Pattern :=
  { p with name := some (lowercase name) }

/-- The pattern of arrays that begin with these elements and go on with what fits the tail. -/
def Pattern.ofOpen (elements : List Pattern) (tail : TailPattern) : Pattern :=
  ofMatcher (.array elements (some tail)) (arrayText elements (some tail))

/-- The tail with a name, if there is one, that needs no check. -/
def TailPattern.ofRest (each : Pattern) (rest : Option String) : TailPattern :=
  ⟨each, none, rest.map lowercase⟩

namespace PatternTree

/-- Induction over a tree with its parts. -/
@[elab_as_elim, induction_eliminator]
theorem induction {motive : PatternTree → Prop}
    (wildcard : motive .wildcard) (name : ∀ n, motive (.name n)) (kind : ∀ k, motive (.kind k))
    (range : ∀ r, motive (.range r)) (regex : ∀ r, motive (.regex r))
    (symbolRegex : ∀ r, motive (.symbolRegex r)) (scalar : ∀ v, motive (.scalar v))
    (array : ∀ items, (∀ f ∈ items, motive f) → motive (.array items))
    (openArray : ∀ items each rest, (∀ f ∈ items, motive f) → motive each →
      motive (.openArray items each rest))
    (map : ∀ entries, (∀ e ∈ entries, motive e.2) → motive (.map entries))
    (named : ∀ inner n, motive inner → motive (.named inner n)) : ∀ f, motive f := fun f =>
  @PatternTree.rec motive (fun items => ∀ f ∈ items, motive f)
    (fun entries => ∀ e ∈ entries, motive e.2) (fun e => motive e.2)
    wildcard name kind range regex symbolRegex scalar array
    (fun items each rest hItems hEach => openArray items each rest hItems hEach) map named
    (fun _ h => nomatch h)
    (fun _ _ hHead hTail => List.forall_mem_cons.2 ⟨hHead, hTail⟩)
    (fun _ h => nomatch h)
    (fun _ _ hHead hTail => List.forall_mem_cons.2 ⟨hHead, hTail⟩)
    (fun _ _ hPattern => hPattern)
    f

/-! ### The pattern of a tree -/

mutual

/-- The pattern that a tree denotes. -/
def pattern : PatternTree → Pattern
  | .wildcard => .wildcard
  | .name n => Pattern.wildcard.withName n
  | .kind k => .ofKind k
  | .range r => .ofRange r
  | .regex r => .ofRegex r
  | .symbolRegex r => .ofSymbolRegex r
  | .scalar v => .literal v
  | .array items => .ofFixed (patterns items)
  | .openArray items each rest => .ofOpen (patterns items) (.ofRest (pattern each) rest)
  | .map entries => .ofEntries (entryPatterns entries)
  | .named inner n => (Pattern.nested (pattern inner)).withName n

def patterns : List PatternTree → List Pattern
  | [] => []
  | f :: rest => pattern f :: patterns rest

def entryPatterns : List (MapKey × PatternTree) → List (MapKey × Pattern)
  | [] => []
  | (key, f) :: rest => (key, pattern f) :: entryPatterns rest

end

theorem patterns_eq_map (items : List PatternTree) : patterns items = items.map pattern := by
  induction items with
  | nil => rfl
  | cons f rest ih => rw [patterns, ih, List.map_cons]

theorem entryPatterns_eq_map (entries : List (MapKey × PatternTree)) :
    entryPatterns entries = entries.map fun e => (e.1, e.2.pattern) := by
  induction entries with
  | nil => rfl
  | cons e rest ih => rw [entryPatterns, ih, List.map_cons]

/-! ### The subjects of a tree -/

mutual

/-- A tree accepts a subject, and gives these names on the way, in order. -/
inductive Accepts : PatternTree → Value → List Assignment → Prop where
  | wildcard {v : Value} : Accepts .wildcard v []
  | name {n : String} {v : Value} : Accepts (.name n) v [(lowercase n, v)]
  | kind {k : Kind} {v : Value} (admitted : k.admits v = true) : Accepts (.kind k) v []
  | range {r : NumberRange} {v : Value} (contained : r.contains v = true) : Accepts (.range r) v []
  | regex {r : Regex} {text : String} (occurs : r.isMatch text = true) :
      Accepts (.regex r) (.string text) []
  | symbolRegex {r : Regex} {name : String} (occurs : r.isMatch name = true) :
      Accepts (.symbolRegex r) (.symbol name) []
  | scalar {s v : Value} (equal : v.eq s = true) : Accepts (.scalar s) v []
  | array {items : List PatternTree} {values : List Value} {bs : List Assignment}
      (accepted : AcceptsEach items values bs) : Accepts (.array items) (.array values) bs
  | openArray {items : List PatternTree} {each : PatternTree} {rest : Option String}
      {fixed others : List Value} {bs more : List Assignment}
      (accepted : AcceptsEach items fixed bs)
      (acceptedOthers : AcceptsEach (List.replicate others.length each) others more) :
      Accepts (.openArray items each rest) (.array (fixed ++ others))
        (bs ++ (more ++ Pattern.nameBinds (rest.map lowercase) (.array others)))
  | map {entries : List (MapKey × PatternTree)} {pairs : Dict} {bs : List Assignment}
      (accepted : AcceptsEntries entries pairs bs) : Accepts (.map entries) (.map pairs) bs
  | named {inner : PatternTree} {n : String} {v : Value} {bs : List Assignment}
      (accepted : Accepts inner v bs) : Accepts (.named inner n) v (bs ++ [(lowercase n, v)])

/-- As many trees as values accept them one by one. -/
inductive AcceptsEach : List PatternTree → List Value → List Assignment → Prop where
  | nil : AcceptsEach [] [] []
  | cons {f : PatternTree} {rest : List PatternTree} {v : Value} {others : List Value}
      {bs more : List Assignment} (head : Accepts f v bs) (tail : AcceptsEach rest others more) :
      AcceptsEach (f :: rest) (v :: others) (bs ++ more)

/-- A map has what entries ask for under their keys. Where there is nothing under an optional key,
or nil, its entry is skipped. -/
inductive AcceptsEntries : List (MapKey × PatternTree) → Dict → List Assignment → Prop where
  | nil {pairs : Dict} : AcceptsEntries [] pairs []
  | required {key v : Value} {f : PatternTree} {rest : List (MapKey × PatternTree)} {pairs : Dict}
      {bs more : List Assignment} (found : pairs.get? key = some v) (head : Accepts f v bs)
      (tail : AcceptsEntries rest pairs more) :
      AcceptsEntries ((.required key, f) :: rest) pairs (bs ++ more)
  | optional {key v : Value} {f : PatternTree} {rest : List (MapKey × PatternTree)} {pairs : Dict}
      {bs more : List Assignment} (found : pairs.get? key = some v) (notNil : v.isNil = false)
      (head : Accepts f v bs) (tail : AcceptsEntries rest pairs more) :
      AcceptsEntries ((.optional key, f) :: rest) pairs (bs ++ more)
  | skipped {key : Value} {f : PatternTree} {rest : List (MapKey × PatternTree)} {pairs : Dict}
      {more : List Assignment} (nothing : ∀ v, pairs.get? key = some v → v.isNil = true)
      (tail : AcceptsEntries rest pairs more) :
      AcceptsEntries ((.optional key, f) :: rest) pairs more

end

/-! ### What the pattern does -/

/-- A tree accepts the subjects that its pattern fits, and gives the names that the pattern
gives. -/
def Agrees (f : PatternTree) : Prop :=
  ∀ v bs, Accepts f v bs ↔ Fits f.pattern v ∧ bs = f.pattern.binds v

theorem fits_withName_iff {p : Pattern} {name : String} {v : Value} :
    Fits (p.withName name) v ↔ Fits p v := by
  constructor
  · rintro ⟨matched, guarded⟩
    exact .intro matched guarded
  · rintro ⟨matched, guarded⟩
    exact .intro matched guarded

/-- A name is given the subject behind all names in the pattern. -/
theorem binds_withName {p : Pattern} (hName : p.name = none) (name : String) (v : Value) :
    (p.withName name).binds v = p.binds v ++ [(lowercase name, v)] := by
  obtain ⟨matcher, guard, own, label⟩ := p
  obtain rfl : own = none := hName
  simp [Pattern.withName, Pattern.binds, Pattern.nameBinds]

theorem fits_nested_iff {p : Pattern} {v : Value} : Fits p.nested v ↔ Fits p v := by
  rw [Pattern.nested, Pattern.fits_ofMatcher_iff]
  exact ⟨fun h => by cases h; assumption, .nested⟩

theorem binds_nested (p : Pattern) (v : Value) : p.nested.binds v = p.binds v := by
  rw [Pattern.nested, Pattern.binds_ofMatcher, Pattern.matcherBinds]

/-- A tree of a predicate gives no names. -/
theorem agrees_of_predicate {f : PatternTree} {label : String} {accepts : Value → Bool}
    (hPattern : f.pattern = .ofPredicate label accepts)
    (hOnly : ∀ v bs, Accepts f v bs → accepts v = true ∧ bs = [])
    (hAll : ∀ v, accepts v = true → Accepts f v []) : Agrees f := by
  intro v bs
  rw [hPattern, Pattern.fits_ofPredicate_iff, Pattern.binds_ofPredicate]
  constructor
  · exact hOnly v bs
  · rintro ⟨hAccepted, rfl⟩
    exact hAll v hAccepted

/-- Items accept values in turn if their patterns fit, and give the names that the patterns give. -/
theorem acceptsEach_iff {items : List PatternTree} (h : ∀ f ∈ items, Agrees f)
    {values : List Value} {bs : List Assignment} :
    AcceptsEach items values bs ↔ List.Forall₂ Fits (patterns items) values ∧
      bs = Pattern.elementBinds (patterns items) values := by
  induction items generalizing values bs with
  | nil =>
      constructor
      · rintro ⟨⟩
        exact ⟨.nil, rfl⟩
      · rintro ⟨⟨⟩, rfl⟩
        exact .nil
  | cons f rest ih =>
      rw [List.forall_mem_cons] at h
      constructor
      · rintro (_ | ⟨head, tail⟩)
        obtain ⟨fit, rfl⟩ := (h.1 _ _).1 head
        obtain ⟨fitRest, rfl⟩ := (ih h.2).1 tail
        exact ⟨.cons fit fitRest, rfl⟩
      · rintro ⟨_ | ⟨fit, fitRest⟩, rfl⟩
        exact .cons ((h.1 _ _).2 ⟨fit, rfl⟩) ((ih h.2).2 ⟨fitRest, rfl⟩)

/-- One tree accepts each of any number of values if its pattern fits them all. -/
theorem acceptsEach_replicate_iff {each : PatternTree} (h : Agrees each) {values : List Value}
    {bs : List Assignment} :
    AcceptsEach (List.replicate values.length each) values bs ↔
      (∀ v ∈ values, Fits each.pattern v) ∧ bs = values.flatMap each.pattern.binds := by
  induction values generalizing bs with
  | nil =>
      constructor
      · rintro ⟨⟩
        exact ⟨nofun, rfl⟩
      · rintro ⟨-, rfl⟩
        exact .nil
  | cons v values ih =>
      rw [List.length_cons, List.replicate_succ, List.forall_mem_cons, List.flatMap_cons]
      constructor
      · rintro (_ | ⟨head, tail⟩)
        obtain ⟨fit, rfl⟩ := (h _ _).1 head
        obtain ⟨fitRest, rfl⟩ := ih.1 tail
        exact ⟨⟨fit, fitRest⟩, rfl⟩
      · rintro ⟨⟨fit, fitRest⟩, rfl⟩
        exact .cons ((h _ _).2 ⟨fit, rfl⟩) (ih.2 ⟨fitRest, rfl⟩)

/-- Items behind the elements give no names among the elements. -/
theorem elementBinds_append {ps : List Pattern} {fixed : List Value}
    (hLength : fixed.length = ps.length) (others : List Value) :
    Pattern.elementBinds ps (fixed ++ others) = Pattern.elementBinds ps fixed := by
  induction ps generalizing fixed with
  | nil =>
      obtain rfl := List.length_eq_zero_iff.1 hLength
      cases others <;> rfl
  | cons p ps ih =>
      obtain ⟨v, fixed, rfl⟩ := List.exists_cons_of_length_eq_add_one hLength
      rw [List.cons_append, Pattern.elementBinds, Pattern.elementBinds,
        ih (Nat.succ.inj hLength)]

/-- An array agrees with its pattern if its items do. -/
theorem agrees_array {items : List PatternTree} (h : ∀ f ∈ items, Agrees f) :
    Agrees (.array items) := by
  intro v bs
  rw [pattern, Pattern.ofFixed, Pattern.fits_ofMatcher_iff, Pattern.binds_ofMatcher]
  constructor
  · intro hAccepts
    cases hAccepts with
    | array accepted =>
        obtain ⟨fit, rfl⟩ := (acceptsEach_iff h).1 accepted
        exact ⟨.exactArray fit, by simp [Pattern.matcherBinds, Pattern.tailBinds]⟩
  · rintro ⟨_ | _ | fit, rfl⟩
    refine .array ((acceptsEach_iff h).2 ⟨fit, ?_⟩)
    simp [Pattern.matcherBinds, Pattern.tailBinds]

/-- An array with a tail agrees with its pattern if its items and what the tail repeats do. The tail
takes what the items leave. -/
theorem agrees_openArray {items : List PatternTree} {each : PatternTree} {rest : Option String}
    (h : ∀ f ∈ items, Agrees f) (hEach : Agrees each) : Agrees (.openArray items each rest) := by
  intro v bs
  rw [pattern, Pattern.ofOpen, Pattern.fits_ofMatcher_iff, Pattern.binds_ofMatcher]
  have hBinds {fixed others : List Value} (hLength : fixed.length = (patterns items).length) :
      Pattern.matcherBinds (.array (patterns items) (some (TailPattern.ofRest each.pattern rest)))
        (.array (fixed ++ others)) = Pattern.elementBinds (patterns items) fixed ++
          (others.flatMap each.pattern.binds ++
            Pattern.nameBinds (rest.map lowercase) (.array others)) := by
    rw [Pattern.matcherBinds, elementBinds_append hLength, ← hLength, List.drop_left,
      TailPattern.ofRest, Pattern.tailBinds]
  constructor
  · intro hAccepts
    cases hAccepts with
    | openArray accepted acceptedOthers =>
        obtain ⟨fit, rfl⟩ := (acceptsEach_iff h).1 accepted
        obtain ⟨fitOthers, rfl⟩ := (acceptsEach_replicate_iff hEach).1 acceptedOthers
        exact ⟨.openArray fit fitOthers rfl, (hBinds fit.length_eq.symm).symm⟩
  · rintro ⟨_ | _ | _ | ⟨fit, fitOthers, -⟩, rfl⟩
    rw [hBinds fit.length_eq.symm]
    exact .openArray ((acceptsEach_iff h).2 ⟨fit, rfl⟩)
      ((acceptsEach_replicate_iff hEach).2 ⟨fitOthers, rfl⟩)

/-- Entries accept a map if their patterns fit what stands under their keys. An optional entry gives
no names where there is nothing, or nil. -/
theorem acceptsEntries_iff {entries : List (MapKey × PatternTree)}
    (h : ∀ e ∈ entries, Agrees e.2) {pairs : Dict} {bs : List Assignment} :
    AcceptsEntries entries pairs bs ↔ (∀ e ∈ entryPatterns entries, EntryFits pairs e) ∧
      bs = Pattern.entryBinds (entryPatterns entries) pairs := by
  induction entries generalizing bs with
  | nil =>
      constructor
      · rintro ⟨⟩
        exact ⟨nofun, rfl⟩
      · rintro ⟨-, rfl⟩
        exact .nil
  | cons e entries ih =>
      obtain ⟨key, f⟩ := e
      rw [List.forall_mem_cons] at h
      rw [entryPatterns, List.forall_mem_cons]
      constructor
      · rintro (_ | ⟨found, head, tail⟩ | ⟨found, notNil, head, tail⟩ | ⟨nothing, tail⟩)
        · obtain ⟨fit, rfl⟩ := (h.1 _ _).1 head
          obtain ⟨fitRest, rfl⟩ := (ih h.2).1 tail
          exact ⟨⟨⟨_, found, fit⟩, fitRest⟩, by rw [Pattern.entryBinds, found]⟩
        · obtain ⟨fit, rfl⟩ := (h.1 _ _).1 head
          obtain ⟨fitRest, rfl⟩ := (ih h.2).1 tail
          refine ⟨⟨fun w hw _ => ?_, fitRest⟩, by simp [Pattern.entryBinds, found, notNil]⟩
          exact Option.some.inj (found.symm.trans hw) ▸ fit
        · obtain ⟨fitRest, rfl⟩ := (ih h.2).1 tail
          refine ⟨⟨fun w hw hSome => ?_, fitRest⟩, ?_⟩
          · simp [nothing w hw] at hSome
          · rw [Pattern.entryBinds]
            cases hFound : pairs.get? _ with
            | none => rfl
            | some w => simp [nothing w hFound]
      · rintro ⟨⟨fit, fitRest⟩, rfl⟩
        have hTail := (ih h.2).2 ⟨fitRest, rfl⟩
        cases key with
        | required key =>
            obtain ⟨v, found, fit⟩ := fit
            rw [Pattern.entryBinds, found]
            exact .required found ((h.1 _ _).2 ⟨fit, rfl⟩) hTail
        | optional key =>
            cases hFound : pairs.get? key with
            | none =>
                rw [Pattern.entryBinds, hFound]
                exact .skipped (by simp [hFound]) hTail
            | some v =>
                cases hNil : v.isNil with
                | true =>
                    simp only [Pattern.entryBinds, hFound, hNil, if_true, List.nil_append]
                    exact .skipped (by simp [hFound, hNil]) hTail
                | false =>
                    simp only [Pattern.entryBinds, hFound, hNil, Bool.false_eq_true, if_false]
                    exact .optional hFound hNil ((h.1 _ _).2 ⟨fit v hFound hNil, rfl⟩) hTail

/-- A map agrees with its pattern if the values of its entries do. -/
theorem agrees_map {entries : List (MapKey × PatternTree)} (h : ∀ e ∈ entries, Agrees e.2) :
    Agrees (.map entries) := by
  intro v bs
  rw [pattern, Pattern.ofEntries, Pattern.fits_ofMatcher_iff, Pattern.binds_ofMatcher]
  constructor
  · intro hAccepts
    cases hAccepts with
    | map accepted =>
        obtain ⟨fit, rfl⟩ := (acceptsEntries_iff h).1 accepted
        exact ⟨fitsMatcher_map_iff.2 fit, rfl⟩
  · rintro ⟨fit, rfl⟩
    cases v with
    | map pairs =>
        exact .map ((acceptsEntries_iff h).2 ⟨fitsMatcher_map_iff.1 fit, rfl⟩)
    | _ => cases fit

/-- What a tree accepts and the names that it gives are those of its pattern. -/
theorem agrees (f : PatternTree) : Agrees f := by
  induction f with
  | wildcard =>
      refine agrees_of_predicate rfl (fun v bs h => ?_) fun v _ => .wildcard
      cases h
      exact ⟨rfl, rfl⟩
  | name n =>
      intro v bs
      rw [pattern, fits_withName_iff, binds_withName rfl, Pattern.wildcard,
        Pattern.fits_ofPredicate_iff, Pattern.binds_ofPredicate]
      constructor
      · rintro ⟨⟩
        exact ⟨rfl, rfl⟩
      · rintro ⟨-, rfl⟩
        exact .name
  | kind k =>
      refine agrees_of_predicate rfl (fun v bs h => ?_) fun v => .kind
      cases h with
      | kind admitted => exact ⟨admitted, rfl⟩
  | range r =>
      refine agrees_of_predicate rfl (fun v bs h => ?_) fun v => .range
      cases h with
      | range contained => exact ⟨contained, rfl⟩
  | regex r =>
      refine agrees_of_predicate rfl (fun v bs h => ?_) fun v occurs => ?_
      · cases h with
        | regex occurs => exact ⟨occurs, rfl⟩
      · cases v with
        | string text => exact .regex occurs
        | _ => cases occurs
  | symbolRegex r =>
      refine agrees_of_predicate rfl (fun v bs h => ?_) fun v occurs => ?_
      · cases h with
        | symbolRegex occurs => exact ⟨occurs, rfl⟩
      · cases v with
        | symbol name => exact .symbolRegex occurs
        | _ => cases occurs
  | scalar s =>
      refine agrees_of_predicate rfl (fun v bs h => ?_) fun v => .scalar
      cases h with
      | scalar equal => exact ⟨equal, rfl⟩
  | array items hItems => exact agrees_array hItems
  | openArray items each rest hItems hEach => exact agrees_openArray hItems hEach
  | map entries hEntries => exact agrees_map hEntries
  | named inner n ih =>
      intro v bs
      rw [pattern, fits_withName_iff, binds_withName rfl, fits_nested_iff, binds_nested]
      constructor
      · intro h
        cases h with
        | named accepted =>
            obtain ⟨fit, rfl⟩ := (ih _ _).1 accepted
            exact ⟨fit, rfl⟩
      · rintro ⟨fit, rfl⟩
        exact .named ((ih _ _).2 ⟨fit, rfl⟩)

/-- A subject matches the pattern of a tree where the tree accepts it and gives no name two values
that differ. The names are then bound to their first values. -/
theorem test_pattern_eq_ok_iff (f : PatternTree) (v : Value) (b : Bindings) :
    f.pattern.test v = .ok b ↔ ∃ bs, Accepts f v bs ∧ Consistent bs ∧ b = .ofAssignments bs := by
  rw [Pattern.test_eq_ok_iff, Check.allMet_iff, Pattern.satisfied_checks,
    Pattern.assignments_checks]
  constructor
  · rintro ⟨⟨fit, consistent⟩, rfl⟩
    exact ⟨_, (agrees f _ _).2 ⟨fit, rfl⟩, consistent, rfl⟩
  · rintro ⟨bs, accepted, consistent, rfl⟩
    obtain ⟨fit, rfl⟩ := (agrees f _ _).1 accepted
    exact ⟨⟨fit, consistent⟩, rfl⟩

end PatternTree

end CaseMatch
