import CaseMatch.Proofs.Pattern.GivenNames
import CaseMatch.Proofs.Surface.PatternNotation

/-!
The names in a pattern that is read from a text. The notation gives all of them by `named`, so that
what a match of such a pattern binds can be read off the pattern.
-/

namespace CaseMatch.Surface

/-- The tokens name variables by identifiers only. -/
def NamesSpelled (tokens : List Token) : Prop := ∀ t ∈ tokens, t.IsSpelled

variable {tokens : List Token}

/-- Names that are spelled as names in some tokens are so in any among these. -/
theorem NamesSpelled.inside {us : List Token} (h : NamesSpelled tokens) (hus : us <:+: tokens) :
    NamesSpelled us :=
  fun t ht => h t (hus.subset ht)

theorem NamesSpelled.isVariableName {name : String}
    (h : NamesSpelled (tokens ++ [.atSign, .identifier name])) : isVariableName name = true :=
  h (.identifier name) (by simp)

theorem NamesSpelled.inside_brackets {first last : Token}
    (h : NamesSpelled (first :: (tokens ++ [last]))) : NamesSpelled tokens :=
  h.inside (Surface.inside_brackets first last tokens)

variable [RegexEngine]

/-- From whatever tokens a tree is derived, all names in its pattern are given. -/
def GivesNames (f : PatternTree) : Prop :=
  ∀ tokens, NamesSpelled tokens → Derives tokens f → f.pattern.NamesGiven

theorem givesNames_name (name : String) : GivesNames (.name name) := by
  intro tokens hSpelled hDerives
  cases hDerives with
  | plain primary =>
      cases primary with
      | name =>
          have hName : isVariableName name = true := hSpelled (.identifier name) (by simp)
          exact (Pattern.namesGiven_ofPredicate _ _).named (named_of_isVariableName hName .wildcard)

theorem givesNames_named {inner : PatternTree} (h : GivesNames inner) (name : String) :
    GivesNames (.named inner name) := by
  intro tokens hSpelled hDerives
  cases hDerives with
  | plain primary => cases primary
  | @named us _ primary _ =>
      have hInner := hSpelled.inside (List.prefix_append us _).isInfix
      exact (h us hInner (.plain primary)).nested.named
        (named_of_isVariableName hSpelled.isVariableName _)

/-- The patterns of items without a star have their names given, if the names in their tokens are
spelled as names. -/
theorem namesGiven_of_listed {items : List PatternTree} (h : ∀ f ∈ items, GivesNames f)
    (hSpelled : NamesSpelled tokens) {xs : List ItemTree} (listed : Listed DerivesItem tokens xs)
    (hItems : ∀ f ∈ items, .plain f ∈ xs) :
    ∀ p ∈ PatternTree.patterns items, p.NamesGiven := by
  rw [PatternTree.patterns_eq_map, List.forall_mem_map]
  intro f hf
  obtain ⟨us, hInside, hItem⟩ := listed.exists_inside _ (hItems f hf)
  exact h f hf us (hSpelled.inside hInside) (derivesItem_plain_iff.1 hItem)

/-- A tail has its names given if what it repeats has and its own is spelled as a name. -/
theorem namesGiven_of_starred {each : PatternTree} {rest : Option String} (h : GivesNames each)
    (hSpelled : NamesSpelled tokens) (hItem : DerivesItem tokens (.starred each rest)) :
    (TailPattern.ofRest each.pattern rest).NamesGiven := by
  cases hItem with
  | @starred us _ primary =>
      have hEach := hSpelled.inside (List.suffix_cons Token.star us).isInfix
      exact TailPattern.namesGiven_ofPattern (h us hEach (.plain primary))
  | @starredNamed us _ primary name =>
      have hNamed := hSpelled.inside (List.suffix_cons Token.star _).isInfix
      have hEach := hNamed.inside (List.prefix_append us _).isInfix
      exact (TailPattern.namesGiven_ofPattern (h us hEach (.plain primary))).named
        (tailNamed_of_isVariableName hNamed.isVariableName _)

theorem givesNames_array {items : List PatternTree} (h : ∀ f ∈ items, GivesNames f) :
    GivesNames (.array items) := by
  intro tokens hSpelled hDerives
  cases hDerives with
  | plain primary =>
      cases primary with
      | array listed =>
          refine Pattern.namesGiven_array ?_ (fun t ht => ?_) _
          · exact namesGiven_of_listed h hSpelled.inside_brackets listed fun f hf =>
              List.mem_map_of_mem hf
          · cases ht

/-- An open array has its names given: those of its items, of what its tail repeats, and of the
tail. -/
theorem givesNames_openArray {items : List PatternTree} {each : PatternTree}
    (h : ∀ f ∈ items, GivesNames f) (hEach : GivesNames each) (rest : Option String) :
    GivesNames (.openArray items each rest) := by
  intro tokens hSpelled hDerives
  cases hDerives with
  | plain primary =>
      cases primary with
      | openArray listed =>
          have hParts := hSpelled.inside_brackets
          obtain ⟨us, hInside, hItem⟩ := listed.exists_inside (.starred each rest) (by simp)
          refine Pattern.namesGiven_array ?_ (fun t ht => ?_) _
          · exact namesGiven_of_listed h hParts listed fun f hf =>
              List.mem_append_left _ (List.mem_map_of_mem hf)
          · obtain rfl := Option.mem_some_iff.1 ht
            exact namesGiven_of_starred hEach (hParts.inside hInside) hItem

/-- A map has its names given if its entries have. -/
theorem givesNames_map {entries : List (MapKey × PatternTree)}
    (h : ∀ e ∈ entries, GivesNames e.2) : GivesNames (.map entries) := by
  intro tokens hSpelled hDerives
  cases hDerives with
  | plain primary =>
      cases primary with
      | map listed =>
          rw [PatternTree.pattern, PatternTree.entryPatterns_eq_map]
          apply Pattern.namesGiven_ofEntries
          rw [List.forall_mem_map]
          intro e he
          obtain ⟨us, hInside, hEntry⟩ := listed.exists_inside e he
          have hEntrySpelled := hSpelled.inside_brackets.inside hInside
          cases hEntry with
          | intro left right =>
              exact h _ he _ (hEntrySpelled.inside (inside_behind _ _ _)) right

/-- Whatever tree is derived from tokens whose names are spelled as names, the names in its pattern
are given. -/
theorem givesNames (f : PatternTree) : GivesNames f := by
  induction f with
  | name n => exact givesNames_name n
  | array items ih => exact givesNames_array ih
  | openArray items each rest hItems hEach => exact givesNames_openArray hItems hEach rest
  | map entries ih => exact givesNames_map ih
  | named inner n ih => exact givesNames_named ih n
  | _ => exact fun _ _ _ => Pattern.namesGiven_ofPredicate _ _

/-- All names in a pattern that is read from a text are given. -/
theorem namesGiven_of_parsePattern {code : String} {p : Pattern} (h : parsePattern code = .ok p) :
    p.NamesGiven := by
  cases hLex : lex code with
  | error fault =>
      rw [parsePattern, lexemes, hLex] at h
      cases h
  | ok ls =>
      have hSpelled := isSpelled_of_lex hLex
      rw [parsePattern_eq_readPattern hLex, readPattern_eq_ok_iff_derives hSpelled] at h
      obtain ⟨f, hDerives, rfl⟩ := h
      exact givesNames f _ (List.forall_mem_map.2 hSpelled) hDerives

end CaseMatch.Surface
