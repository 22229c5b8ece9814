import CaseMatch.Proofs.Pattern.PatternTree
import CaseMatch.Proofs.Surface.ListReading
import CaseMatch.Proofs.Surface.Names

/-!
The grammar of patterns, told without a reader: which sequences of tokens are derived as which
trees. A star may stand before the last item of an array and nowhere else, and a regular expression
has to be one for the engine. Names need no condition.
-/

namespace CaseMatch.Surface

/-- An item of an array as it is written, without a star or with one. -/
inductive ItemTree where
  | plain (f : PatternTree)
  | starred (each : PatternTree) (rest : Option String)

/-- The token between the bounds of a range. -/
def rangeSign (inclusive : Bool) : Token := if inclusive then .inclusiveRange else .exclusiveRange

/-- Tokens of a key of a map pattern. A value in brackets is an optional key, so that no other key
begins with a bracket. -/
inductive DerivesKey : List Token → MapKey → Prop where
  | optional {tokens : List Token} {key : Value} (denotes : Denotes tokens key) :
      DerivesKey (.leftBracket :: (tokens ++ [.rightBracket])) (.optional key)
  | required {tokens : List Token} {key : Value} (denotes : Denotes tokens key)
      (unbracketed : tokens.head? ≠ some .leftBracket) : DerivesKey tokens (.required key)

theorem DerivesKey.exists_head {tokens : List Token} {key : MapKey} (h : DerivesKey tokens key) :
    ∃ first rest, tokens = first :: rest ∧ first ≠ .rightCurly := by
  cases h with
  | optional denotes => exact ⟨_, _, rfl, nofun⟩
  | required denotes unbracketed => exact denotes_opens (.inr rfl) _ _ denotes

variable [RegexEngine]

mutual

/-- Tokens of a pattern: those of a primary, with or without a name behind an at sign. -/
inductive Derives : List Token → PatternTree → Prop where
  | plain {tokens : List Token} {f : PatternTree} (primary : DerivesPrimary tokens f) :
      Derives tokens f
  | named {tokens : List Token} {f : PatternTree} (primary : DerivesPrimary tokens f)
      (name : String) : Derives (tokens ++ [.atSign, .identifier name]) (.named f name)

/-- Tokens of what can stand before an at sign. -/
inductive DerivesPrimary : List Token → PatternTree → Prop where
  | wildcard : DerivesPrimary [.wildcard] .wildcard
  | name (n : String) : DerivesPrimary [.identifier n] (.name n)
  | kind (n : String) : DerivesPrimary [.typeName n] (.kind (kindNamed n))
  | range (r : NumberRange) :
      DerivesPrimary [.integer r.start, rangeSign r.inclusive, .integer r.stop] (.range r)
  | regex {source : String} {r : Regex} (valid : Regex.compile? source = some r) :
      DerivesPrimary [.regex source] (.regex r)
  | symbolRegex {source : String} {r : Regex} (valid : Regex.compile? source = some r) :
      DerivesPrimary [.symbolRegex source] (.symbolRegex r)
  | scalar {t : Token} {v : Value} (denotes : t.scalar? = some v) : DerivesPrimary [t] (.scalar v)
  | array {tokens : List Token} {items : List PatternTree}
      (listed : Listed DerivesItem tokens (items.map .plain)) :
      DerivesPrimary (.leftBracket :: (tokens ++ [.rightBracket])) (.array items)
  | openArray {tokens : List Token} {items : List PatternTree} {each : PatternTree}
      {rest : Option String}
      (listed : Listed DerivesItem tokens (items.map .plain ++ [.starred each rest])) :
      DerivesPrimary (.leftBracket :: (tokens ++ [.rightBracket])) (.openArray items each rest)
  | map {tokens : List Token} {entries : List (MapKey × PatternTree)}
      (listed : Listed DerivesEntry tokens entries) :
      DerivesPrimary (.leftCurly :: (tokens ++ [.rightCurly])) (.map entries)

/-- Tokens of an item of an array. -/
inductive DerivesItem : List Token → ItemTree → Prop where
  | plain {tokens : List Token} {f : PatternTree} (pattern : Derives tokens f) :
      DerivesItem tokens (.plain f)
  | starred {tokens : List Token} {f : PatternTree} (primary : DerivesPrimary tokens f) :
      DerivesItem (.star :: tokens) (.starred f none)
  | starredNamed {tokens : List Token} {f : PatternTree} (primary : DerivesPrimary tokens f)
      (name : String) :
      DerivesItem (.star :: (tokens ++ [.atSign, .identifier name])) (.starred f (some name))

/-- Tokens of an entry of a map. -/
inductive DerivesEntry : List Token → MapKey × PatternTree → Prop where
  | intro {ofKey ofPattern : List Token} {key : MapKey} {f : PatternTree}
      (left : DerivesKey ofKey key) (right : Derives ofPattern f) :
      DerivesEntry (ofKey ++ .fatArrow :: ofPattern) (key, f)

end

/-! ### Entries as they are read -/

/-- Tokens of an entry of a map as they are read, with a star allowed before the value. -/
inductive DerivesKeyed : List Token → MapKey × ItemTree → Prop where
  | intro {ofKey ofItem : List Token} {key : MapKey} {x : ItemTree}
      (left : DerivesKey ofKey key) (right : DerivesItem ofItem x) :
      DerivesKeyed (ofKey ++ .fatArrow :: ofItem) (key, x)

/-- Without a star an item is a pattern of the grammar. -/
theorem derivesItem_plain_iff {tokens : List Token} {f : PatternTree} :
    DerivesItem tokens (.plain f) ↔ Derives tokens f :=
  ⟨fun h => by cases h; assumption, .plain⟩

/-- Without a star an entry is one of the grammar. -/
theorem derivesKeyed_plain_iff {tokens : List Token} {e : MapKey × PatternTree} :
    DerivesKeyed tokens (e.1, .plain e.2) ↔ DerivesEntry tokens e := by
  obtain ⟨key, f⟩ := e
  constructor
  · rintro ⟨left, right⟩
    exact .intro left (derivesItem_plain_iff.1 right)
  · rintro ⟨left, right⟩
    exact .intro left (.plain right)

/-- Entries without a star are those of the grammar. -/
theorem listed_keyed_iff {tokens : List Token} {fs : List (MapKey × PatternTree)} :
    Listed DerivesKeyed tokens (fs.map fun e => (e.1, .plain e.2)) ↔
      Listed DerivesEntry tokens fs := by
  rw [Listed.map_iff]
  simp only [derivesKeyed_plain_iff]

/-! ### How each begins -/

/-- No primary begins with a closing bracket or a star. -/
theorem DerivesPrimary.exists_head {tokens : List Token} {f : PatternTree}
    (h : DerivesPrimary tokens f) : ∃ first rest, tokens = first :: rest ∧
      first ≠ .rightBracket ∧ first ≠ .star := by
  cases h with
  | scalar denotes =>
      refine ⟨_, [], rfl, ?_, ?_⟩ <;>
      · rintro rfl
        cases denotes
  | _ => exact ⟨_, _, rfl, nofun, nofun⟩

/-- No pattern begins with a closing bracket or a star, so that its first token tells it from the
end of a list and from a tail. -/
theorem Derives.exists_head {tokens : List Token} {f : PatternTree} (h : Derives tokens f) :
    ∃ first rest, tokens = first :: rest ∧
      first ≠ .rightBracket ∧ first ≠ .star := by
  cases h with
  | plain primary => exact primary.exists_head
  | named primary name =>
      obtain ⟨first, rest, rfl, hFirst⟩ := primary.exists_head
      exact ⟨first, _, rfl, hFirst⟩

theorem derivesItem_opens : Opens .rightBracket DerivesItem := by
  intro tokens x h
  cases h with
  | plain pattern =>
      obtain ⟨first, rest, rfl, hFirst, -⟩ := pattern.exists_head
      exact ⟨first, rest, rfl, hFirst⟩
  | starred primary => exact ⟨_, _, rfl, nofun⟩
  | starredNamed primary name => exact ⟨_, _, rfl, nofun⟩

theorem DerivesItem.exists_star {tokens : List Token} {each : PatternTree} {name : Option String}
    (h : DerivesItem tokens (.starred each name)) : ∃ rest, tokens = .star :: rest := by
  cases h <;> exact ⟨_, rfl⟩

/-- No entry begins with a closing brace. -/
theorem derivesKeyed_opens : Opens .rightCurly DerivesKeyed := by
  rintro _ _ ⟨left, -⟩
  obtain ⟨first, rest, rfl, hFirst⟩ := left.exists_head
  exact ⟨first, _, rfl, hFirst⟩

end CaseMatch.Surface
