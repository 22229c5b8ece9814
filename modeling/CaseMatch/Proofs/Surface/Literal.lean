import CaseMatch.Proofs.Pattern.ValuePattern
import CaseMatch.Proofs.Surface.ValueReading

/-!
Literals: tokens that denote a value and a pattern. Both notations have the same scalars and the
same brackets, but in a pattern a key in brackets is an optional one. A key that begins with a
bracket is therefore one in a pattern only if it is an array of one item, with no comma behind the
item. Where no map has a key twice, the pattern is the one that the value stands for.
-/

namespace CaseMatch.Surface

/-- Tokens that denote a value where a key of a value is read, and a key of a pattern where one of
these is. -/
inductive LiteralKey : List Token → Value × MapKey → Prop where
  | required {tokens : List Token} {key : Value} (denotes : Denotes tokens key)
      (unbracketed : tokens.head? ≠ some .leftBracket) : LiteralKey tokens (key, .required key)
  | optional {tokens : List Token} {key : Value} (denotes : Denotes tokens key) :
      LiteralKey (.leftBracket :: (tokens ++ [.rightBracket])) (.array [key], .optional key)

mutual

/-- Tokens that denote a value as well as a pattern. -/
inductive Literal : List Token → Value × Pattern → Prop where
  | scalar {t : Token} {v : Value} (denotes : t.scalar? = some v) : Literal [t] (v, .literal v)
  | array {tokens : List Token} {parts : List (Value × Pattern)}
      (listed : Listed Literal tokens parts) :
      Literal (.leftBracket :: (tokens ++ [.rightBracket]))
        (.array (parts.map Prod.fst), .ofFixed (parts.map Prod.snd))
  | map {tokens : List Token} {parts : List ((Value × Value) × (MapKey × Pattern))}
      (listed : Listed LiteralEntry tokens parts) :
      Literal (.leftCurly :: (tokens ++ [.rightCurly]))
        (.map (Dict.ofList (parts.map Prod.fst)), .ofEntries (parts.map Prod.snd))

/-- Tokens that denote a key with its value as well as an entry of a pattern. -/
inductive LiteralEntry : List Token → (Value × Value) × (MapKey × Pattern) → Prop where
  | intro {ofKey ofValue : List Token} {key v : Value} {k : MapKey} {p : Pattern}
      (left : LiteralKey ofKey (key, k)) (right : Literal ofValue (v, p)) :
      LiteralEntry (ofKey ++ .fatArrow :: ofValue) ((key, v), (k, p))

end

theorem inside_behind (t : Token) (us vs : List Token) : vs <:+: us ++ t :: vs :=
  ((List.suffix_cons t vs).trans (List.suffix_append us _)).isInfix

theorem inside_brackets (first last : Token) (tokens : List Token) :
    tokens <:+: first :: (tokens ++ [last]) :=
  ⟨[first], [last], by simp⟩

namespace Listed

variable {α β : Type} {Item : List Token → α → Prop} {tokens : List Token} {items : List α}

/-- Each item has tokens of its own inside the list. -/
theorem exists_inside (h : Listed Item tokens items) :
    ∀ a ∈ items, ∃ us, us <:+: tokens ∧ Item us a := by
  induction items generalizing tokens with
  | nil => simp
  | cons first items ih =>
      rw [List.forall_mem_cons]
      rcases cons_iff.1 h with ⟨rfl, hItem⟩ | ⟨us, vs, rfl, hItem, hRest⟩
      · exact ⟨⟨tokens, List.infix_refl tokens, hItem⟩, nofun⟩
      · refine ⟨⟨us, (List.prefix_append us _).isInfix, hItem⟩, fun a ha => ?_⟩
        obtain ⟨part, hPart, hOther⟩ := ih hRest a ha
        exact ⟨part, hPart.trans (inside_behind .comma us vs), hOther⟩

/-- A list of items is one of what each item comes to. -/
theorem map {Other : List Token → β → Prop} {f : α → β} (h : Listed Item tokens items)
    (hItem : ∀ us a, us <:+: tokens → Item us a → Other us (f a)) :
    Listed Other tokens (items.map f) := by
  induction items generalizing tokens with
  | nil =>
      rw [nil_iff.1 h]
      exact .empty
  | cons first items ih =>
      rcases cons_iff.1 h with ⟨rfl, hFirst⟩ | ⟨us, vs, rfl, hFirst, hRest⟩
      · exact one (hItem tokens first (List.infix_refl tokens) hFirst)
      · exact cons (hItem us first (List.prefix_append us _).isInfix hFirst)
          (ih hRest fun part a hPart => hItem part a (hPart.trans (inside_behind .comma us vs)))

/-- A list whose items stand for something else as well is one of what they stand for. -/
theorem exists_parts {Both : List Token → α × β → Prop} (h : Listed Item tokens items)
    (hItem : ∀ us a, us <:+: tokens → Item us a → ∃ b, Both us (a, b)) :
    ∃ parts, parts.map Prod.fst = items ∧ Listed Both tokens parts := by
  induction items generalizing tokens with
  | nil =>
      rw [nil_iff.1 h]
      exact ⟨[], rfl, .empty⟩
  | cons first items ih =>
      rcases cons_iff.1 h with ⟨rfl, hFirst⟩ | ⟨us, vs, rfl, hFirst, hRest⟩
      · obtain ⟨b, hBoth⟩ := hItem tokens first (List.infix_refl tokens) hFirst
        exact ⟨[(first, b)], rfl, .one hBoth⟩
      · obtain ⟨b, hBoth⟩ := hItem us first (List.prefix_append us _).isInfix hFirst
        obtain ⟨parts, rfl, hParts⟩ :=
          ih hRest fun part a hPart => hItem part a (hPart.trans (inside_behind .comma us vs))
        exact ⟨(first, b) :: parts, rfl, .cons hBoth hParts⟩

end Listed

/-- Tokens between brackets are fewer than those with the brackets. -/
theorem length_lt_of_inside {us tokens : List Token} {first last : Token} (h : us <:+: tokens) :
    us.length < (first :: (tokens ++ [last])).length := by
  have hLength := h.length_le
  simp only [List.length_cons, List.length_append, List.length_nil]
  omega

/-! ### Values of the notation -/

/-- What tokens denote is a value that can be built. -/
theorem Denotes.built {tokens : List Token} {v : Value} (h : Denotes tokens v) : v.Built := by
  induction hLength : tokens.length using Nat.strongRecOn generalizing tokens v with
  | ind n ih =>
      subst hLength
      cases h with
      | nil => exact .nil
      | boolean b => exact .boolean b
      | integer n => exact .integer n
      | float x => exact .float x
      | string text => exact .string text
      | symbol name => exact .symbol name
      | array listed =>
          refine .array fun item hItem => ?_
          obtain ⟨us, hInside, hDenotes⟩ := listed.exists_inside item hItem
          exact ih _ (length_lt_of_inside hInside) hDenotes rfl
      | @map inside pairs entries listed collected =>
          rw [collects_iff.1 collected]
          refine .ofList fun pair hPair => ?_
          obtain ⟨us, hInside, hDenotes⟩ := listed.exists_inside pair hPair
          obtain ⟨left, right⟩ := hDenotes
          have hKey := (List.prefix_append _ _).isInfix.trans hInside
          have hValue := (inside_behind .fatArrow _ _).trans hInside
          exact ⟨ih _ (length_lt_of_inside hKey) left rfl,
            ih _ (length_lt_of_inside hValue) right rfl⟩

/-- A literal key denotes the value that it is in a map. -/
theorem LiteralKey.denotes {tokens : List Token} {key : Value} {k : MapKey}
    (h : LiteralKey tokens (key, k)) : Denotes tokens key := by
  cases h with
  | required denotes => exact denotes
  | optional denotes => exact .array (.one denotes)

/-- A key in brackets is an array of one item. -/
theorem LiteralKey.exists_singleton {tokens : List Token} {key : Value} {k : MapKey}
    (h : LiteralKey tokens (key, k)) (hBracket : tokens.head? = some .leftBracket) :
    ∃ inner, key = .array [inner] ∧ k = .optional inner := by
  cases h with
  | required denotes unbracketed => exact absurd hBracket unbracketed
  | optional denotes => exact ⟨_, rfl, rfl⟩

theorem denotes_of_scalar {t : Token} {v : Value} (h : t.scalar? = some v) : Denotes [t] v := by
  refine (denotes_scalar_iff ?_ ?_).2 ⟨rfl, h⟩
  · rintro rfl
    cases h
  · rintro rfl
    cases h

/-- A literal denotes its value. -/
theorem Literal.denotes {tokens : List Token} {v : Value} {p : Pattern}
    (h : Literal tokens (v, p)) : Denotes tokens v := by
  induction hLength : tokens.length using Nat.strongRecOn generalizing tokens v p with
  | ind n ih =>
      subst hLength
      cases h with
      | scalar denotes => exact denotes_of_scalar denotes
      | array listed =>
          refine .array (listed.map fun us part hInside hPart => ?_)
          exact ih _ (length_lt_of_inside hInside) hPart rfl
      | map listed =>
          refine .map (listed.map fun us part hInside hPart => ?_) (collects_iff.2 rfl)
          obtain ⟨left, right⟩ := hPart
          have hValue := (inside_behind .fatArrow _ _).trans hInside
          exact .intro left.denotes (ih _ (length_lt_of_inside hValue) right rfl)

theorem LiteralEntry.denotes {tokens : List Token} {pair : Value × Value} {e : MapKey × Pattern}
    (h : LiteralEntry tokens (pair, e)) : DenotesPair tokens pair := by
  obtain ⟨left, right⟩ := h
  exact .intro left.denotes right.denotes

/-- Every key that is written among some tokens is a key in a pattern as well. -/
def KeysFit (tokens : List Token) : Prop :=
  ∀ ofKey key, ofKey ++ [.fatArrow] <:+: tokens → Denotes ofKey key →
    ∃ k, LiteralKey ofKey (key, k)

/-- If the keys fit in some tokens they fit in any among these. -/
theorem KeysFit.of_inside {us tokens : List Token} (h : KeysFit tokens) (hInside : us <:+: tokens) :
    KeysFit us :=
  fun ofKey key hKey => h ofKey key (hKey.trans hInside)

/-- A value is a literal if its keys fit. -/
theorem Denotes.exists_literal {tokens : List Token} {v : Value} (h : Denotes tokens v)
    (hKeys : KeysFit tokens) : ∃ p, Literal tokens (v, p) := by
  induction hLength : tokens.length using Nat.strongRecOn generalizing tokens v with
  | ind n ih =>
      subst hLength
      cases h with
      | nil | boolean | integer | float | string | symbol => exact ⟨_, .scalar rfl⟩
      | @array inside items listed =>
          obtain ⟨parts, rfl, hParts⟩ := listed.exists_parts fun us item hInside hItem =>
            ih _ (length_lt_of_inside hInside) hItem
              (hKeys.of_inside (hInside.trans (inside_brackets _ _ inside))) rfl
          exact ⟨_, .array hParts⟩
      | @map inside pairs entries listed collected =>
          obtain rfl := collects_iff.1 collected
          have hEntries (us : List Token) (pair : Value × Value) (hInside : us <:+: inside)
              (hPair : DenotesPair us pair) : ∃ e, LiteralEntry us (pair, e) := by
            have hFit := hKeys.of_inside (hInside.trans (inside_brackets _ _ inside))
            obtain ⟨left, right⟩ := hPair
            rename_i ofKey ofValue key value
            have hKey : ofKey ++ [.fatArrow] <:+: ofKey ++ .fatArrow :: ofValue :=
              ⟨[], ofValue, by simp⟩
            have hValue := inside_behind .fatArrow ofKey ofValue
            obtain ⟨k, hLiteralKey⟩ := hFit ofKey key hKey left
            obtain ⟨p, hLiteral⟩ := ih _ (length_lt_of_inside (hValue.trans hInside)) right
              (hFit.of_inside hValue) rfl
            exact ⟨(k, p), .intro hLiteralKey hLiteral⟩
          obtain ⟨parts, rfl, hParts⟩ := listed.exists_parts hEntries
          exact ⟨_, .map hParts⟩

/-! ### The pattern of a literal -/

/-- A key in a pattern is the key that its value stands for. -/
theorem LiteralKey.eq_keyOfValue {tokens : List Token} {key : Value} {k : MapKey}
    (h : LiteralKey tokens (key, k)) : k = Template.keyOfValue key := by
  cases h with
  | optional denotes => rfl
  | required denotes unbracketed =>
      cases denotes with
      | array => exact absurd rfl unbracketed
      | _ => rfl

/-- No map that is written among some tokens has a key twice. -/
def DistinctKeys (tokens : List Token) : Prop :=
  ∀ inside pairs, .leftCurly :: (inside ++ [.rightCurly]) <:+: tokens →
    Listed DenotesPair inside pairs → Dict.Distinct pairs

/-- If no key is repeated in some tokens then none is in any among these. -/
theorem DistinctKeys.of_inside {us tokens : List Token} (h : DistinctKeys tokens)
    (hInside : us <:+: tokens) : DistinctKeys us :=
  fun within pairs hWithin => h within pairs (hWithin.trans hInside)

/-- Where no map has a key twice, the pattern of a literal is the one that its value stands for. -/
theorem Literal.eq_ofValue {tokens : List Token} {v : Value} {p : Pattern}
    (h : Literal tokens (v, p)) (hDistinct : DistinctKeys tokens) : p = .ofValue v := by
  induction hLength : tokens.length using Nat.strongRecOn generalizing tokens v p with
  | ind n ih =>
      subst hLength
      cases h with
      | @scalar t v denotes =>
          cases t <;> cases denotes <;> rfl
      | @array inside parts listed =>
          have hParts : ∀ part ∈ parts, part.2 = Pattern.ofValue part.1 := by
            intro part hPart
            obtain ⟨us, hInside, hLiteral⟩ := listed.exists_inside part hPart
            exact ih _ (length_lt_of_inside hInside) hLiteral
              (hDistinct.of_inside (hInside.trans (inside_brackets _ _ inside))) rfl
          have hItems : parts.map Prod.snd = Pattern.ofItems (parts.map Prod.fst) := by
            rw [Pattern.ofItems_eq_map, List.map_map]
            exact List.map_congr_left hParts
          rw [hItems]
          rfl
      | @map inside parts listed =>
          have hParts : ∀ part ∈ parts, part.1.1.Built ∧
              part.2 = (Template.keyOfValue part.1.1, Pattern.ofValue part.1.2) := by
            intro part hPart
            obtain ⟨us, hInside, hEntry⟩ := listed.exists_inside part hPart
            obtain ⟨left, right⟩ := hEntry
            have hBehind := (inside_behind .fatArrow _ _).trans hInside
            have hValue := ih _ (length_lt_of_inside hBehind) right
              (hDistinct.of_inside (hBehind.trans (inside_brackets _ _ inside))) rfl
            exact ⟨left.denotes.built, by rw [left.eq_keyOfValue, hValue]⟩
          have hPairs : Dict.ofList (parts.map Prod.fst) = parts.map Prod.fst := by
            have hListed := listed.map fun us part _ hPart => hPart.denotes
            refine (hDistinct inside _ (List.infix_refl _) hListed).ofList_eq ?_
            rw [List.forall_mem_map]
            exact fun part hPart => (hParts part hPart).1
          have hEntries : parts.map Prod.snd = Pattern.ofPairs (parts.map Prod.fst) := by
            rw [Pattern.ofPairs_eq_map, List.map_map]
            exact List.map_congr_left fun part hPart => (hParts part hPart).2
          rw [hPairs, hEntries]
          rfl

end CaseMatch.Surface
