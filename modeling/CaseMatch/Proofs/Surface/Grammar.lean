import CaseMatch.Proofs.Value.Collection
import CaseMatch.Surface.Reader
import Mathlib.Data.List.Forall2

/-!
The grammar of values, told without a reader: which sequences of tokens denote which values. A list
in brackets holds items with commas between them, and one more comma may stand behind the last item.
-/

namespace CaseMatch

namespace Surface

/-- Tokens between two brackets that are read as a list of items: none, or those of the items with
commas between them, with or without a comma behind the last. -/
inductive Listed {α : Type} (Item : List Token → α → Prop) : List Token → List α → Prop where
  | empty : Listed Item [] []
  | filled {parts : List (List Token)} {items : List α} {trailing : List Token}
      (each : List.Forall₂ Item parts items) (nonempty : items ≠ [])
      (last : trailing = [] ∨ trailing = [.comma]) :
      Listed Item ([Token.comma].intercalate parts ++ trailing) items

mutual

/-- Tokens that denote a value. -/
inductive Denotes : List Token → Value → Prop where
  | nil : Denotes [.nil] .nil
  | boolean (b : Bool) : Denotes [.boolean b] (.boolean b)
  | integer (n : Int64) : Denotes [.integer n] (.integer n)
  | float (x : Binary64) : Denotes [.float x] (.float x)
  | string (text : String) : Denotes [.string text] (.string text)
  | symbol (name : String) : Denotes [.symbol name] (.symbol name)
  | array {tokens : List Token} {items : List Value} (listed : Listed Denotes tokens items) :
      Denotes (.leftBracket :: (tokens ++ [.rightBracket])) (.array items)
  | map {tokens : List Token} {pairs : List (Value × Value)} {entries : Dict}
      (listed : Listed DenotesPair tokens pairs) (collected : Collects pairs entries) :
      Denotes (.leftCurly :: (tokens ++ [.rightCurly])) (.map entries)

/-- Tokens that denote a key with its value. -/
inductive DenotesPair : List Token → Value × Value → Prop where
  | intro {ofKey ofValue : List Token} {key value : Value} (left : Denotes ofKey key)
      (right : Denotes ofValue value) :
      DenotesPair (ofKey ++ .fatArrow :: ofValue) (key, value)

end

namespace Listed

variable {α : Type} {Item : List Token → α → Prop}

theorem intercalate_cons_cons (p q : List Token) (parts : List (List Token)) :
    [Token.comma].intercalate (p :: q :: parts) =
      p ++ .comma :: [Token.comma].intercalate (q :: parts) := by
  simp [List.intercalate, List.intersperse]

theorem one {tokens : List Token} {a : α} (h : Item tokens a) : Listed Item tokens [a] := by
  have hOne := Listed.filled (.cons h .nil) (by simp) (.inl rfl)
  simpa [List.intercalate] using hOne

/-- An item with a comma behind it may stand before a list. -/
theorem cons {us vs : List Token} {a : α} {items : List α} (h : Item us a)
    (hRest : Listed Item vs items) : Listed Item (us ++ .comma :: vs) (a :: items) := by
  cases hRest with
  | empty =>
      have hOne := Listed.filled (.cons h .nil) (by simp) (.inr rfl)
      simpa [List.intercalate] using hOne
  | @filled parts _ trailing each nonempty last =>
      cases each with
      | nil => exact absurd rfl nonempty
      | @cons p b parts items head tail =>
          have hMore := Listed.filled (.cons h (.cons head tail)) (by simp) last
          rwa [intercalate_cons_cons, List.append_assoc, List.cons_append] at hMore

/-- A list is empty, or one item, or an item with a comma behind it and a list behind this. -/
theorem iff_cons {tokens : List Token} {items : List α} :
    Listed Item tokens items ↔ (tokens = [] ∧ items = []) ∨ (∃ a, items = [a] ∧ Item tokens a) ∨
      ∃ us vs a rest, tokens = us ++ .comma :: vs ∧ items = a :: rest ∧ Item us a ∧
        Listed Item vs rest := by
  constructor
  · rintro (_ | ⟨each, nonempty, last⟩)
    · exact .inl ⟨rfl, rfl⟩
    · cases each with
      | nil => exact absurd rfl nonempty
      | @cons p a parts items head tail =>
          refine .inr ?_
          cases tail with
          | nil =>
              rcases last with rfl | rfl
              · exact .inl ⟨a, rfl, by simpa [List.intercalate] using head⟩
              · exact .inr ⟨p, [], a, [], by simp [List.intercalate], rfl, head, .empty⟩
          | cons head' tail' =>
              refine .inr ⟨p, _, a, _, ?_, rfl, head, .filled (.cons head' tail') (by simp) last⟩
              rw [intercalate_cons_cons, List.append_assoc, List.cons_append]
  · rintro (⟨rfl, rfl⟩ | ⟨a, rfl, h⟩ | ⟨us, vs, a, rest, rfl, rfl, h, hRest⟩)
    · exact .empty
    · exact one h
    · exact cons h hRest

theorem nil_iff {tokens : List Token} : Listed Item tokens [] ↔ tokens = [] := by
  rw [iff_cons]
  simp

/-- A list of items begins with the first of them, which is the last as well or has a comma and the
others behind it. -/
theorem cons_iff {tokens : List Token} {a : α} {items : List α} :
    Listed Item tokens (a :: items) ↔ (items = [] ∧ Item tokens a) ∨
      ∃ us vs, tokens = us ++ .comma :: vs ∧ Item us a ∧ Listed Item vs items := by
  rw [iff_cons]
  constructor
  · rintro (⟨-, hNil⟩ | ⟨b, hOne, h⟩ | ⟨us, vs, b, rest, hTokens, hCons, h, hRest⟩)
    · cases hNil
    · cases hOne
      exact .inl ⟨rfl, h⟩
    · cases hCons
      exact .inr ⟨us, vs, hTokens, h, hRest⟩
  · rintro (⟨rfl, h⟩ | ⟨us, vs, hTokens, h, hRest⟩)
    · exact .inr (.inl ⟨a, rfl, h⟩)
    · exact .inr (.inr ⟨us, vs, a, items, hTokens, rfl, h, hRest⟩)

/-- Things that items are made of are listed exactly where the items are. -/
theorem map_iff {β : Type} (f : β → α) {tokens : List Token} {items : List β} :
    Listed Item tokens (items.map f) ↔ Listed (fun us b => Item us (f b)) tokens items := by
  induction items generalizing tokens with
  | nil => rw [List.map_nil, nil_iff, nil_iff]
  | cons b items ih => simp only [List.map_cons, cons_iff, List.map_eq_nil_iff, ih]

end Listed

end Surface

end CaseMatch
