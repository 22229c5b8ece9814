import CaseMatch.Proofs.Surface.ValueReading

/-!
Where the reader of values finds an error. It complains of the end of a text exactly if what stands
there could go on to a value, and else of the first token with which it no longer could. Each part
of a value is told apart from what is behind it by the tokens alone, so that an error in a part is
one at the same place in the whole.
-/

namespace CaseMatch.Surface

variable {α β : Type}

/-! ### Tokens that can go on -/

/-- Something stands at the front of tokens, and these are behind it. -/
def Front (Item : List Token → α → Prop) (tokens behind : List Token) : Prop :=
  ∃ used a, tokens = used ++ behind ∧ Item used a

/-- Tokens can go on so that they stand for something. -/
def Viable (Item : List Token → α → Prop) (tokens : List Token) : Prop :=
  ∃ more, Front Item (tokens ++ more) []

/-- However tokens go on, nothing stands at their front. -/
def Dead (Item : List Token → α → Prop) (tokens : List Token) : Prop :=
  ∀ more behind, ¬Front Item (tokens ++ more) behind

/-- An error is where it belongs: at the end if the lexemes can go on, or at a lexeme before which
they can and with which they cannot. -/
inductive Located (Item : List Token → α → Prop) (stop : Nat) (ts : List Lexeme) :
    ReadError → Prop where
  | ending {expected : Expected} (viable : Viable Item (tokensOf ts)) :
      Located Item stop ts (.unexpectedEnd expected stop)
  | token {expected : Expected} {before behind : List Lexeme} {l : Lexeme}
      (split : ts = before ++ l :: behind) (viable : Viable Item (tokensOf before))
      (dead : Dead Item (tokensOf (before ++ [l]))) :
      Located Item stop ts (.unexpectedToken expected l)

section parts

variable {Item : List Token → α → Prop} {Part : List Token → β → Prop} {stop : Nat}
  {ts : List Lexeme} {e : ReadError}

/-- An error behind lexemes is where it belongs in the whole, if the lexemes take what is behind
them for just such a part. -/
theorem Located.behind (h : Located Part stop ts e) (used : List Lexeme)
    (hFront : ∀ tokens behind, Front Item (tokensOf used ++ tokens) behind ↔
      Front Part tokens behind) : Located Item stop (used ++ ts) e := by
  have hViable {us : List Lexeme} (hPart : Viable Part (tokensOf us)) :
      Viable Item (tokensOf (used ++ us)) := by
    obtain ⟨more, hMore⟩ := hPart
    refine ⟨more, ?_⟩
    rw [tokensOf, List.map_append, List.append_assoc]
    exact (hFront _ _).2 hMore
  cases h with
  | ending viable => exact .ending (hViable viable)
  | @token expected before behind l split viable dead =>
      have hSplit : used ++ ts = (used ++ before) ++ l :: behind := by
        rw [split, List.append_assoc]
      refine .token hSplit (hViable viable) fun more left hItem => ?_
      rw [List.append_assoc, tokensOf, List.map_append, List.append_assoc] at hItem
      exact dead more left ((hFront _ _).1 hItem)

end parts

/-! ### Lists -/

section list

variable {Item : List Token → α → Prop} {close : Token} {stop bound : Nat}
  {item : (us : List Lexeme) → us.length ≤ bound → Reading α us} {ts : List Lexeme} {e : ReadError}

end list

/-! ### Values -/

section values

variable {stop : Nat} {ts : List Lexeme} {e : ReadError}

end values

/-! ### All lexemes -/

section place

variable {stop : Nat} {ts : List Lexeme} {e : ReadError}

end place

end CaseMatch.Surface
