import CaseMatch.Proofs.Surface.PatternReading

/-!
Readings that agree with a grammar where it depends on what stands behind how much they take, and
lists of them. A reading gives nothing but what the lexemes that it takes stand for, and it takes
whatever stands for something where what is behind does not go on with it.
-/

namespace CaseMatch.Surface

variable {β γ : Type} {ts used behind : List Lexeme}

/-- What a reading gives is what the lexemes that it takes stand for. -/
def ReadsOnly (Item : List Token → γ → Prop) (Gives : β → γ → Prop) {ts : List Lexeme}
    (reading : Reading β ts) : Prop :=
  ∀ b left, reading = .ok (b, left) →
    ∃ used c, ts = used ++ left.val ∧ Item (tokensOf used) c ∧ Gives b c

/-- A reading takes whatever stands for something and has its end behind it. -/
def ReadsAll (Ends : List Lexeme → Prop) (Item : List Token → γ → Prop) (Gives : β → γ → Prop)
    {ts : List Lexeme} (reading : Reading β ts) : Prop :=
  ∀ used behind c, ts = used ++ behind → Ends behind → Item (tokensOf used) c →
    ∃ b left, reading = .ok (b, left) ∧ left.val = behind ∧ Gives b c

variable {Item : List Token → γ → Prop} {Gives : β → γ → Prop} {close : Token} {stop bound : Nat}
  {item : (us : List Lexeme) → us.length ≤ bound → Reading β us}

/-- A list gives what its items give. -/
theorem list_readsOnly (within : ts.length ≤ bound)
    (hItem : ∀ us within, us <:+ ts → ReadsOnly Item Gives (item us within)) :
    ReadsOnly (Closed close Item) (List.Forall₂ Gives) (list stop close bound item ts within) := by
  induction h : ts.length using Nat.strongRecOn generalizing ts with
  | ind n ih =>
      subst h
      intro bs left hRead
      cases ts with
      | nil => exact absurd left.property (Nat.not_lt_zero _)
      | cons l rest =>
          by_cases hClose : l.token = close
          · obtain ⟨rfl, hLeft⟩ := (list_eq_ok_iff_of_close hClose).1 hRead
            refine ⟨[l], [], by rw [hLeft]; rfl, ⟨[], ?_, .empty⟩, .nil⟩
            rw [tokensOf, List.map_singleton, hClose, List.nil_append]
          · obtain ⟨b, after, m, others, hFirst, hAfter, hCase⟩ :=
              (list_eq_ok_iff_of_item hClose).1 hRead
            obtain ⟨part, c, hPart, hStands, hGives⟩ :=
              hItem _ _ (List.suffix_refl _) b after hFirst
            rw [hAfter] at hPart
            rcases hCase with ⟨hComma, hOthers, xs, inner, hInner, rfl, hLeft⟩ |
              ⟨-, hm, rfl, hLeft⟩
            · have hSuffix : others <:+ l :: rest := by
                rw [hPart]
                exact (List.suffix_cons m others).trans (List.suffix_append part _)
              have hShorter : others.length < (l :: rest).length := by
                rw [hPart, List.length_append, List.length_cons]
                omega
              obtain ⟨more, cs, hMore, hClosed, hAll⟩ := ih _ hShorter hOthers
                (fun us within hus => hItem us within (hus.trans hSuffix)) rfl xs inner hInner
              obtain ⟨taken, hTaken, hWhole⟩ := (exists_closed_iff_of_item hClose).2
                ⟨part, c, m, others, hPart, hStands, .inl ⟨hComma, cs, rfl, more, hMore, hClosed⟩⟩
              exact ⟨taken, c :: cs, by rw [hLeft, hTaken], hWhole, .cons hGives hAll⟩
            · obtain ⟨taken, hTaken, hWhole⟩ := (exists_closed_iff_of_item hClose).2
                ⟨part, c, m, others, hPart, hStands, .inr ⟨hm, rfl, rfl⟩⟩
              exact ⟨taken, [c], by rw [hLeft, hTaken], hWhole, .cons hGives .nil⟩

/-- A list is read up to its closing bracket where its items are read before a comma and before
the bracket. -/
theorem list_readsAll (within : ts.length ≤ bound) (hOpens : Opens close Item)
    (hComma : close ≠ .comma) {Ends : List Lexeme → Prop}
    (hEnds : ∀ (m : Lexeme) others, m.token = .comma ∨ m.token = close → Ends (m :: others))
    (hItem : ∀ us within, us <:+ ts → ReadsAll Ends Item Gives (item us within)) :
    ReadsAll (fun _ => True) (Closed close Item) (List.Forall₂ Gives)
      (list stop close bound item ts within) := by
  induction h : ts.length using Nat.strongRecOn generalizing ts with
  | ind n ih =>
      subst h
      intro used behind cs hts _ hClosed
      have hBehind : behind.length < ts.length := by
        have hSome := hClosed.length_pos
        rw [hts, List.length_append]
        omega
      cases ts with
      | nil => exact absurd hBehind (Nat.not_lt_zero _)
      | cons l rest =>
          by_cases hClose : l.token = close
          · obtain ⟨rfl, rfl⟩ := (exists_closed_iff_of_close hOpens hClose).1 ⟨used, hts, hClosed⟩
            exact ⟨[], ⟨behind, hBehind⟩, (list_eq_ok_iff_of_close hClose).2 ⟨rfl, rfl⟩, rfl, .nil⟩
          · obtain ⟨part, c, m, others, hParts, hStands, hCase⟩ :=
              (exists_closed_iff_of_item hClose).1 ⟨used, hts, hClosed⟩
            have hEnd : m.token = .comma ∨ m.token = close := hCase.imp And.left And.left
            obtain ⟨b, after, hFirst, hAfter, hGives⟩ := hItem _ within (List.suffix_refl _)
              part (m :: others) c hParts (hEnds m others hEnd) hStands
            rcases hCase with ⟨hm, xs, rfl, more, hMore, hRest⟩ | ⟨hm, rfl, rfl⟩
            · have hSuffix : others <:+ l :: rest := by
                rw [hParts]
                exact (List.suffix_cons m others).trans (List.suffix_append part _)
              have hShorter : others.length < (l :: rest).length := by
                rw [hParts, List.length_append, List.length_cons]
                omega
              obtain ⟨bs, inner, hInner, hLeft, hAll⟩ := ih _ hShorter (by omega)
                (fun us within hus => hItem us within (hus.trans hSuffix)) rfl more behind xs hMore
                trivial hRest
              exact ⟨b :: bs, ⟨behind, hBehind⟩, (list_eq_ok_iff_of_item hClose).2
                ⟨b, after, m, others, hFirst, hAfter, .inl ⟨hm, by omega, bs, inner, hInner, rfl,
                  hLeft.symm⟩⟩, rfl, .cons hGives hAll⟩
            · exact ⟨[b], ⟨_, hBehind⟩, (list_eq_ok_iff_of_item hClose).2
                ⟨b, after, m, _, hFirst, hAfter, .inr ⟨hm ▸ hComma, hm, rfl, rfl⟩⟩, rfl,
                .cons hGives .nil⟩

end CaseMatch.Surface
