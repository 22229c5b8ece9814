import CaseMatch.Proofs.Surface.Names

/-!
The names under which variables are bound. A name is made into one of these before it becomes part
of a pattern, and in whatever case its letters are written, it is looked up under the same one.
-/

namespace CaseMatch

open Surface (forall_ascii)

namespace Unicode

/-- A character of ASCII has one small letter, its own. -/
theorem lowercaseChar_of_ascii {c : Char} (h : c.toNat < 128) : lowercaseChar c = [c.toLower] :=
  forall_ascii (P := fun c => lowercaseChar c = [c.toLower]) (by decide +kernel) h

/-- For ASCII the small letters of a text do not depend on what comes before. -/
theorem lowercaseFrom_of_ascii {text : List Char} (h : ∀ c ∈ text, c.toNat < 128)
    (before : List Char) : lowercaseFrom before text = text.map Char.toLower := by
  induction text generalizing before with
  | nil => rfl
  | cons c rest ih =>
      rw [List.forall_mem_cons] at h
      have hSigma : c.toNat ≠ 0x3A3 := by omega
      rw [lowercaseFrom, if_neg hSigma, lowercaseChar_of_ascii h.1, ih h.2, List.map_cons,
        List.singleton_append]

end Unicode

theorem toList_toLower (text : String) : text.toLower.toList = text.toList.map Char.toLower :=
  String.toList_map

/-- Lower case of a text of ASCII characters is that of its letters. -/
theorem lowercase_of_ascii {text : String} (h : ∀ c ∈ text.toList, c.toNat < 128) :
    lowercase text = text.toLower := by
  rw [lowercase, Unicode.lowercaseFrom_of_ascii h, ← toList_toLower, String.ofList_toList]

/-! ### Letters of a name -/

/-- The first character of a name stays one in lower case. -/
theorem isNameStart_toLower {c : Char} (h : isNameStart c = true) :
    isNameStart c.toLower = true :=
  forall_ascii (P := fun c => isNameStart c = true → isNameStart c.toLower = true)
    (by decide +kernel) (Surface.isWordStart_byteOf h).1 h

theorem isNamePart_toLower {c : Char} (h : isNamePart c = true) : isNamePart c.toLower = true :=
  forall_ascii (P := fun c => isNamePart c = true → isNamePart c.toLower = true)
    (by decide +kernel) (Surface.isWordPart_byteOf h).1 h

theorem isUpper_toLower {c : Char} (h : c.toNat < 128) : c.toLower.isUpper = false :=
  forall_ascii (P := fun c => c.toLower.isUpper = false) (by decide +kernel) h

theorem toLower_of_not_isUpper {c : Char} (h : c.isUpper = false) : c.toLower = c :=
  dif_neg (of_decide_eq_false h)

/-- A character that is not ASCII has no lower case that is. -/
theorem ascii_of_toLower {c : Char} (h : c.toLower.toNat < 128) : c.toNat < 128 := by
  cases hUpper : c.isUpper with
  | true =>
      have hLast := UInt32.le_iff_toNat_le.1 (of_decide_eq_true hUpper).2
      exact Nat.lt_of_le_of_lt hLast (by decide)
  | false => rwa [toLower_of_not_isUpper hUpper] at h

/-- Names are in ASCII. -/
theorem ascii_of_isVariableName {name : String} (h : isVariableName name = true) :
    ∀ c ∈ name.toList, c.toNat < 128 :=
  fun c hc => (Surface.isWordPart_byteOf (forall_isNamePart h c hc)).1

/-- In lower case a name is still a name. -/
theorem isVariableName_toLower {name : String} (h : isVariableName name = true) :
    isVariableName name.toLower = true := by
  rw [isVariableName] at h ⊢
  rw [toList_toLower]
  cases hName : name.toList with
  | nil => simp [hName] at h
  | cons first rest =>
      simp only [hName, Bool.and_eq_true, List.all_eq_true] at h
      simp only [List.map_cons, Bool.and_eq_true, List.all_map, List.all_eq_true]
      exact ⟨isNameStart_toLower h.1, fun c hc => isNamePart_toLower (h.2 c hc)⟩

/-! ### Names that are bound -/

/-- A name in the form in which it is bound: an ASCII identifier without a capital letter. -/
structure IsBoundName (name : String) : Prop where
  isVariableName : isVariableName name = true
  isLower : ∀ c ∈ name.toList, c.isUpper = false

instance (name : String) : Decidable (IsBoundName name) :=
  decidable_of_iff
    (CaseMatch.isVariableName name = true ∧ (name.toList.all fun c => !c.isUpper) = true) <| by
      constructor
      · intro ⟨hValid, hLower⟩
        exact ⟨hValid, by simpa using hLower⟩
      · intro h
        exact ⟨h.isVariableName, by simpa using h.isLower⟩

theorem IsBoundName.toLower_eq {name : String} (h : IsBoundName name) : name.toLower = name := by
  have hLetters : name.toList.map Char.toLower = name.toList.map id :=
    List.map_congr_left fun c hc => toLower_of_not_isUpper (h.isLower c hc)
  rw [← String.toList_inj, toList_toLower, hLetters, List.map_id]

/-- Every spelling of a name, each letter in either case, is looked up under it. -/
theorem IsBoundName.lowercase_eq {name : String} (h : IsBoundName name) {spelling : String}
    (hSpelling : spelling.toLower = name) : lowercase spelling = name := by
  subst hSpelling
  apply lowercase_of_ascii
  intro c hc
  apply ascii_of_toLower
  apply ascii_of_isVariableName h.isVariableName
  rw [toList_toLower]
  exact List.mem_map_of_mem hc

/-- A name of a variable is bound in lower case. -/
theorem isBoundName_toLower {name : String} (h : isVariableName name = true) :
    IsBoundName name.toLower := by
  refine ⟨isVariableName_toLower h, fun c hc => ?_⟩
  rw [toList_toLower] at hc
  obtain ⟨letter, hLetter, rfl⟩ := List.mem_map.1 hc
  exact isUpper_toLower (ascii_of_isVariableName h letter hLetter)

/-- The names of that form are what names of variables are made into. -/
theorem exists_variableName_eq_iff {name : String} :
    (∃ given, variableName given = .ok name) ↔ IsBoundName name := by
  constructor
  · intro ⟨given, h⟩
    rw [variableName] at h
    split at h
    · rename_i hValid
      rw [lowercase_of_ascii (ascii_of_isVariableName hValid), Except.ok.injEq] at h
      exact h ▸ isBoundName_toLower hValid
    · cases h
  · intro h
    refine ⟨name, ?_⟩
    rw [variableName, if_pos h.isVariableName, h.lowercase_eq h.toLower_eq]

end CaseMatch
