import CaseMatch.Proofs.Surface.PatternRefusal
import CaseMatch.Regex.Compile

/-!
Texts of patterns. A text that is made of tokens is read as a pattern exactly if a tree is derived
from its tokens, and the pattern does what the tree says. Otherwise it does not fit the notation, or
it is told which star or which regular expression is to blame.
-/

namespace CaseMatch.Surface

/-- Lexemes are read as the patterns of the trees that are derived from them. -/
theorem readPattern_eq_ok_iff_derives [RegexEngine] {stop : Nat} {ls : List Lexeme}
    (hSpelled : Spelled ls) {p : Pattern} :
    readPattern stop ls = .ok p ↔ ∃ f, Derives (tokensOf ls) f ∧ p = f.pattern := by
  rw [readPattern_eq_ok_iff]
  constructor
  · rintro ⟨t, shorter, hRead, hPattern⟩
    obtain ⟨used, x, hUsed, hItem, hBuilds⟩ := item_readsOnly hSpelled t _ hRead
    obtain rfl : ls = used := by simpa using hUsed
    cases x with
    | plain f =>
        exact ⟨f, derivesItem_plain_iff.1 hItem, Except.ok.inj (hPattern.symm.trans hBuilds)⟩
    | starred each name =>
        obtain rfl : t = .tail (.ofRest each.pattern name) := hBuilds
        cases hPattern
  · rintro ⟨f, hDerives, rfl⟩
    obtain ⟨t, ⟨left, shorter⟩, hRead, rfl, hMakes⟩ :=
      item_readsAll hSpelled ls [] (.plain f) (by simp) stops_nil (.plain hDerives)
    exact ⟨t, shorter, hRead, hMakes⟩

/-- A text is read as a pattern as its lexemes are. -/
theorem parsePattern_eq_readPattern [RegexEngine] {code : String} {ls : List Lexeme}
    (h : lex code = .ok ls) :
    parsePattern code = readPattern code.utf8ByteSize ls := by
  rw [parsePattern, lexemes, h]
  rfl

/-- A text with these lexemes is read as the patterns of the trees that are derived from them. What
it is read as matches the subjects that any such tree accepts, and binds the names that the tree
gives. If the text fits the notation of tokens but denotes no pattern, a star stands where it may
not, or a regular expression is none. -/
theorem parsePattern_iff_derives [RegexEngine] {code : String} {ls : List Lexeme}
    (h : lex code = .ok ls) :
    (∀ p, parsePattern code = .ok p ↔ ∃ f, Derives (tokensOf ls) f ∧ p = f.pattern) ∧
    (∀ p f, parsePattern code = .ok p → Derives (tokensOf ls) f → ∀ v b,
      p.test v = .ok b ↔ ∃ bs, f.Accepts v bs ∧ Consistent bs ∧ b = .ofAssignments bs) ∧
    ∀ reason span, parsePattern code = .error (.invalid reason span) →
      RefusedWhole ls reason span := by
  have hSpelled : Spelled ls := isSpelled_of_lex h
  rw [parsePattern_eq_readPattern h]
  refine ⟨fun p => readPattern_eq_ok_iff_derives hSpelled, fun p f hRead hDerives v b => ?_,
    readPattern_invalidOnly hSpelled⟩
  have hPattern : readPattern code.utf8ByteSize ls = .ok f.pattern :=
    (readPattern_eq_ok_iff_derives hSpelled).2 ⟨f, hDerives, rfl⟩
  obtain rfl := Except.ok.inj (hRead.symm.trans hPattern)
  exact f.test_pattern_eq_ok_iff v b

/-- A range with a name, an optional key, and a tail with a name of its own. -/
def nestedText : String :=
  "[1..=3 @ firstOne, _, \x7b[:k] => /b+/,\x7d, *Integer @ others,]"

def nestedLexemes : List Lexeme :=
  [⟨.leftBracket, 0, 1⟩, ⟨.integer 1, 1, 2⟩, ⟨.inclusiveRange, 2, 5⟩, ⟨.integer 3, 5, 6⟩,
    ⟨.atSign, 7, 8⟩, ⟨.identifier "firstOne", 9, 17⟩, ⟨.comma, 17, 18⟩, ⟨.wildcard, 19, 20⟩,
    ⟨.comma, 20, 21⟩, ⟨.leftCurly, 22, 23⟩, ⟨.leftBracket, 23, 24⟩, ⟨.symbol "k", 24, 26⟩,
    ⟨.rightBracket, 26, 27⟩, ⟨.fatArrow, 28, 30⟩, ⟨.regex "b+", 31, 35⟩, ⟨.comma, 35, 36⟩,
    ⟨.rightCurly, 36, 37⟩, ⟨.comma, 37, 38⟩, ⟨.star, 39, 40⟩, ⟨.typeName "Integer", 40, 47⟩,
    ⟨.atSign, 48, 49⟩, ⟨.identifier "others", 50, 56⟩, ⟨.comma, 56, 57⟩, ⟨.rightBracket, 57, 58⟩]

theorem lex_nestedText : lex nestedText = .ok nestedLexemes := by decide +kernel

/-- What stands before the star, with the expression that its source denotes. -/
def nestedItems (r : Regex) : List PatternTree :=
  [.named (.range ⟨1, 3, true⟩) "firstOne", .wildcard, .map [(.optional (.symbol "k"), .regex r)]]

def nestedTree (r : Regex) : PatternTree :=
  .openArray (nestedItems r) (.kind .integer) (some "others")

/-- The nested text is derived as its tree, with whatever expression the engine makes of the one in
it. -/
theorem derives_nestedTree [RegexEngine] {r : Regex} (valid : Regex.compile? "b+" = some r) :
    Derives (tokensOf nestedLexemes) (nestedTree r) := by
  have hRange := Derives.named (.range ⟨1, 3, true⟩) "firstOne"
  have hEntry := DerivesEntry.intro (.optional (.symbol "k")) (.plain (.regex valid))
  have hMap := DerivesPrimary.map (.cons hEntry .empty)
  have hTail := DerivesItem.starredNamed (.kind "Integer") "others"
  have hListed : Listed DerivesItem ((tokensOf nestedLexemes).tail.dropLast)
      ((nestedItems r).map .plain ++ [.starred (.kind .integer) (some "others")]) :=
    .cons (.plain hRange) (.cons (.plain (.plain .wildcard)) (.cons (.plain (.plain hMap))
      (.cons hTail .empty)))
  exact .plain (.openArray hListed)

def nestedSubject : Value :=
  .array [.integer 2, .nil, .map [(.symbol "k", .string "abb")], .integer 7, .integer 8]

def nestedBinds : List Assignment :=
  [("firstone", .integer 2), ("others", .array [.integer 7, .integer 8])]

theorem lowercase_nestedNames : lowercase "firstOne" = "firstone" ∧
    lowercase "firstone" = "firstone" ∧ lowercase "others" = "others" := by
  decide +kernel

/-- The nested tree accepts its subject, if its expression occurs in the string. -/
theorem accepts_nestedTree {r : Regex} (occurs : r.isMatch "abb" = true) :
    (nestedTree r).Accepts nestedSubject nestedBinds := by
  obtain ⟨hFirst, -, hOthersName⟩ := lowercase_nestedNames
  have hRange : PatternTree.Accepts (.named (.range ⟨1, 3, true⟩) "firstOne") (.integer 2)
      [("firstone", .integer 2)] := by
    rw [← hFirst]
    exact .named (.range (by decide +kernel))
  have hFound : Dict.get? [(.symbol "k", .string "abb")] (.symbol "k") = some (.string "abb") := rfl
  have hMap : PatternTree.Accepts (.map [(.optional (.symbol "k"), .regex r)])
      (.map [(.symbol "k", .string "abb")]) [] := .map (.optional hFound rfl (.regex occurs) .nil)
  have hFixed : PatternTree.AcceptsEach (nestedItems r)
      [.integer 2, .nil, .map [(.symbol "k", .string "abb")]] [("firstone", .integer 2)] :=
    .cons hRange (.cons .wildcard (.cons hMap .nil))
  have hOthers : PatternTree.AcceptsEach
      (List.replicate [Value.integer 7, .integer 8].length (.kind .integer))
      [.integer 7, .integer 8] [] := .cons (.kind rfl) (.cons (.kind rfl) .nil)
  have hAccepts : (nestedTree r).Accepts nestedSubject ([("firstone", .integer 2)] ++ ([] ++
      Pattern.nameBinds ((some "others").map lowercase) (.array [.integer 7, .integer 8]))) :=
    .openArray hFixed hOthers
  rwa [Option.map_some, hOthersName] at hAccepts

theorem consistent_nestedBinds : Consistent nestedBinds := by
  have hFirst : Consistent [("firstone", .integer 2)] :=
    Consistent.concat_iff.2 ⟨EachAfter.nil, nofun⟩
  have hNew : ((Bindings.ofAssignments [("firstone", .integer 2)]).get? "others").isNone := by
    decide +kernel
  refine Consistent.concat_iff.2 ⟨hFirst, fun first h => ?_⟩
  rw [h] at hNew
  cases hNew

/-- A star before the first of two items. -/
def misplacedText : String := "[*_, 1]"

def misplacedLexemes : List Lexeme :=
  [⟨.leftBracket, 0, 1⟩, ⟨.star, 1, 2⟩, ⟨.wildcard, 2, 3⟩, ⟨.comma, 3, 4⟩, ⟨.integer 1, 5, 6⟩,
    ⟨.rightBracket, 6, 7⟩]

theorem lex_misplacedText : lex misplacedText = .ok misplacedLexemes := by decide +kernel

/-- A star before an item that is not the last is refused at the bracket of the array. -/
theorem parsePattern_misplacedText [RegexEngine] : parsePattern misplacedText =
    .error (.invalid (.pattern (.tailNotLast (.ofRest .wildcard none) 0 2)) ⟨0, 1⟩) := by
  have hItems : Closed .rightBracket DerivesItem (tokensOf misplacedLexemes.tail)
      (([] : List PatternTree).map .plain ++
        [.starred .wildcard none, .plain (.scalar (.integer 1))]) :=
    ⟨[.star, .wildcard, .comma, .integer 1], rfl, .cons (DerivesItem.starred .wildcard)
      (.one (DerivesItem.plain (.plain (.scalar rfl))))⟩
  rw [parsePattern_eq_readPattern lex_misplacedText]
  exact readPattern_of_tailNotLast (isSpelled_of_lex lex_misplacedText) rfl hItems

/-- A regular expression with a parenthesis that is not closed. -/
def unclosedText : String := "/b(/"

/-- With the standard engine the nested text is read, and binds what its tree gives. The other texts
have no derivation, one for its star and one for its regular expression. -/
theorem parsePattern_iff_derives_of_texts :
    letI := Regex.standard
    (lex nestedText = .ok nestedLexemes ∧ ∃ p b, parsePattern nestedText = .ok p ∧
      p.test nestedSubject = .ok b ∧ b.get? "firstOne" = some (.integer 2) ∧
        b.get? "others" = some (.array [.integer 7, .integer 8])) ∧
    (lex misplacedText = .ok misplacedLexemes ∧
      ∃ reason, parsePattern misplacedText = .error (.invalid reason ⟨0, 1⟩) ∧
        RefusedWhole misplacedLexemes reason ⟨0, 1⟩) ∧
    lex unclosedText = .ok [⟨.regex "b(", 0, 4⟩] ∧
      ∃ reason, parsePattern unclosedText = .error (.invalid reason ⟨0, 4⟩) ∧
        RefusedWhole [⟨.regex "b(", 0, 4⟩] reason ⟨0, 4⟩ := by
  let := Regex.standard
  have hRegex : (Regex.compile? "b+").any (·.isMatch "abb") = true := by decide +kernel
  have hInvalid : Regex.compile? "b(" = none := by
    rw [← Option.isNone_iff_eq_none]
    decide +kernel
  have hUnclosed : lex unclosedText = .ok [⟨.regex "b(", 0, 4⟩] := by decide +kernel
  obtain ⟨r, valid, occurs⟩ := (Option.any_eq_true _ _).1 hRegex
  have hDerives := derives_nestedTree valid
  obtain ⟨hReads, hMatches, -⟩ := parsePattern_iff_derives lex_nestedText
  have hRead := (hReads _).2 ⟨_, hDerives, rfl⟩
  have hTest := (hMatches _ _ hRead hDerives nestedSubject _).2
    ⟨_, accepts_nestedTree occurs, consistent_nestedBinds, rfl⟩
  obtain ⟨-, -, hMisplaced⟩ := parsePattern_iff_derives lex_misplacedText
  obtain ⟨-, -, hUnread⟩ := parsePattern_iff_derives hUnclosed
  have hFails : parsePattern unclosedText =
      .error (.invalid (.pattern (.regularExpression "b(")) ⟨0, 4⟩) := by
    rw [parsePattern_eq_readPattern hUnclosed]
    exact readPattern_of_regularExpression rfl hInvalid
  refine ⟨⟨lex_nestedText, _, _, hRead, hTest, ?_, ?_⟩, ⟨lex_misplacedText, _,
    parsePattern_misplacedText, hMisplaced _ _ parsePattern_misplacedText⟩, hUnclosed, _, hFails,
    hUnread _ _ hFails⟩
  · simp [Bindings.get?_ofAssignments, nestedBinds, firstValue?, lowercase_nestedNames]
  · simp [Bindings.get?_ofAssignments, nestedBinds, firstValue?, lowercase_nestedNames]

end CaseMatch.Surface
