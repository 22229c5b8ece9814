import CaseMatch.Case.Basic
import CaseMatch.Proofs.Matching.Agreement
import CaseMatch.Proofs.Pattern.VariableName
import CaseMatch.Proofs.Pattern.ValuePattern

/-!
The variables of a pattern. Which names a match binds can be read off the pattern before anything is
matched: some are certain to be bound, others are bound by some matches only, and no others are ever
bound. What they are bound to is in the subject, or is what an array in it has behind its fixed
items.
-/

namespace CaseMatch

/-- A variable where it occurs in a pattern. It is certain to be bound, unless it belongs to the
value of an optional entry or to the items of a tail. The name of a tail has the number of items
that stand before the tail. -/
structure Occurrence where
  name : String
  certain : Bool
  behind : Option Nat
deriving DecidableEq

namespace Occurrence

/-- The variable where the part of the pattern around it need not be matched. -/
def doubtful (o : Occurrence) : Occurrence := { o with certain := false }

/-- A name as an occurrence, if there is one. -/
def ofName (name : Option String) (behind : Option Nat) : List Occurrence :=
  match name with
  | some name => [⟨name, true, behind⟩]
  | none => []

/-- A value that the variable can have: one that is reached from the subject, or for the name of a
tail, the items behind the fixed ones of an array that is reached. -/
def Gives (o : Occurrence) (subject value : Value) : Prop :=
  match o.behind with
  | none => subject.Reaches value
  | some fixed => ∃ items, subject.Reaches (.array items) ∧ fixed ≤ items.length ∧
      value = .array (items.drop fixed)

end Occurrence

namespace Pattern

mutual

/-- The variables that occur in a pattern, those of its parts before its own. -/
def occurrences : Pattern → List Occurrence
  | ⟨matcher, _, name, _⟩ => matcherOccurrences matcher ++ Occurrence.ofName name none

def matcherOccurrences : Matcher Pattern → List Occurrence
  | .predicate _ => []
  | .nested inner => occurrences inner
  | .array elements tail => elementOccurrences elements ++ tailOccurrences elements.length tail
  | .map entries => entryOccurrences entries

def elementOccurrences : List Pattern → List Occurrence
  | [] => []
  | p :: ps => occurrences p ++ elementOccurrences ps

/-- A tail matches any number of items, none included, but its name is given in any case. -/
def tailOccurrences (fixed : Nat) : Option (Tail Pattern) → List Occurrence
  | none => []
  | some ⟨each, _, name⟩ => (occurrences each).map .doubtful ++ Occurrence.ofName name (some fixed)

def entryOccurrences : List (MapKey × Pattern) → List Occurrence
  | [] => []
  | (.required _, p) :: rest => occurrences p ++ entryOccurrences rest
  | (.optional _, p) :: rest => (occurrences p).map .doubtful ++ entryOccurrences rest

end

end Pattern

/-- Assignments account for variables in a subject: each is made for one of these variables, and
each of them that is certain gets a value. -/
structure Accounts (assignments : List Assignment) (os : List Occurrence) (subject : Value) :
    Prop where
  occurs : ∀ a ∈ assignments, ∃ o ∈ os, o.name = a.1 ∧ o.Gives subject a.2
  assigned : ∀ o ∈ os, o.certain = true → ∃ a ∈ assignments, a.1 = o.name

/-- A variable that can have a value in a part of the subject can have it in the subject. -/
theorem Occurrence.Gives.of_reaches {o : Occurrence} {subject part value : Value}
    (hPart : subject.Reaches part) (h : o.Gives part value) : o.Gives subject value := by
  unfold Gives at h ⊢
  cases hBehind : o.behind with
  | none =>
      simp only [hBehind] at h
      exact hPart.trans h
  | some fixed =>
      simp only [hBehind] at h
      obtain ⟨items, hItems, hRest⟩ := h
      exact ⟨items, hPart.trans hItems, hRest⟩

namespace Accounts

variable {assignments more : List Assignment} {os others : List Occurrence} {subject part : Value}

theorem nil : Accounts [] [] subject := ⟨nofun, nofun⟩

/-- Assignments one after the other are accounted for by the variables of both. -/
theorem append (h : Accounts assignments os subject) (hMore : Accounts more others subject) :
    Accounts (assignments ++ more) (os ++ others) subject := by
  constructor
  · intro a ha
    rcases List.mem_append.1 ha with ha | ha
    · obtain ⟨o, ho, hGives⟩ := h.occurs a ha
      exact ⟨o, List.mem_append_left _ ho, hGives⟩
    · obtain ⟨o, ho, hGives⟩ := hMore.occurs a ha
      exact ⟨o, List.mem_append_right _ ho, hGives⟩
  · intro o ho hCertain
    rcases List.mem_append.1 ho with ho | ho
    · obtain ⟨a, ha, hName⟩ := h.assigned o ho hCertain
      exact ⟨a, List.mem_append_left _ ha, hName⟩
    · obtain ⟨a, ha, hName⟩ := hMore.assigned o ho hCertain
      exact ⟨a, List.mem_append_right _ ha, hName⟩

/-- What accounts for variables in a part of the subject does so in the subject. -/
theorem of_part (hPart : subject.Reaches part) (h : Accounts assignments os part) :
    Accounts assignments os subject := by
  refine ⟨fun a ha => ?_, h.assigned⟩
  obtain ⟨o, ho, hName, hGives⟩ := h.occurs a ha
  exact ⟨o, ho, hName, hGives.of_reaches hPart⟩

/-- Where a part of the pattern is matched any number of times, none included, its variables are
accounted for as doubtful. -/
theorem doubtful (h : ∀ a ∈ assignments, ∃ o ∈ os, o.name = a.1 ∧ o.Gives subject a.2) :
    Accounts assignments (os.map .doubtful) subject := by
  constructor
  · intro a ha
    obtain ⟨o, ho, hName, hGives⟩ := h a ha
    exact ⟨o.doubtful, List.mem_map_of_mem ho, hName, hGives⟩
  · intro o ho hCertain
    obtain ⟨certain, -, rfl⟩ := List.mem_map.1 ho
    cases hCertain

/-- A name that a pattern has is one certain variable. -/
theorem ofName {name : Option String} {behind : Option Nat} {value : Value}
    (hGives : ∀ n, Occurrence.Gives ⟨n, true, behind⟩ subject value) :
    Accounts (Pattern.nameBinds name value) (Occurrence.ofName name behind) subject := by
  cases name with
  | none => exact nil
  | some name =>
      simp only [Pattern.nameBinds, Occurrence.ofName]
      constructor
      · intro a ha
        obtain rfl := List.mem_singleton.1 ha
        exact ⟨_, List.mem_singleton_self _, rfl, hGives name⟩
      · intro o ho _
        obtain rfl := List.mem_singleton.1 ho
        exact ⟨_, List.mem_singleton_self _, rfl⟩

end Accounts

/-- What stands under a key of a map is reached from the map. -/
theorem Dict.reaches_of_get? {d : Dict} {key value : Value} (h : d.get? key = some value) :
    Value.Reaches (.map d) value := by
  obtain ⟨e, hFind, rfl⟩ := Option.map_eq_some_iff.1 h
  exact .value (List.mem_of_find?_eq_some hFind) (.refl _)

namespace Pattern

/-- The elements account for their variables in the items that they fit. Items behind them give
nothing. -/
theorem accounts_elementBinds {ps : List Pattern}
    (h : ∀ q ∈ ps, ∀ w, Fits q w → Accounts (q.binds w) q.occurrences w) {subject : Value}
    {items : List Value} (fit : List.Forall₂ Fits ps items)
    (hItems : ∀ item ∈ items, subject.Reaches item) (rest : List Value) :
    Accounts (elementBinds ps (items ++ rest)) (elementOccurrences ps) subject := by
  induction fit with
  | nil => exact .nil
  | @cons p item ps items fit _ ih =>
      rw [List.forall_mem_cons] at h hItems
      exact ((h.1 item fit).of_part hItems.1).append (ih h.2 hItems.2)

/-- A tail accounts for its variables. Its own is certain and stands for all the items behind the
elements, and those of its pattern are doubtful. -/
theorem accounts_tailBinds {tail : Tail Pattern}
    (h : ∀ w, Fits tail.each w → Accounts (tail.each.binds w) tail.each.occurrences w)
    {items : List Value} {fixed : Nat} (hLength : fixed ≤ items.length)
    (fit : ∀ item ∈ items.drop fixed, Fits tail.each item) :
    Accounts (tailBinds (some tail) (items.drop fixed)) (tailOccurrences fixed (some tail))
      (.array items) := by
  refine .append (.doubtful fun a ha => ?_)
    (.ofName fun _ => ⟨items, .refl _, hLength, rfl⟩)
  obtain ⟨item, hItem, ha⟩ := List.mem_flatMap.1 ha
  have hPart := Value.Reaches.item (List.mem_of_mem_drop hItem) (.refl item)
  exact ((h item (fit item hItem)).of_part hPart).occurs a ha

/-- The entries account for their variables. Those of an optional entry are doubtful. -/
theorem accounts_entryBinds {entries : List (MapKey × Pattern)}
    (h : ∀ e ∈ entries, ∀ w, Fits e.2 w → Accounts (e.2.binds w) e.2.occurrences w) {pairs : Dict}
    (fit : ∀ e ∈ entries, EntryFits pairs e) :
    Accounts (entryBinds entries pairs) (entryOccurrences entries) (.map pairs) := by
  induction entries with
  | nil => exact .nil
  | cons e entries ih =>
      obtain ⟨key, p⟩ := e
      rw [List.forall_mem_cons] at h fit
      have hValue {key value} (hGet : pairs.get? key = some value) (fit : Fits p value) :
          Accounts (p.binds value) p.occurrences (.map pairs) :=
        (h.1 value fit).of_part (Dict.reaches_of_get? hGet)
      cases key with
      | required key =>
          obtain ⟨value, hGet, fitValue⟩ := fit.1
          rw [entryBinds, hGet]
          exact (hValue hGet fitValue).append (ih h.2 fit.2)
      | optional key =>
          refine .append (.doubtful fun a ha => ?_) (ih h.2 fit.2)
          cases hGet : pairs.get? key with
          | none => simp [hGet] at ha
          | some value =>
              cases hNil : value.isNil with
              | true => simp [hGet, hNil] at ha
              | false =>
                  simp only [hGet, hNil, Bool.false_eq_true, if_false] at ha
                  exact (hValue hGet (fit.1 value hGet hNil)).occurs a ha

/-- What a matching pattern gives names to accounts for its variables. -/
theorem accounts_binds (p : Pattern) {subject : Value} (fit : Fits p subject) :
    Accounts (p.binds subject) p.occurrences subject := by
  have hName {name : Option String} {subject : Value} :
      Accounts (nameBinds name subject) (Occurrence.ofName name none) subject :=
    .ofName fun _ => Value.Reaches.refl subject
  induction p generalizing subject with
  | predicate accepts guard name label => exact .append .nil hName
  | nested inner guard name label ih =>
      obtain ⟨matched, -⟩ := fit
      cases matched with
      | nested fitInner => exact (ih fitInner).append hName
  | array elements tail guard name label hElements hTail =>
      obtain ⟨matched, -⟩ := fit
      refine .append ?_ hName
      cases matched with
      | @exactArray _ items fitItems =>
          have hItems := accounts_elementBinds (fun q hq w => hElements q hq) fitItems
            (fun item hItem => Value.Reaches.item hItem (.refl item)) []
          rw [List.append_nil] at hItems
          exact hItems.append .nil
      | @openArray _ tail fixed rest fitItems fitRest guarded =>
          have hItems := accounts_elementBinds (fun q hq w => hElements q hq) fitItems
            (fun item hItem => Value.Reaches.item (List.mem_append_left rest hItem) (.refl item))
            rest
          refine hItems.append (accounts_tailBinds (fun w => hTail tail rfl) ?_ ?_)
          · simp [fitItems.length_eq]
          · simpa [fitItems.length_eq] using fitRest
  | map entries guard name label hEntries =>
      obtain ⟨matched, -⟩ := fit
      refine .append ?_ hName
      cases subject with
      | map pairs =>
          exact accounts_entryBinds (fun e he w => hEntries e he) (fitsMatcher_map_iff.1 matched)
      | _ => cases matched

/-- All names in a pattern are what `variableName` makes of other names, as `named` sees to. -/
def NamesGiven (p : Pattern) : Prop :=
  ∀ o ∈ p.occurrences, ∃ given, variableName given = .ok o.name

/-- The variables of a pattern whose names are given have names that can be bound. -/
theorem NamesGiven.isBoundName {p : Pattern} (h : p.NamesGiven) {o : Occurrence}
    (ho : o ∈ p.occurrences) : IsBoundName o.name :=
  exists_variableName_eq_iff.1 (h o ho)

/-- A match binds variables of the pattern, in lower case, to values that they can have in the
subject, and all those that are certain. These are found in whatever case their letters are asked
for. -/
theorem test_binds_variables {p : Pattern} (hNames : p.NamesGiven) {subject : Value} {b : Bindings}
    (hTest : p.test subject = .ok b) :
    (∀ e ∈ b.entries, IsBoundName e.1 ∧
      ∃ o ∈ p.occurrences, o.name = e.1 ∧ o.Gives subject e.2) ∧
    ∀ o ∈ p.occurrences, o.certain = true → ∀ spelling : String, spelling.toLower = o.name →
      ∃ value, b.get spelling = .ok value ∧ (o.name, value) ∈ b.entries := by
  obtain ⟨hMet, rfl⟩ := test_eq_ok_iff.1 hTest
  rw [Check.allMet_iff, satisfied_checks] at hMet
  have hAccounts := p.accounts_binds hMet.1
  rw [assignments_checks]
  have hLower {a : Assignment} {o : Occurrence} (ho : o ∈ p.occurrences) (hName : o.name = a.1) :
      lowercase a.1 = o.name :=
    (hNames.isBoundName ho).lowercase_eq (hName ▸ (hNames.isBoundName ho).toLower_eq)
  constructor
  · intro e he
    obtain ⟨a, ha, rfl⟩ := Bindings.mem_entries_ofAssignments he
    obtain ⟨o, ho, hName, hGives⟩ := hAccounts.occurs a ha
    rw [hLower ho hName]
    exact ⟨hNames.isBoundName ho, o, ho, rfl, hGives⟩
  · intro o ho hCertain spelling hSpelling
    obtain ⟨a, ha, hName⟩ := hAccounts.assigned o ho hCertain
    have hLookup := (hNames.isBoundName ho).lowercase_eq hSpelling
    have hBound : ((Bindings.ofAssignments (p.binds subject)).get? spelling).isSome = true := by
      rw [Bindings.get?_isSome_iff, hLookup, Bindings.mem_names_ofAssignments]
      exact ⟨a, ha, hLower ho hName.symm⟩
    obtain ⟨value, hValue⟩ := Option.isSome_iff_exists.1 hBound
    refine ⟨value, by rw [Bindings.get, hValue], ?_⟩
    rw [← hLookup]
    exact Bindings.mem_entries_of_get? hValue

/-- Anything, under a name. -/
def anythingNamed (name : String) : Pattern := ⟨.predicate fun _ => true, none, some name, "_"⟩

/-- One item under two names, a map with an optional entry, and a tail with names for its items and
for itself. -/
def aliasedPattern : Pattern :=
  ⟨.array [⟨.nested (anythingNamed "first"), none, some "same", "_"⟩,
      ⟨.map [(.optional (.symbol "k"), anythingNamed "skipped"),
        (.required (.string "a"), anythingNamed "found")], none, none, ""⟩]
    (some ⟨anythingNamed "item", none, some "rest"⟩), none, none, ""⟩

def aliasedSubject : Value := .array [.integer 1, .map [(.string "a", .integer 2)]]

/-- Of a subject that leaves nothing to the tail the certain names are bound, that of the tail too,
and a name is found with a capital letter as well. -/
theorem test_binds_variables_aliased : aliasedPattern.NamesGiven ∧
    ∃ b, aliasedPattern.test aliasedSubject = .ok b ∧
      (∀ e ∈ b.entries, IsBoundName e.1 ∧
        ∃ o ∈ aliasedPattern.occurrences, o.name = e.1 ∧ o.Gives aliasedSubject e.2) ∧
      ∃ value, b.get "Rest" = .ok value ∧ ("rest", value) ∈ b.entries := by
  have hNames : aliasedPattern.NamesGiven := by
    have hBound : ∀ o ∈ aliasedPattern.occurrences, IsBoundName o.name := by decide +kernel
    exact fun o ho => exists_variableName_eq_iff.2 (hBound o ho)
  have hOk : (aliasedPattern.test aliasedSubject).isOk = true := by decide +kernel
  cases hTest : aliasedPattern.test aliasedSubject with
  | error e => simp [hTest, Except.isOk, Except.toBool] at hOk
  | ok b =>
      obtain ⟨hEntries, hCertain⟩ := test_binds_variables hNames hTest
      have hRest : (⟨"rest", true, some 2⟩ : Occurrence) ∈ aliasedPattern.occurrences := by
        decide +kernel
      exact ⟨hNames, b, rfl, hEntries, hCertain _ hRest rfl "Rest" (by decide +kernel)⟩

/-- The doubtful variables are not bound, as the optional entry is skipped and the tail is empty. -/
example : (aliasedPattern.test aliasedSubject).toOption.map Bindings.names =
    some ["rest", "found", "same", "first"] := by
  decide +kernel

end Pattern

end CaseMatch
