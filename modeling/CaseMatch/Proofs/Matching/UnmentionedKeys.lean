import CaseMatch.Proofs.Matching.Checks
import CaseMatch.Proofs.Value.Insertion

/-!
The keys that a map pattern does not mention. All that the entries of a pattern see of a map is what
stands under their own keys. Two maps that agree there are matched in the same way, whatever else
they hold: with the same bindings, or with the same failure at the same place.
-/

namespace CaseMatch

namespace Dict

/-- Two maps have the same under all keys of some entries, or have nothing there. -/
def AgreeUnder (entries : List (MapKey × Pattern)) (d d' : Dict) : Prop :=
  ∀ e ∈ entries, d'.get? e.1.value = d.get? e.1.value

/-- None of some entries has a key that is the same as a given one. -/
def Unmentioned (entries : List (MapKey × Pattern)) (key : Value) : Prop :=
  ∀ e ∈ entries, key.sameKey e.1.value = false

variable {entries : List (MapKey × Pattern)} {d : Dict}

/-- An insertion under a key that no entry mentions changes nothing under the keys that they do. -/
theorem AgreeUnder.insert (hKeys : ∀ e ∈ entries, e.1.value.Built) (hd : Value.Built (.map d))
    {key value : Value} (hKey : key.Built) (hValue : value.Built)
    (hOther : Unmentioned entries key) : AgreeUnder entries d (d.insert key value).2 :=
  fun e he => get?_insert_of_other hd hKey hValue (hKeys e he) (hOther e he)

/-- Many such insertions change nothing either. -/
theorem AgreeUnder.insertAll (hKeys : ∀ e ∈ entries, e.1.value.Built) (hd : Value.Built (.map d))
    {pairs : List (Value × Value)} (hPairs : ∀ p ∈ pairs, p.1.Built ∧ p.2.Built)
    (hOther : ∀ p ∈ pairs, Unmentioned entries p.1) :
    AgreeUnder entries d (d.insertAll pairs) := by
  induction pairs generalizing d with
  | nil => exact fun _ _ => rfl
  | cons p pairs ih =>
      obtain ⟨⟨hKey, hValue⟩, hBuilt⟩ := List.forall_mem_cons.1 hPairs
      obtain ⟨hFirst, hRest⟩ := List.forall_mem_cons.1 hOther
      have hInsert := AgreeUnder.insert hKeys hd hKey hValue hFirst
      have hInserts := ih (hd.insert hKey hValue) hBuilt hRest
      exact fun e he => (hInserts e he).trans (hInsert e he)

end Dict

namespace Context

/-- Two outcomes, each with the context its step began in, that are one outcome but for the frames
around it: both are successes with the same bindings, or both are failures for the same reason, with
the same frames below the innermost one of the context. -/
inductive SameOutcome (c c' : Context) :
    Except NoMatch Unit × Context → Except NoMatch Unit × Context → Prop
  | matched (b : Bindings) :
      SameOutcome c c' (.ok (), { c with bindings := b }) (.ok (), { c' with bindings := b })
  | refused (rejection : Rejection) (below : Trace) (b : Bindings) :
      SameOutcome c c' (.error ⟨rejection, c.trace ++ below, none⟩, { c with bindings := b })
        (.error ⟨rejection, c'.trace ++ below, none⟩, { c' with bindings := b })

/-- The bindings that an outcome is compared from play no role. -/
theorem SameOutcome.of_bindings {c c' : Context} (b : Bindings)
    {end₁ end₂ : Except NoMatch Unit × Context}
    (h : SameOutcome { c with bindings := b } { c' with bindings := b } end₁ end₂) :
    SameOutcome c c' end₁ end₂ := by
  cases h with
  | matched b' => exact .matched b'
  | refused rejection below b' => exact .refused rejection below b'

end Context

open Context (SameOutcome)

namespace Check

/-- Checks see nothing of the frames around them. -/
theorem performAll_sameOutcome (ks : List Check) {c c' : Context}
    (hBindings : c'.bindings = c.bindings) :
    SameOutcome c c' (performAll ks c) (performAll ks c') := by
  obtain ⟨frame, enclosing, b⟩ := c
  obtain ⟨frame', enclosing', b'⟩ := c'
  obtain rfl : b' = b := hBindings
  induction ks generalizing b' with
  | nil => exact .matched b'
  | cons k ks ih =>
      cases hRefusal : k.demand.refusal? b'.get? with
      | some rejection =>
          rw [performAll_cons_of_refused hRefusal, performAll_cons_of_refused hRefusal]
          exact .refused rejection k.path b'
      | none =>
          rw [performAll_cons_of_met hRefusal, performAll_cons_of_met hRefusal]
          exact .of_bindings _ (ih (b'.keepAll k.demand.assignments))

end Check

namespace Pattern

variable {entries : List (MapKey × Pattern)} {d d' : Dict}

/-- The checks of a map depend on what stands under the keys of the entries, and on nothing else. -/
theorem entryChecks_of_agreeUnder (h : Dict.AgreeUnder entries d d') :
    entryChecks entries d' = entryChecks entries d := by
  induction entries with
  | nil => rfl
  | cons e entries ih =>
      obtain ⟨key, p⟩ := e
      obtain ⟨hFirst, hRest⟩ := List.forall_mem_cons.1 h
      cases key with
      | required key =>
          have hFirst : d'.get? key = d.get? key := hFirst
          rw [entryChecks, entryChecks, ih hRest, hFirst]
      | optional key =>
          have hFirst : d'.get? key = d.get? key := hFirst
          rw [entryChecks, entryChecks, ih hRest, hFirst]

/-- Matching a map against entries makes the checks of the entries, whatever frame is the innermost
one. -/
theorem runMatcher_map (entries : List (MapKey × Pattern)) (d : Dict) (c : Context) :
    runMatcher (.map entries) (.map d) c = Check.performAll (entryChecks entries d) c :=
  Makes.entries (fun e _ => e.2.makes_checks) d c rfl

/-- Maps that agree under the keys of a map pattern are matched against it in the same way. -/
theorem runMatcher_map_of_agreeUnder (h : Dict.AgreeUnder entries d d') {c c' : Context}
    (hBindings : c'.bindings = c.bindings) :
    SameOutcome c c' (runMatcher (.map entries) (.map d) c)
      (runMatcher (.map entries) (.map d') c') := by
  rw [runMatcher_map, runMatcher_map, entryChecks_of_agreeUnder h]
  exact Check.performAll_sameOutcome _ hBindings

/-- An insertion under a key that a map pattern does not mention has no influence on how a map is
matched against it. -/
theorem runMatcher_map_insert (hKeys : ∀ e ∈ entries, e.1.value.Built)
    (hMap : Value.Built (.map d)) {key value : Value} (hKey : key.Built) (hValue : value.Built)
    (hOther : Dict.Unmentioned entries key) {c c' : Context}
    (hBindings : c'.bindings = c.bindings) :
    SameOutcome c c' (runMatcher (.map entries) (.map d) c)
      (runMatcher (.map entries) (.map (d.insert key value).2) c') :=
  runMatcher_map_of_agreeUnder (.insert hKeys hMap hKey hValue hOther) hBindings

/-- A name for what stands under zero, and an empty array under the other zero, which is the same
key. -/
def zeroEntries : List (MapKey × Pattern) :=
  [(.required (.float (.zero false)), ⟨.predicate fun _ => true, none, some "x", "_"⟩),
    (.optional (.float (.zero true)), ⟨.array [] none, none, none, "[]"⟩)]

/-- A match that goes on from a name bound to something that is not a number, within a subject. -/
def amid (subject : Value) : Context := ⟨⟨subject, none⟩, [], ⟨[("y", .float .nan)]⟩⟩

/-- The insertion overwrites what stands under a map as a key. The number under zero is not an array
before the insertion, nor after. -/
theorem runMatcher_map_insert_overwritten :
    Dict.Unmentioned zeroEntries Dict.reordered ∧
    (runMatcher (.map zeroEntries) (.map (Dict.ofList Dict.mixedPairs))
      (amid (.array []))).1.isOk = false ∧
    SameOutcome (amid (.array [])) (amid .nil)
      (runMatcher (.map zeroEntries) (.map (Dict.ofList Dict.mixedPairs)) (amid (.array [])))
      (runMatcher (.map zeroEntries)
        (.map (Dict.insert (Dict.ofList Dict.mixedPairs) Dict.reordered (.string "new")).2)
        (amid .nil)) := by
  have hKeys : ∀ e ∈ zeroEntries, e.1.value.Built := by
    simp [zeroEntries, MapKey.value, Value.Built.float]
  have hOther : Dict.Unmentioned zeroEntries Dict.reordered := by
    simp only [Dict.Unmentioned, zeroEntries, List.forall_mem_cons, MapKey.value]
    decide +kernel
  exact ⟨hOther, by decide +kernel, runMatcher_map_insert hKeys (.ofList Dict.built_mixedPairs)
    Dict.built_reordered (.string "new") hOther rfl⟩

/-- Many insertions, one after another, have no influence either if none of their keys is
mentioned. -/
theorem runMatcher_map_insertAll (hKeys : ∀ e ∈ entries, e.1.value.Built)
    (hMap : Value.Built (.map d)) {pairs : List (Value × Value)}
    (hPairs : ∀ p ∈ pairs, p.1.Built ∧ p.2.Built)
    (hOther : ∀ p ∈ pairs, Dict.Unmentioned entries p.1) {c c' : Context}
    (hBindings : c'.bindings = c.bindings) :
    SameOutcome c c' (runMatcher (.map entries) (.map d) c)
      (runMatcher (.map entries) (.map (d.insertAll pairs)) c') :=
  runMatcher_map_of_agreeUnder (.insertAll hKeys hMap hPairs hOther) hBindings

end Pattern

end CaseMatch
