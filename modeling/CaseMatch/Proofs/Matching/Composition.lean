import CaseMatch.Proofs.Matching.Reference
import CaseMatch.Proofs.Value.Comparison

/-!
Matching where names have values to begin with. What a pattern binds is then added to what was
bound before, and a match succeeds exactly where it does so by itself and its names agree with the
values that they had.
-/

namespace CaseMatch

namespace Bindings

/-- The bindings together with those of another record whose names they do not bind. -/
def join (b other : Bindings) : Bindings :=
  ⟨other.entries.filter (fun e => (b.entries.lookup e.1).isNone) ++ b.entries⟩

/-- The values of a name that both records bind are equal. -/
def AgreesWith (b other : Bindings) : Prop :=
  ∀ name bound value, b.get? name = some bound → other.get? name = some value →
    bound.eq value = true

/-- All values that are bound are built. -/
def Built (b : Bindings) : Prop := ∀ e ∈ b.entries, e.2.Built

theorem Built.of_get? {b : Bindings} (hb : b.Built) {name : String} {value : Value}
    (h : b.get? name = some value) : value.Built := by
  obtain ⟨before, after, hEntries, -⟩ := List.lookup_eq_some_iff.1 h
  exact hb (lowercase name, value) (by simp [hEntries])

/-- Of two records looked up in turn, the second decides just for the names that the first leaves
out. -/
theorem lookup_filter_isNone (bound other : List Assignment) (name : String) :
    (other.filter fun e => (bound.lookup e.1).isNone).lookup name =
      if (bound.lookup name).isNone then other.lookup name else none := by
  induction other with
  | nil => simp
  | cons entry rest ih =>
      obtain ⟨key, value⟩ := entry
      by_cases hKey : name = key
      · subst hKey
        cases hBound : bound.lookup name <;> simp [hBound, ih]
      · cases hBound : bound.lookup key <;>
          simp [hBound, ih, List.lookup_cons, beq_eq_false_iff_ne.2 hKey]

/-- Names that were bound keep their values, and the others have those of the other record. -/
theorem get?_join (b other : Bindings) (name : String) :
    (b.join other).get? name = (b.get? name).or (other.get? name) := by
  unfold join get?
  rw [List.lookup_append, lookup_filter_isNone]
  cases b.entries.lookup (lowercase name) <;> simp

/-- A name that is bound keeps its value. -/
theorem keep_of_bound {b : Bindings} {name : String} {bound : Value}
    (h : b.get? name = some bound) (value : Value) : b.keep name value = b := by
  simp [keep, h]

/-- A name without a value goes before all others. -/
theorem keep_of_unbound {b : Bindings} {name : String} (h : b.get? name = none) (value : Value) :
    b.keep name value = ⟨(lowercase name, value) :: b.entries⟩ := by
  have hAbsent : b.entries.filter (fun entry => entry.1 != lowercase name) = b.entries := by
    refine List.filter_eq_self.2 fun entry hEntry => ?_
    rw [bne_comm]
    exact List.lookup_eq_none_iff.1 h entry hEntry
  rw [keep, h]
  show Bindings.mk ((lowercase name, value) :: _) = _
  rw [hAbsent]

/-- Values are kept one at a time, the last of them last. -/
theorem keepAll_concat (b : Bindings) (assignments : List Assignment) (a : Assignment) :
    b.keepAll (assignments ++ [a]) = (b.keepAll assignments).keep a.1 a.2 := by
  simp [keepAll]

/-- Assignments add to a record what they come to by themselves, but for the names that it binds. -/
theorem keepAll_eq_join (b : Bindings) (assignments : List Assignment) :
    b.keepAll assignments = b.join (ofAssignments assignments) := by
  induction assignments using List.reverseRecOn with
  | nil => rfl
  | append_singleton earlier a ih =>
      obtain ⟨name, value⟩ := a
      have hLast : ofAssignments (earlier ++ [(name, value)]) =
          (ofAssignments earlier).keep name value := keepAll_concat empty earlier (name, value)
      rw [keepAll_concat, ih, hLast]
      cases hOther : (ofAssignments earlier).get? name with
      | some held =>
          rw [keep_of_bound hOther]
          cases hBound : b.get? name with
          | none => exact keep_of_bound (by rw [get?_join, hBound, hOther]; rfl) value
          | some bound => exact keep_of_bound (by rw [get?_join, hBound]; rfl) value
      | none =>
          rw [keep_of_unbound hOther]
          cases hBound : b.get? name with
          | none =>
              have hLookup : b.entries.lookup (lowercase name) = none := hBound
              rw [keep_of_unbound (by rw [get?_join, hBound, hOther]; rfl)]
              simp [join, hLookup]
          | some bound =>
              have hLookup : b.entries.lookup (lowercase name) = some bound := hBound
              rw [keep_of_bound (by rw [get?_join, hBound]; rfl)]
              simp [join, hLookup]

/-- A record does not tell names apart that are the same in small letters. -/
theorem get?_congr (b : Bindings) {name other : String} (h : lowercase name = lowercase other) :
    b.get? name = b.get? other :=
  congrArg (List.lookup · b.entries) h

/-- A value that a record keeps for a name agrees with what is bound, if the name had no value in
the record, where it equals the value that is bound. -/
theorem agreesWith_keep_iff {b other : Bindings} {name : String} {value : Value} :
    b.AgreesWith (other.keep name value) ↔ b.AgreesWith other ∧
      (other.get? name = none → ∀ bound, b.get? name = some bound → bound.eq value = true) := by
  cases hOther : other.get? name with
  | some held => simp [keep_of_bound hOther]
  | none =>
      constructor
      · refine fun hAgrees => ⟨fun n bound v hBound hHeld => ?_, fun _ bound hBound => ?_⟩
        · exact hAgrees n bound v hBound (by rw [get?_keep, hHeld]; rfl)
        · exact hAgrees name bound value hBound (by simp [get?_keep, hOther, firstValue?])
      · rintro ⟨hAgrees, hNew⟩ n bound v hBound hHeld
        cases hOld : other.get? n with
        | some held =>
            rw [get?_keep, hOld, Option.some_or, Option.some.injEq] at hHeld
            exact hAgrees n bound v hBound (hHeld ▸ hOld)
        | none =>
            by_cases hSame : lowercase name = lowercase n
            · have hValue : value = v := by simpa [get?_keep, hOld, firstValue?, hSame] using hHeld
              exact hValue ▸ hNew rfl bound (b.get?_congr hSame ▸ hBound)
            · simp [get?_keep, hOld, firstValue?, hSame] at hHeld

/-- What names come to is built, if all that is assigned is. -/
theorem built_ofAssignments {assignments : List Assignment}
    (h : ∀ a ∈ assignments, a.2.Built) {name : String} {value : Value}
    (hGet : (ofAssignments assignments).get? name = some value) : value.Built := by
  rw [get?_ofAssignments, firstValue?, Option.map_eq_some_iff] at hGet
  obtain ⟨a, hFind, rfl⟩ := hGet
  exact h a (List.mem_of_find?_eq_some hFind)

end Bindings

/-- Assignments can be made where names have values to begin with exactly if they can be made by
themselves and what they come to agrees with those values. A name that had a value before and is
given several has to equal all of them, and then these equal each other. -/
theorem consistentFrom_iff {b : Bindings} (hb : b.Built) {assignments : List Assignment}
    (hValues : ∀ a ∈ assignments, a.2.Built) :
    ConsistentFrom b assignments ↔
      Consistent assignments ∧ b.AgreesWith (.ofAssignments assignments) := by
  induction assignments using List.reverseRecOn with
  | nil => simp [ConsistentFrom, Consistent, EachAfter.nil, Bindings.AgreesWith, firstValue?,
      Bindings.get?_ofAssignments]
  | append_singleton earlier a ih =>
      obtain ⟨name, value⟩ := a
      simp only [List.forall_mem_append, List.forall_mem_singleton] at hValues
      obtain ⟨hEarlier, hValue⟩ := hValues
      have hLast : Bindings.ofAssignments (earlier ++ [(name, value)]) =
          (Bindings.ofAssignments earlier).keep name value :=
        Bindings.keepAll_concat .empty earlier (name, value)
      rw [ConsistentFrom.concat_iff, ih hEarlier, Consistent.concat_iff, hLast,
        Bindings.agreesWith_keep_iff, Bindings.keepAll_eq_join, Bindings.get?_join]
      cases hBound : b.get? name with
      | none => simp [and_right_comm]
      | some bound =>
          cases hHeld : (Bindings.ofAssignments earlier).get? name with
          | none => simp [and_assoc]
          | some held =>
              have hb' := hb.of_get? hBound
              have hh' := Bindings.built_ofAssignments hEarlier hHeld
              simp only [Option.some_or, Option.some.injEq, forall_eq', reduceCtorEq,
                false_implies, and_true]
              have hEq (hAgrees : b.AgreesWith (.ofAssignments earlier)) : bound.eq held = true :=
                hAgrees name bound held hBound hHeld
              constructor
              · rintro ⟨⟨hConsistent, hAgrees⟩, hNew⟩
                have hBack := Value.eq_partialEquivalence.symm hb' hh' (hEq hAgrees)
                exact ⟨⟨hConsistent, Value.eq_partialEquivalence.trans hh' hb' hValue hBack hNew⟩,
                  hAgrees⟩
              · rintro ⟨⟨hConsistent, hNew⟩, hAgrees⟩
                exact ⟨⟨hConsistent, hAgrees⟩,
                  Value.eq_partialEquivalence.trans hb' hh' hValue (hEq hAgrees) hNew⟩

theorem Dict.built_of_get? {d : Dict} (hd : Value.Built (.map d)) {key value : Value}
    (h : d.get? key = some value) : value.Built := by
  obtain ⟨e, hFind, rfl⟩ := Option.map_eq_some_iff.1 h
  exact (hd.parts e (List.mem_of_find?_eq_some hFind)).2

namespace Pattern

theorem built_nameBinds {name : Option String} {value : Value} (h : value.Built) :
    ∀ a ∈ nameBinds name value, a.2.Built := by
  cases name <;> simp [nameBinds, h]

/-- The elements of an array give names built values, if the patterns of the elements do. -/
theorem built_elementBinds {ps : List Pattern}
    (h : ∀ q ∈ ps, ∀ w : Value, w.Built → ∀ a ∈ q.binds w, a.2.Built) {items : List Value}
    (hItems : ∀ item ∈ items, item.Built) : ∀ a ∈ elementBinds ps items, a.2.Built := by
  induction ps generalizing items with
  | nil => simp [elementBinds]
  | cons p ps ih =>
      cases items with
      | nil => simp [elementBinds]
      | cons item items =>
          rw [List.forall_mem_cons] at h hItems
          rw [elementBinds, List.forall_mem_append]
          exact ⟨h.1 item hItems.1, ih h.2 hItems.2⟩

/-- The items behind the elements give names built values, if the pattern of the tail does. -/
theorem built_tailBinds {tail : Option (Tail Pattern)}
    (h : ∀ t ∈ tail, ∀ w : Value, w.Built → ∀ a ∈ t.each.binds w, a.2.Built) {rest : List Value}
    (hRest : ∀ item ∈ rest, item.Built) : ∀ a ∈ tailBinds tail rest, a.2.Built := by
  cases tail with
  | none => simp [tailBinds]
  | some tail =>
      rw [tailBinds, List.forall_mem_append]
      refine ⟨fun a ha => ?_, built_nameBinds (.array hRest)⟩
      obtain ⟨item, hItem, hBind⟩ := List.mem_flatMap.1 ha
      exact h tail rfl item (hRest item hItem) a hBind

/-- The values of a map are built, so that the entries give names built values if their patterns
do. -/
theorem built_entryBinds {entries : List (MapKey × Pattern)}
    (h : ∀ e ∈ entries, ∀ w : Value, w.Built → ∀ a ∈ e.2.binds w, a.2.Built) {pairs : Dict}
    (hPairs : Value.Built (.map pairs)) : ∀ a ∈ entryBinds entries pairs, a.2.Built := by
  induction entries with
  | nil => simp [entryBinds]
  | cons e entries ih =>
      obtain ⟨key, p⟩ := e
      rw [List.forall_mem_cons] at h
      have hValue key value (hGet : pairs.get? key = some value) :=
        h.1 value (Dict.built_of_get? hPairs hGet)
      cases key with
      | required key =>
          rw [entryBinds, List.forall_mem_append]
          refine ⟨?_, ih h.2⟩
          cases hGet : pairs.get? key with
          | none => simp
          | some value => exact hValue key value hGet
      | optional key =>
          rw [entryBinds, List.forall_mem_append]
          refine ⟨?_, ih h.2⟩
          cases hGet : pairs.get? key with
          | none => simp
          | some value =>
              cases hNil : value.isNil with
              | true => simp [hNil]
              | false => simpa [hNil] using hValue key value hGet

/-- What names are given in a built subject is built. -/
theorem built_binds (p : Pattern) {subject : Value} (h : subject.Built) :
    ∀ a ∈ p.binds subject, a.2.Built := by
  induction p generalizing subject with
  | predicate accepts guard name label =>
      rw [binds, matcherBinds, List.nil_append]
      exact built_nameBinds h
  | nested inner guard name label ih =>
      rw [binds, List.forall_mem_append]
      exact ⟨ih h, built_nameBinds h⟩
  | array elements tail guard name label hElements hTail =>
      rw [binds, List.forall_mem_append]
      refine ⟨?_, built_nameBinds h⟩
      cases subject with
      | array items =>
          rw [matcherBinds, List.forall_mem_append]
          exact ⟨built_elementBinds (fun q hq w => hElements q hq) h.items,
            built_tailBinds (fun t ht w => hTail t ht) fun item hItem =>
              h.items item (List.mem_of_mem_drop hItem)⟩
      | _ => simp [matcherBinds]
  | map entries guard name label hEntries =>
      rw [binds, List.forall_mem_append]
      refine ⟨?_, built_nameBinds h⟩
      cases subject with
      | map pairs => exact built_entryBinds (fun e he w => hEntries e he) h
      | _ => simp [matcherBinds]

/-- A match in a frame of its own makes the checks of the subject, where names have the values that
they have around it. -/
theorem within_run_eq_ok_iff {p : Pattern} {subject : Value} {c c' : Context} :
    Matching.within ⟨subject, some p⟩ p.run c = (.ok (), c') ↔
      Check.AllMetFrom c.bindings (p.checks subject) ∧
        c' = { c with bindings := c.bindings.keepAll (p.binds subject) } := by
  have hInside : p.run (c.push ⟨subject, some p⟩) =
      Check.performAll (p.checks subject) (c.push ⟨subject, some p⟩) :=
    p.makes_checks subject _ rfl
  have hMakes : Matching.within ⟨subject, some p⟩ p.run c =
      Check.performAll ((p.checks subject).map (Check.under ⟨subject, some p⟩)) c := by
    rw [← Check.within_performAll, Matching.within, hInside]
    rfl
  rw [hMakes, Check.performAll_eq_ok_iff, Check.allMetFrom_iff, Check.allMetFrom_iff,
    Check.satisfied_map_under, Check.assignments_map_under, assignments_checks]

/-- A pattern matches a part of a subject where names are bound already exactly if it matches the
part by itself and gives each of these names a value that its own equals. What it binds is then
added to the bindings. They lose nothing, and no name gets another value. -/
theorem nest_ok_iff {p : Pattern} {subject : Value} (hSubject : subject.Built) {c c' : Context}
    (hBound : c.bindings.Built) :
    Matching.within ⟨subject, some p⟩ p.run c = (.ok (), c') ↔
      ∃ b, p.test subject = .ok b ∧ c.bindings.AgreesWith b ∧
        c' = { c with bindings := c.bindings.join b } ∧
        ∀ name, c'.bindings.get? name = (c.bindings.get? name).or (b.get? name) := by
  rw [within_run_eq_ok_iff, Check.allMetFrom_iff, assignments_checks,
    consistentFrom_iff hBound (built_binds p hSubject), Bindings.keepAll_eq_join, ← and_assoc,
    ← assignments_checks, ← Check.allMet_iff]
  constructor
  · rintro ⟨⟨hMet, hAgrees⟩, rfl⟩
    exact ⟨_, test_eq_ok_iff.2 ⟨hMet, rfl⟩, hAgrees, rfl, Bindings.get?_join _ _⟩
  · rintro ⟨b, hTest, hAgrees, rfl, -⟩
    obtain ⟨hMet, rfl⟩ := test_eq_ok_iff.1 hTest
    exact ⟨⟨hMet, hAgrees⟩, rfl⟩

/-- Two names for the two elements of an array. -/
def namedPair : Pattern :=
  ⟨.array [⟨.predicate fun _ => true, none, some "x", "_"⟩,
    ⟨.predicate fun _ => true, none, some "y", "_"⟩] none, none, none, "[_ @ x, _ @ y]"⟩

/-- A context in which a name of the pair has a value, and another one something that is not a
number. -/
def withNames : Context := ⟨⟨.nil, none⟩, [], ⟨[("x", .integer 1), ("z", .float .nan)]⟩⟩

theorem nest_ok_namedPair :
    Value.Built (.array [.float (.ofInt 1), .integer 2]) ∧ withNames.bindings.Built ∧
    Matching.within ⟨.array [.float (.ofInt 1), .integer 2], some namedPair⟩ namedPair.run
      withNames = (.ok (), { withNames with
        bindings := ⟨[("y", .integer 2), ("x", .integer 1), ("z", .float .nan)]⟩ }) := by
  have hSubject : Value.Built (.array [.float (.ofInt 1), .integer 2]) :=
    .array (by simp [Value.Built.float, Value.Built.integer])
  have hBound : withNames.bindings.Built := by
    simp [Bindings.Built, withNames, Value.Built.float, Value.Built.integer]
  refine ⟨hSubject, hBound, (nest_ok_iff hSubject hBound).2
    ⟨⟨[("y", .integer 2), ("x", .float (.ofInt 1))]⟩, by rfl, ?_, by rfl,
      fun name => by rw [← Bindings.get?_join]; rfl⟩⟩
  intro name bound value hName hMatched
  by_cases hx : lowercase name = "x"
  · simp only [Bindings.get?, withNames, List.lookup_cons, hx] at hName hMatched
    obtain rfl : Value.integer 1 = bound := by simpa using hName
    obtain rfl : Value.float (.ofInt 1) = value := by simpa using hMatched
    decide +kernel
  · -- the pair gives no value to the other name that is bound
    have hz : lowercase name = "z" := by
      by_contra hz
      simp [Bindings.get?, withNames, List.lookup_cons, beq_eq_false_iff_ne.2 hx,
        beq_eq_false_iff_ne.2 hz] at hName
    simp [Bindings.get?, List.lookup_cons, hz] at hMatched

end Pattern

end CaseMatch
