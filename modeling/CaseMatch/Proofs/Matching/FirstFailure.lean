import CaseMatch.Proofs.Matching.Outcome

/-!
Which check a failed match failed at, and where in the subject it belongs. The frames of a failure
lead from the whole subject to the part that was checked, each to a part of the one before it,
together with the pattern that is matched against that part.
-/

namespace CaseMatch

/-- A part of a subject, and the pattern that a matcher applies to it. Patterns around others apply
what these apply. The value under an optional key is no part if it is nil. -/
inductive Applies : Matcher Pattern → Value → Pattern → Value → Prop where
  | nested {inner q : Pattern} {subject part : Value}
      (child : Applies inner.matcher subject q part) : Applies (.nested inner) subject q part
  | element {elements : List Pattern} {tail : Option (Tail Pattern)} {items : List Value}
      {q : Pattern} {part : Value} (i : Nat) (atElement : elements[i]? = some q)
      (atItem : items[i]? = some part) : Applies (.array elements tail) (.array items) q part
  | tail {elements : List Pattern} {tail : Tail Pattern} {items : List Value} {part : Value}
      (i : Nat) (behind : elements.length ≤ i) (atItem : items[i]? = some part) :
      Applies (.array elements (some tail)) (.array items) tail.each part
  | required {entries : List (MapKey × Pattern)} {pairs : Dict} {key part : Value} {q : Pattern}
      (entry : (.required key, q) ∈ entries) (found : pairs.get? key = some part) :
      Applies (.map entries) (.map pairs) q part
  | optional {entries : List (MapKey × Pattern)} {pairs : Dict} {key part : Value} {q : Pattern}
      (entry : (.optional key, q) ∈ entries) (found : pairs.get? key = some part)
      (notNil : part.isNil = false) : Applies (.map entries) (.map pairs) q part

/-- Frames that lead from a subject with its pattern to a part of it with the pattern of that
part. -/
inductive Leads : Pattern → Value → Trace → Pattern → Value → Prop where
  | here (p : Pattern) (subject : Value) : Leads p subject [] p subject
  | into {p q r : Pattern} {subject part inmost : Value} {path : Trace}
      (child : Applies p.matcher subject q part) (further : Leads q part path r inmost) :
      Leads p subject (⟨part, some q⟩ :: path) r inmost

namespace Check

/-- A check of a part, seen from around all frames that lead to it. -/
def below (path : Trace) (k : Check) : Check := ⟨path ++ k.path, k.demand⟩

theorem map_below_nil (ks : List Check) : ks.map (below []) = ks :=
  List.map_id ks

/-- A path that begins with a frame puts that frame around what the rest of it leads to. -/
theorem map_below_cons (frame : Frame) (path : Trace) (ks : List Check) :
    ks.map (below (frame :: path)) = (ks.map (below path)).map (under frame) := by
  rw [List.map_map]
  rfl

/-- The checks of a matcher are checks of the subject itself and, in between, all checks of parts
against the patterns that are applied to them. -/
inductive MadeOf (matcher : Matcher Pattern) (subject : Value) : List Check → Prop where
  | nil : MadeOf matcher subject []
  | own {ks : List Check} (demand : Demand) (rest : MadeOf matcher subject ks) :
      MadeOf matcher subject (.here demand :: ks)
  | part {q : Pattern} {part : Value} {ks : List Check} (child : Applies matcher subject q part)
      (rest : MadeOf matcher subject ks) :
      MadeOf matcher subject ((q.checks part).map (under ⟨part, some q⟩) ++ ks)

namespace MadeOf

variable {matcher : Matcher Pattern} {subject : Value} {ks ls : List Check}

/-- Checks one after the other are made of the parts of both. -/
theorem append (hFirst : MadeOf matcher subject ks) (hSecond : MadeOf matcher subject ls) :
    MadeOf matcher subject (ks ++ ls) := by
  induction hFirst with
  | nil => exact hSecond
  | own demand _ ih => exact .own demand ih
  | part child _ ih =>
      rw [List.append_assoc]
      exact .part child ih

/-- All checks of a part, seen from around its frame, are those of one part. -/
theorem one {q : Pattern} {part : Value} (child : Applies matcher subject q part) :
    MadeOf matcher subject ((q.checks part).map (under ⟨part, some q⟩)) := by
  have h := MadeOf.part child .nil
  rwa [List.append_nil] at h

theorem guard {α : Type} (guard : Option (α → Bool)) (part : α) (rejection : Rejection) :
    MadeOf matcher subject (guardChecks guard part rejection) := by
  cases guard with
  | none => exact .nil
  | some holds => exact .own _ .nil

/-- A name adds at most a check of its own. -/
theorem name (name : Option String) (value : Value) :
    MadeOf matcher subject (nameChecks name value) := by
  cases name with
  | none => exact .nil
  | some name => exact .own _ .nil

/-- What the checks of an inner pattern are made of is what those of a pattern around it are made
of. -/
theorem nested {inner : Pattern} (h : MadeOf inner.matcher subject ks) :
    MadeOf (.nested inner) subject ks := by
  induction h with
  | nil => exact .nil
  | own demand _ ih => exact .own demand ih
  | part child _ ih => exact .part (.nested child) ih

/-- The checks of the elements are those of the items in their places. -/
theorem elements {ps : List Pattern} {items : List Value}
    (h : ∀ (i : Nat) q part, ps[i]? = some q → items[i]? = some part →
      Applies matcher subject q part) :
    MadeOf matcher subject (Pattern.elementChecks ps items) := by
  induction ps generalizing items with
  | nil => exact .nil
  | cons p ps ih =>
      cases items with
      | nil => exact .nil
      | cons item items =>
          exact .part (h 0 p item rfl rfl) (ih fun i q part => h (i + 1) q part)

/-- The checks that one pattern makes of each item are those of the items. -/
theorem each {q : Pattern} {items : List Value}
    (h : ∀ item ∈ items, Applies matcher subject q item) :
    MadeOf matcher subject
      (items.flatMap fun item => (q.checks item).map (under ⟨item, some q⟩)) := by
  induction items with
  | nil => exact .nil
  | cons item items ih =>
      rw [List.forall_mem_cons] at h
      exact .part h.1 (ih h.2)

/-- The checks of a tail are its guard and those of the items that are left. -/
theorem tail {t : Option (Tail Pattern)} {rest : List Value}
    (h : ∀ t' ∈ t, ∀ item ∈ rest, Applies matcher subject t'.each item) :
    MadeOf matcher subject (Pattern.tailChecks t rest) := by
  cases t with
  | none => exact .nil
  | some t => exact ((each (h t rfl)).append (guard ..)).append (name ..)

/-- The checks of the entries are their own, or those of what stands under a key. An optional key
asks something of its value only if that is there and is not nil. -/
theorem entries {es : List (MapKey × Pattern)} {pairs : Dict}
    (hRequired : ∀ key q part, (.required key, q) ∈ es → pairs.get? key = some part →
      Applies matcher subject q part)
    (hOptional : ∀ key q part, (.optional key, q) ∈ es → pairs.get? key = some part →
      part.isNil = false → Applies matcher subject q part) :
    MadeOf matcher subject (Pattern.entryChecks es pairs) := by
  induction es with
  | nil => exact .nil
  | cons e es ih =>
      obtain ⟨key, p⟩ := e
      have hRest := ih (fun key q part he => hRequired key q part (List.mem_cons_of_mem _ he))
        (fun key q part he => hOptional key q part (List.mem_cons_of_mem _ he))
      cases key with
      | required key =>
          refine append ?_ hRest
          cases hFound : pairs.get? key with
          | none => exact .own _ .nil
          | some value => exact .own _ (one (hRequired key p value List.mem_cons_self hFound))
      | optional key =>
          refine append ?_ hRest
          cases hFound : pairs.get? key with
          | none => exact .nil
          | some value =>
              cases hNil : value.isNil with
              | true => simpa [hNil] using MadeOf.nil
              | false =>
                  simpa [hNil] using one (hOptional key p value List.mem_cons_self hFound hNil)

/-- The checks of a pattern are made of what those of its matcher are made of, and of its own guard
and name. -/
theorem run (p : Pattern)
    (h : MadeOf p.matcher subject (Pattern.matcherChecks p.matcher subject)) :
    MadeOf p.matcher subject (p.checks subject) := by
  obtain ⟨matcher, ofGuard, ofName, label⟩ := p
  exact (h.append (guard ofGuard subject .guardRejected)).append (name ofName subject)

end MadeOf

end Check

/-- The checks of a pattern are its own and those of the parts that it applies patterns to. -/
theorem Pattern.madeOf_checks (p : Pattern) (subject : Value) :
    Check.MadeOf p.matcher subject (p.checks subject) := by
  refine .run p ?_
  induction p generalizing subject with
  | predicate accepts guard name label => exact .own _ .nil
  | nested inner guard name label ih => exact .nested (.run inner (ih subject))
  | array elements tail guard name label =>
      cases subject with
      | array items =>
          refine .own _ (.own _ (.append (.elements fun i q part => .element i) (.tail ?_)))
          intro t ht item hItem
          obtain ⟨i, hi⟩ := List.mem_iff_getElem?.1 hItem
          obtain rfl := ht
          rw [List.getElem?_drop] at hi
          exact .tail (elements.length + i) (Nat.le_add_right ..) hi
      | _ => exact .own _ .nil
  | map entries guard name label =>
      cases subject with
      | map pairs =>
          exact .own _ (.entries (fun key q part => .required) (fun key q part => .optional))
      | _ => exact .own _ .nil

namespace Check

/-- A check belongs to a part of the subject and the pattern that is matched against it: frames lead
there, and with the checks around it that the pattern makes of that part the check stands in their
order. -/
def BelongsTo (before : List Check) (k : Check) (after : List Check) (q : Pattern) (part : Value) :
    Prop :=
  ∃ earlier later, q.checks part = earlier ++ here k.demand :: later ∧
    earlier.map (below k.path) <:+ before ∧ later.map (below k.path) <+: after

/-- A check stands among all checks of a part, under the frame of this part. -/
def InPart (matcher : Matcher Pattern) (subject : Value) (before : List Check) (k : Check)
    (after : List Check) : Prop :=
  ∃ q part earlier k' later, Applies matcher subject q part ∧
    q.checks part = earlier ++ k' :: later ∧ k = k'.under ⟨part, some q⟩ ∧
    earlier.map (under ⟨part, some q⟩) <:+ before ∧ later.map (under ⟨part, some q⟩) <+: after

/-- A check in a part is one there still if more comes before. -/
theorem InPart.of_suffix {matcher : Matcher Pattern} {subject : Value}
    {before longer after : List Check} {k : Check} (h : InPart matcher subject before k after)
    (hSuffix : before <:+ longer) : InPart matcher subject longer k after := by
  obtain ⟨q, part, earlier, k', later, hApplies, hSplit, hUnder, hEarlier, hLater⟩ := h
  exact ⟨q, part, earlier, k', later, hApplies, hSplit, hUnder, hEarlier.trans hSuffix, hLater⟩

/-- A check among those of a part is in that part, whatever comes after. -/
theorem InPart.of_block {matcher : Matcher Pattern} {subject part : Value} {q : Pattern}
    {before after : List Check} {k : Check} (child : Applies matcher subject q part)
    (hBlock : (q.checks part).map (under ⟨part, some q⟩) = before ++ k :: after)
    (rest : List Check) : InPart matcher subject before k (after ++ rest) := by
  obtain ⟨earlier, others, hSplit, hEarlier, hOthers⟩ := List.map_eq_append_iff.1 hBlock
  obtain ⟨k', later, rfl, hUnder, hLater⟩ := List.map_eq_cons_iff.1 hOthers
  refine ⟨q, part, earlier, k', later, child, hSplit, hUnder.symm, ?_, ?_⟩
  · exact hEarlier ▸ List.suffix_refl _
  · exact hLater ▸ List.prefix_append _ _

/-- A check is one of the subject itself, or stands among all checks of a part of it. -/
theorem MadeOf.own_or_part {matcher : Matcher Pattern} {subject : Value} {ks : List Check}
    (h : MadeOf matcher subject ks) {before after : List Check} {k : Check}
    (hChecks : ks = before ++ k :: after) :
    k.path = [] ∨ InPart matcher subject before k after := by
  induction h generalizing before with
  | nil => simp at hChecks
  | own demand _ ih =>
      cases before with
      | nil =>
          obtain ⟨rfl, -⟩ := List.cons.inj hChecks
          exact .inl rfl
      | cons first before =>
          exact (ih (List.cons.inj hChecks).2).imp_right (·.of_suffix (List.suffix_cons _ _))
  | part child _ ih =>
      rcases List.append_eq_append_iff.1 hChecks with
        ⟨front, rfl, hRest⟩ | ⟨back, hBlock, hRest⟩
      · exact (ih hRest).imp_right (·.of_suffix (List.suffix_append _ _))
      · cases back with
        | nil =>
            have hRest' : _ = [] ++ k :: after := hRest.symm
            exact (ih hRest').imp_right (·.of_suffix List.nil_suffix)
        | cons first back =>
            obtain ⟨rfl, rfl⟩ := List.cons.inj hRest
            exact .inr (.of_block child hBlock _)

/-- Each check of a pattern belongs where its frames lead. -/
theorem leads_and_belongs {p : Pattern} {subject : Value} {before after : List Check} {k : Check}
    (hChecks : p.checks subject = before ++ k :: after) :
    ∃ q part, Leads p subject k.path q part ∧ BelongsTo before k after q part := by
  obtain ⟨path, demand⟩ := k
  induction path generalizing p subject before after with
  | nil =>
      refine ⟨p, subject, .here p subject, before, after, hChecks, ?_, ?_⟩
      · exact (map_below_nil before).symm ▸ List.suffix_refl before
      · exact (map_below_nil after).symm ▸ List.prefix_refl after
  | cons frame path ih =>
      rcases (p.madeOf_checks subject).own_or_part hChecks with hOwn | hPart
      · nomatch hOwn
      · obtain ⟨q, part, earlier, k', later, hApplies, hSplit, hUnder, hEarlier, hLater⟩ := hPart
        obtain ⟨path', demand'⟩ := k'
        cases hUnder
        obtain ⟨r, inmost, hLeads, earlier', later', hOwn, hEarlier', hLater'⟩ := ih hSplit
        refine ⟨r, inmost, .into hApplies hLeads, earlier', later', hOwn, ?_, ?_⟩
        · rw [map_below_cons]
          exact (hEarlier'.map _).trans hEarlier
        · rw [map_below_cons]
          exact (hLater'.map _).trans hLater

end Check

/-- A failed match reports the first check that is not met, and the frames that lead to it. -/
theorem Pattern.test_error_iff (p : Pattern) (subject : Value) (e : NoMatch) :
    p.test subject = .error e ↔
      ∃ before k after, p.checks subject = before ++ k :: after ∧ Check.AllMet before ∧
        k.refusalAfter? before = some e.rejection ∧ e.trace = ⟨subject, some p⟩ :: k.path ∧
        e.clause = none ∧
        ∃ q part, Leads p subject k.path q part ∧ Check.BelongsTo before k after q part := by
  constructor
  · intro hTest
    rcases Check.allMet_or_first_refused (p.checks subject) with
      hAll | ⟨before, k, after, rejection, hChecks, hBefore, hRefused⟩
    · rw [test_of_allMet hAll] at hTest
      nomatch hTest
    · rw [test_of_refused hChecks hBefore hRefused, Except.error.injEq] at hTest
      subst hTest
      exact ⟨before, k, after, hChecks, hBefore, hRefused, rfl, rfl,
        Check.leads_and_belongs hChecks⟩
  · rintro ⟨before, k, after, hChecks, hBefore, hRefused, hTrace, hClause, -⟩
    rw [test_of_refused hChecks hBefore hRefused, ← hTrace, ← hClause]

end CaseMatch
