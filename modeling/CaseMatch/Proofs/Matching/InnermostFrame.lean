import CaseMatch.Proofs.Matching.Agreement
import CaseMatch.Proofs.Matching.FirstFailure
import Mathlib.Data.List.Flatten

/-!
The innermost frame of a failed match. It says by itself why the match failed: its pattern alone
rejects its subject for the same reason, at once and not in any part. What the match had bound
before it came there plays no role, except where the reason is that a name had another value
already.
-/

namespace CaseMatch

/-- A name would have had two values that differ. -/
def Rejection.isConflict : Rejection → Bool
  | .alreadyBound _ _ _ => true
  | _ => false

/-- What is asked of the subject itself is refused whatever names are bound. -/
theorem Demand.refusal?_eq_of_noConflict {bound? : String → Option Value} {d : Demand}
    {rejection : Rejection} (h : d.refusal? bound? = some rejection)
    (hConflict : rejection.isConflict = false) (other? : String → Option Value) :
    d.refusal? other? = some rejection := by
  cases d with
  | holds met reason => exact h
  | assigns name value =>
      rw [refusal?] at h
      split at h
      · split at h
        · cases h
        · cases h
          cases hConflict
      · cases h

namespace Check

theorem assignments_map_below (path : Trace) (ks : List Check) :
    assignments (ks.map (below path)) = assignments ks :=
  List.flatMap_map ..

/-- It does not matter for what is asked of the subject from where the checks are seen. -/
theorem satisfied_map_below (path : Trace) (ks : List Check) :
    Satisfied (ks.map (below path)) ↔ Satisfied ks :=
  List.forall_mem_map

/-- A part of some checks assigns a part of what they assign. -/
theorem assignments_sublist {ks ls : List Check} (h : ks.Sublist ls) :
    (assignments ks).Sublist (assignments ls) :=
  h.flatMap _

/-- Some checks that are met among others are met by themselves. -/
theorem AllMet.sublist {ks ls : List Check} (hValues : ∀ a ∈ assignments ls, a.2.Built)
    (h : AllMet ls) (hSublist : ks.Sublist ls) : AllMet ks := by
  rw [allMet_iff] at h ⊢
  exact ⟨fun k hk => h.1 k (hSublist.subset hk),
    h.2.sublist hValues (assignments_sublist hSublist)⟩

/-- It does not matter for checks from where they are seen. -/
theorem allMet_map_below_iff (path : Trace) (ks : List Check) :
    AllMet (ks.map (below path)) ↔ AllMet ks := by
  rw [allMet_iff, allMet_iff, satisfied_map_below, assignments_map_below]

end Check

/-- The last of the frames that lead to a part is that of the part. -/
theorem Leads.getLast? {p q : Pattern} {subject part : Value} {path : Trace}
    (h : Leads p subject path q part) :
    (⟨subject, some p⟩ :: path : Trace).getLast? = some ⟨part, some q⟩ := by
  induction h with
  | here p subject => rfl
  | into child further ih => rw [List.getLast?_cons_cons, ih]

/-- The frames of a failed match lead to a part of the subject and the pattern that was matched
against it. Unless the failure is that a name had another value, this pattern rejects this part for
the same reason where it is matched by itself, and it does so in its own frame. -/
theorem Pattern.innermost_frame_rejects {p : Pattern} {subject : Value} (hSubject : subject.Built)
    {e : NoMatch} (hTest : p.test subject = .error e) (hConflict : e.rejection.isConflict = false) :
    ∃ q part path, e.trace = ⟨subject, some p⟩ :: path ∧ Leads p subject path q part ∧
      e.innermost? = some ⟨part, some q⟩ ∧
      q.test part = .error ⟨e.rejection, [⟨part, some q⟩], none⟩ := by
  rcases Check.allMet_or_first_refused (p.checks subject) with
    hAll | ⟨before, k, after, rejection, hChecks, hBefore, hRefused⟩
  · rw [test_of_allMet hAll] at hTest
    cases hTest
  rw [test_of_refused hChecks hBefore hRefused, Except.error.injEq] at hTest
  subst hTest
  obtain ⟨q, part, hLeads, earlier, later, hOwn, hEarlier, -⟩ := Check.leads_and_belongs hChecks
  have hValues : ∀ a ∈ Check.assignments before, a.2.Built := by
    intro a ha
    apply built_binds p hSubject a
    rw [← assignments_checks, hChecks, Check.assignments_append]
    exact List.mem_append_left _ ha
  -- what was checked of the part before is met by itself, since it was met among other checks
  have hMet : Check.AllMet earlier := by
    rw [← Check.allMet_map_below_iff k.path]
    exact hBefore.sublist hValues hEarlier.sublist
  have hAlone : (Check.here k.demand).refusalAfter? earlier = some rejection :=
    Demand.refusal?_eq_of_noConflict hRefused hConflict _
  exact ⟨q, part, k.path, rfl, hLeads, hLeads.getLast?, test_of_refused hOwn hMet hAlone⟩

namespace Pattern

/-- A name for anything. -/
def namedX : Pattern := ⟨.predicate fun _ => true, none, some "x", "_"⟩

/-- The name again, with three more items behind. -/
def threeBehindX : Pattern :=
  ⟨.array [namedX] (some ⟨.ofPredicate "_" fun _ => true, some fun rest => rest.length == 3, none⟩),
    none, none, "[_ @ x, *_ if <guard>]"⟩

def sharedX : Pattern :=
  ⟨.array [namedX, threeBehindX] none, none, none, "[_ @ x, [_ @ x, *_ if <guard>]]"⟩

/-- The name is bound outside of the part that is rejected, and once more in it. -/
def twoItems : Value := .array [.integer 1, .float (.ofInt 2)]

theorem innermost_frame_rejects_sharedX :
    Value.Built (.array [.integer 1, twoItems]) ∧
    sharedX.test (.array [.integer 1, twoItems]) = .error ⟨.tailRejected,
      [⟨.array [.integer 1, twoItems], some sharedX⟩, ⟨twoItems, some threeBehindX⟩], none⟩ ∧
    threeBehindX.test twoItems = .error ⟨.tailRejected, [⟨twoItems, some threeBehindX⟩], none⟩ := by
  have hSubject : Value.Built (.array [.integer 1, twoItems]) := by
    refine .array ?_
    simp [twoItems, Value.Built.integer, Value.Built.float, Value.Built.array]
  have hTest : sharedX.test (.array [.integer 1, twoItems]) = .error ⟨.tailRejected,
      [⟨.array [.integer 1, twoItems], some sharedX⟩, ⟨twoItems, some threeBehindX⟩], none⟩ := by
    rfl
  obtain ⟨q, part, path, -, -, hInnermost, hAlone⟩ := innermost_frame_rejects hSubject hTest rfl
  have hFrame : (⟨twoItems, some threeBehindX⟩ : Frame) = ⟨part, some q⟩ :=
    Option.some.inj hInnermost
  obtain ⟨rfl, hPattern⟩ := Frame.mk.inj hFrame
  obtain rfl := Option.some.inj hPattern
  exact ⟨hSubject, hTest, hAlone⟩

/-- Where a name had another value, nothing is wrong with the innermost part by itself. -/
example :
    ((ofMatcher (.array [namedX, namedX] none) "").test (.array [.integer 1, .nil])).isOk = false ∧
      (namedX.test .nil).isOk = true := by
  decide +kernel

end Pattern

end CaseMatch
