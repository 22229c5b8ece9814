import CaseMatch.Matching.Run
import CaseMatch.Proofs.Matching.Bindings

/-!
The stacks of a match. A context has its frames in one list, each with a subject and a pattern, and
always has an innermost one. Here subjects and patterns stand on two stacks, each of which is pushed
and popped by itself and can run empty, and the current subject is asked for in vain where the stack
of subjects is empty. Whatever calls are made, the two stacks stay alike, none runs empty, and they
are left as they were found, so that the frames of a context say all there is to say about them.
-/

namespace CaseMatch

/-- Subjects and patterns, each with the innermost first, and the names bound so far. -/
structure Stacks where
  subjects : List Value
  patterns : List (Option Pattern)
  bindings : Bindings

namespace Stacks

/-- The stacks that the frames of a context come to. -/
def ofContext (c : Context) : Stacks :=
  ⟨(c.frame :: c.enclosing).map Frame.subject, (c.frame :: c.enclosing).map Frame.pattern,
    c.bindings⟩

def push (s : Stacks) (subject : Value) (pattern : Option Pattern) : Stacks :=
  { s with subjects := subject :: s.subjects, patterns := pattern :: s.patterns }

/-- Takes the innermost item off each stack that has one. -/
def pop (s : Stacks) : Stacks :=
  { s with subjects := s.subjects.tail, patterns := s.patterns.tail }

/-- The frames from the outside inwards, as far as both stacks go. -/
def trace (s : Stacks) : Trace :=
  (s.subjects.reverse.zip s.patterns.reverse).map fun (subject, pattern) => ⟨subject, pattern⟩

def failure (s : Stacks) (rejection : Rejection) : NoMatch := ⟨rejection, s.trace, none⟩

/-- Gives a name to a value, if the name has none or has one that equals it. -/
def bind (s : Stacks) (name : String) (value : Value) : Except NoMatch Unit × Stacks :=
  match s.bindings.get? name with
  | some bound =>
    if bound.eq value then (.ok (), s)
    else (.error (s.failure (.alreadyBound name bound value)), s)
  | none => (.ok (), { s with bindings := s.bindings.insert name value })

/-- Both stacks have the same length, and neither is empty. -/
def Paired (s : Stacks) : Prop := s.subjects.length = s.patterns.length ∧ 0 < s.subjects.length

/-- Both stacks are what they were. -/
def SameStacks (s t : Stacks) : Prop := t.subjects = s.subjects ∧ t.patterns = s.patterns

/-- Names that were bound have the values they had. -/
def Keeps (s t : Stacks) : Prop :=
  ∀ name value, s.bindings.get? name = some value → t.bindings.get? name = some value

/-- The stacks of a context are of one height, and not empty. -/
theorem paired_ofContext (c : Context) : (ofContext c).Paired := by simp [Paired, ofContext]

/-- Both stacks grow by one when a frame is entered. -/
theorem Paired.push {s : Stacks} (h : s.Paired) (subject : Value) (pattern : Option Pattern) :
    (s.push subject pattern).Paired :=
  ⟨congrArg (· + 1) h.1, Nat.succ_pos _⟩

theorem Paired.of_same {s t : Stacks} (h : s.Paired) (hSame : s.SameStacks t) : t.Paired := by
  obtain ⟨hSubjects, hPatterns⟩ := hSame
  rwa [Paired, hSubjects, hPatterns]

theorem SameStacks.trans {s t u : Stacks} (h : s.SameStacks t) (hNext : t.SameStacks u) :
    s.SameStacks u :=
  ⟨hNext.1.trans h.1, hNext.2.trans h.2⟩

/-- What was pushed is popped. -/
theorem SameStacks.pop {s t : Stacks} {subject : Value} {pattern : Option Pattern}
    (h : (s.push subject pattern).SameStacks t) : s.SameStacks t.pop :=
  ⟨congrArg List.tail h.1, congrArg List.tail h.2⟩

theorem Keeps.refl (s : Stacks) : s.Keeps s := fun _ _ => id

theorem Keeps.trans {s t u : Stacks} (h : s.Keeps t) (hNext : t.Keeps u) : s.Keeps u :=
  fun name value hBound => hNext name value (h name value hBound)

/-- A name is given a value only where it has none, and a failure changes nothing. -/
theorem bind_cases (s : Stacks) (name : String) (value : Value) :
    (s.bind name value).2 = s ∨
      (s.bindings.get? name = none ∧ (s.bind name value).1 = .ok () ∧
        (s.bind name value).2 = { s with bindings := s.bindings.keep name value }) := by
  cases hBound : s.bindings.get? name with
  | none => exact .inr (by simp [bind, Bindings.keep, hBound])
  | some bound => by_cases hEq : bound.eq value = true <;> exact .inl (by simp [bind, hBound, hEq])

/-- Giving a name a value leaves both stacks as they are. -/
theorem sameStacks_bind (s : Stacks) (name : String) (value : Value) :
    s.SameStacks (s.bind name value).2 := by
  rcases s.bind_cases name value with h | ⟨-, -, h⟩ <;> rw [h] <;> exact ⟨rfl, rfl⟩

/-- Giving a name a value leaves the names that are bound as they are. -/
theorem keeps_bind (s : Stacks) (name : String) (value : Value) :
    s.Keeps (s.bind name value).2 := by
  rcases s.bind_cases name value with h | ⟨-, -, h⟩
  · rw [h]
    exact .refl s
  · intro other held hHeld
    rw [h, Bindings.get?_keep, hHeld, Option.some_or]

end Stacks

/-! ### Calls -/

/-- Calls on a context, ended by a result. What is called next can depend on how the calls before
ended and on the state they left. A call within a frame is any calls in their turn, and so is a call
that enters no frame. -/
inductive Calls : Type → Type 1 where
  | done {α : Type} (result : Except NoMatch α) : Calls α
  | current {α : Type} (next : Value → Calls α) : Calls α
  | look {α : Type} (next : Stacks → Calls α) : Calls α
  | fail {α : Type} (rejection : Rejection) (next : Except NoMatch Unit → Calls α) : Calls α
  | bind {α : Type} (name : String) (value : Value) (next : Except NoMatch Unit → Calls α) :
      Calls α
  | within {α β : Type} (subject : Value) (pattern : Option Pattern) (body : Calls β)
      (next : Except NoMatch β → Calls α) : Calls α
  | call {α β : Type} (body : Calls β) (next : Except NoMatch β → Calls α) : Calls α

/-- What calls came to: their result and the last state, all states that there were, and the states
before and behind each call that returned. -/
structure Played (α : Type) where
  result : Except NoMatch α
  final : Stacks
  passed : List Stacks
  returned : List (Stacks × Stacks)

/-- What calls came to behind others. -/
def Played.behind {α : Type} (o : Played α) (passed : List Stacks)
    (returned : List (Stacks × Stacks)) : Played α :=
  { o with passed := passed ++ o.passed, returned := returned ++ o.returned }

/-- Makes an attempt, and goes on with its result whether it succeeds or fails. -/
def Matching.attempt {α β : Type} (step : Matching β) (next : Except NoMatch β → Matching α) :
    Matching α :=
  fun c => next (step c).1 (step c).2

namespace Calls

/-- The calls on a context. -/
def run {α : Type} : Calls α → Matching α
  | .done result => fun c => (result, c)
  | .current next => fun c => (next c.current).run c
  | .look next => fun c => (next (.ofContext c)).run c
  | .fail rejection next => (Matching.fail rejection).attempt fun result => (next result).run
  | .bind name value next => (Matching.assign name value).attempt fun result => (next result).run
  | .within subject pattern body next =>
    (Matching.within ⟨subject, pattern⟩ body.run).attempt fun result => (next result).run
  | .call body next => body.run.attempt fun result => (next result).run

/-- The calls on two stacks. They get stuck where the current subject is asked for and the stack of
subjects is empty. -/
def play {α : Type} : Calls α → Stacks → Option (Played α)
  | .done result, s => some ⟨result, s, [s], []⟩
  | .current next, s => do
    let subject ← s.subjects.head?
    (next subject).play s
  | .look next, s => (next s).play s
  | .fail rejection next, s => do
    let after ← (next (.error (s.failure rejection))).play s
    some (after.behind [s] [(s, s)])
  | .bind name value next, s => do
    let after ← (next (s.bind name value).1).play (s.bind name value).2
    some (after.behind [s] [(s, (s.bind name value).2)])
  | .within subject pattern body next, s => do
    let inner ← body.play (s.push subject pattern)
    let after ← (next inner.result).play inner.final.pop
    some (after.behind (s :: inner.passed) (inner.returned ++ [(s, inner.final.pop)]))
  | .call body next, s => do
    let inner ← body.play s
    let after ← (next inner.result).play inner.final
    some (after.behind inner.passed (inner.returned ++ [(s, inner.final)]))

end Calls

/-! ### The stacks under any calls -/

/-- States on the way from one to another: the stacks are alike in each of them, and names keep
their values from each to those behind it. -/
structure Orderly (s : Stacks) (passed : List Stacks) (t : Stacks) : Prop where
  paired : ∀ u ∈ passed, u.Paired
  keeps : s.Keeps t
  between : ∀ u ∈ passed, s.Keeps u ∧ u.Keeps t
  pairwise : passed.Pairwise Stacks.Keeps

namespace Orderly

variable {s t u : Stacks} {passed more : List Stacks}

theorem single (hPaired : s.Paired) (h : s.Keeps t) : Orderly s [s] t where
  paired := by simpa using hPaired
  keeps := h
  between := by simpa using ⟨.refl s, h⟩
  pairwise := by simp

/-- Calls behind other calls keep the stacks paired and the names bound all the way. -/
theorem append (h : Orderly s passed t) (hMore : Orderly t more u) :
    Orderly s (passed ++ more) u where
  paired := List.forall_mem_append.2 ⟨h.paired, hMore.paired⟩
  keeps := h.keeps.trans hMore.keeps
  between := by
    refine List.forall_mem_append.2 ⟨fun v hv => ?_, fun v hv => ?_⟩
    · exact ⟨(h.between v hv).1, (h.between v hv).2.trans hMore.keeps⟩
    · exact ⟨h.keeps.trans (hMore.between v hv).1, (hMore.between v hv).2⟩
  pairwise := by
    refine List.pairwise_append.2 ⟨h.pairwise, hMore.pairwise, fun v hv w hw => ?_⟩
    exact (h.between v hv).2.trans (hMore.between w hw).1

/-- Nothing that is bound is lost where a frame is left. -/
theorem pop (h : Orderly s passed t) : Orderly s passed t.pop :=
  ⟨h.paired, h.keeps, h.between, h.pairwise⟩

end Orderly

/-- What calls come to in a state: both stacks are as they were, in every state on the way they are
alike, and each call that returned has left them as it found them. -/
structure Disciplined {α : Type} (s : Stacks) (o : Played α) : Prop where
  same : s.SameStacks o.final
  orderly : Orderly s o.passed o.final
  returns : ∀ r ∈ o.returned, r.1.SameStacks r.2

/-- Calls behind others that have left the stacks as they were. -/
theorem Disciplined.behind {α : Type} {s t : Stacks} {o : Played α} {passed : List Stacks}
    {returned : List (Stacks × Stacks)} (hSame : s.SameStacks t) (hOrderly : Orderly s passed t)
    (hReturns : ∀ r ∈ returned, r.1.SameStacks r.2) (h : Disciplined t o) :
    Disciplined s (o.behind passed returned) where
  same := hSame.trans h.same
  orderly := hOrderly.append h.orderly
  returns := List.forall_mem_append.2 ⟨hReturns, h.returns⟩

namespace Calls

/-- Calls never get stuck where the stacks are alike and not empty, and they leave them as they
were. By induction on the calls: a frame is entered with both stacks one higher, and what is called
within it leaves both one higher. -/
theorem exists_play {α : Type} (calls : Calls α) {s : Stacks} (h : s.Paired) :
    ∃ o, calls.play s = some o ∧ Disciplined s o := by
  induction calls generalizing s with
  | done result =>
      refine ⟨⟨result, s, [s], []⟩, rfl, ⟨rfl, rfl⟩, .single h (.refl s), by simp⟩
  | current next ih =>
      obtain ⟨subject, rest, hSubjects⟩ := List.exists_cons_of_length_pos h.2
      obtain ⟨o, hPlay, hDisciplined⟩ := ih subject h
      exact ⟨o, by simp [play, hSubjects, hPlay], hDisciplined⟩
  | look next ih => exact ih s h
  | fail rejection next ih =>
      obtain ⟨o, hPlay, hDisciplined⟩ := ih (.error (s.failure rejection)) h
      refine ⟨_, by rw [play, hPlay]; rfl, .behind ⟨rfl, rfl⟩ (.single h (.refl s)) ?_ hDisciplined⟩
      simp [Stacks.SameStacks]
  | bind name value next ih =>
      have hSame := s.sameStacks_bind name value
      obtain ⟨o, hPlay, hDisciplined⟩ := ih (s.bind name value).1 (h.of_same hSame)
      refine ⟨_, by rw [play, hPlay]; rfl,
        .behind hSame (.single h (s.keeps_bind name value)) ?_ hDisciplined⟩
      simpa using hSame
  | within subject pattern body next ihBody ih =>
      obtain ⟨inner, hInner, hBody⟩ := ihBody (h.push subject pattern)
      have hSame := hBody.same.pop
      obtain ⟨o, hPlay, hDisciplined⟩ := ih inner.result (h.of_same hSame)
      -- the frame is entered with the bindings of the state around it
      have hEnter : Orderly s [s] (s.push subject pattern) := .single h fun _ _ => id
      have hReturns : ∀ r ∈ inner.returned ++ [(s, inner.final.pop)], r.1.SameStacks r.2 :=
        List.forall_mem_append.2 ⟨hBody.returns, by simpa using hSame⟩
      have hPlayed : (within subject pattern body next).play s =
          some (o.behind (s :: inner.passed) (inner.returned ++ [(s, inner.final.pop)])) := by
        simp [play, hInner, hPlay]
      exact ⟨_, hPlayed, .behind hSame (hEnter.append hBody.orderly).pop hReturns hDisciplined⟩
  | call body next ihBody ih =>
      obtain ⟨inner, hInner, hBody⟩ := ihBody h
      obtain ⟨o, hPlay, hDisciplined⟩ := ih inner.result (h.of_same hBody.same)
      have hReturns : ∀ r ∈ inner.returned ++ [(s, inner.final)], r.1.SameStacks r.2 :=
        List.forall_mem_append.2 ⟨hBody.returns, by simpa using hBody.same⟩
      have hPlayed : (call body next).play s =
          some (o.behind inner.passed (inner.returned ++ [(s, inner.final)])) := by
        simp [play, hInner, hPlay]
      exact ⟨_, hPlayed, .behind hBody.same hBody.orderly hReturns hDisciplined⟩

end Calls

/-! ### The stacks and the frames -/

namespace Stacks

/-- Frames are told by their subjects and their patterns. -/
theorem zip_frames (frames : List Frame) :
    ((frames.map Frame.subject).zip (frames.map Frame.pattern)).map
      (fun (subject, pattern) => (⟨subject, pattern⟩ : Frame)) = frames := by
  rw [List.zip_map', List.map_map]
  exact List.map_id _

/-- The frames that the stacks tell are those of the context. -/
theorem trace_ofContext (c : Context) : (ofContext c).trace = c.trace := by
  rw [trace, ofContext, Context.trace, ← List.map_reverse, ← List.map_reverse]
  exact zip_frames _

/-- Giving a name a value does the same on the stacks as on the context. -/
theorem bind_ofContext (c : Context) (name : String) (value : Value) :
    (ofContext c).bind name value =
      ((Matching.assign name value c).1, ofContext (Matching.assign name value c).2) := by
  have hGet : (ofContext c).bindings.get? name = c.bindings.get? name := rfl
  rw [bind, Matching.assign, hGet]
  cases c.bindings.get? name with
  | none => rfl
  | some bound =>
      by_cases hEq : bound.eq value = true
      · simp [hEq]
      · simp [hEq, Matching.fail, failure, trace_ofContext]

/-- Contexts with the same stacks have the same frames. -/
theorem eq_of_sameStacks {c d : Context} (h : (ofContext c).SameStacks (ofContext d)) :
    d = { c with bindings := d.bindings } := by
  obtain ⟨frame, enclosing, bindings⟩ := c
  obtain ⟨frame', enclosing', bindings'⟩ := d
  obtain ⟨hSubjects, hPatterns⟩ := h
  have hSubjects : (frame' :: enclosing').map Frame.subject = _ := hSubjects
  have hPatterns : (frame' :: enclosing').map Frame.pattern = _ := hPatterns
  have hFrames := zip_frames (frame' :: enclosing')
  rw [hSubjects, hPatterns] at hFrames
  obtain ⟨rfl, rfl⟩ := List.cons.inj ((zip_frames (frame :: enclosing)).symm.trans hFrames)
  rfl

/-- What has the stacks of a context with a further frame is left where that frame was entered. -/
theorem pop_ofContext {c d : Context} {frame : Frame}
    (h : (ofContext (c.push frame)).SameStacks (ofContext d)) :
    (ofContext d).pop = ofContext d.pop := by
  rw [eq_of_sameStacks h]
  rfl

end Stacks

namespace Calls

open Stacks (ofContext)

/-- Calls on a context come to the same as on its stacks. -/
theorem play_ofContext {α : Type} (calls : Calls α) {c : Context} {o : Played α}
    (h : calls.play (ofContext c) = some o) :
    o.result = (calls.run c).1 ∧ o.final = ofContext (calls.run c).2 := by
  induction calls generalizing c with
  | done result =>
      cases h
      exact ⟨rfl, rfl⟩
  | current next ih => exact ih c.current h
  | look next ih => exact ih (ofContext c) h
  | fail rejection next ih =>
      obtain ⟨after, hAfter, hPlayed⟩ := Option.bind_eq_some_iff.1 h
      cases hPlayed
      rw [Stacks.failure, Stacks.trace_ofContext] at hAfter
      have hEnd := ih _ hAfter
      exact hEnd
  | bind name value next ih =>
      obtain ⟨after, hAfter, hPlayed⟩ := Option.bind_eq_some_iff.1 h
      cases hPlayed
      rw [Stacks.bind_ofContext] at hAfter
      have hEnd := ih _ hAfter
      exact hEnd
  | within subject pattern body next ihBody ih =>
      obtain ⟨inner, hInner, hRest⟩ := Option.bind_eq_some_iff.1 h
      obtain ⟨after, hAfter, hPlayed⟩ := Option.bind_eq_some_iff.1 hRest
      cases hPlayed
      have hBody : body.play (ofContext (c.push ⟨subject, pattern⟩)) = some inner := hInner
      obtain ⟨hResult, hFinal⟩ := ihBody hBody
      obtain ⟨_, hPlay, hDisciplined⟩ := body.exists_play (Stacks.paired_ofContext _)
      obtain rfl := Option.some.inj (hBody.symm.trans hPlay)
      have hSame := hDisciplined.same
      rw [hFinal] at hSame
      rw [hResult, hFinal, Stacks.pop_ofContext hSame] at hAfter
      have hEnd := ih _ hAfter
      exact hEnd
  | call body next ihBody ih =>
      obtain ⟨inner, hInner, hRest⟩ := Option.bind_eq_some_iff.1 h
      obtain ⟨after, hAfter, hPlayed⟩ := Option.bind_eq_some_iff.1 hRest
      cases hPlayed
      obtain ⟨hResult, hFinal⟩ := ihBody hInner
      rw [hResult, hFinal] at hAfter
      have hEnd := ih _ hAfter
      exact hEnd

end Calls

end CaseMatch
