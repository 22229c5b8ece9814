import CaseMatch.Proofs.Surface.Coverage
import CaseMatch.Surface.Error

/-!
Texts with blanks between them. Where a text that has lexemes is followed by a blank, its lexemes do
not depend on what stands behind, and what stands there is lexed as it is by itself, at other
places. So nothing is carried from one text into the other.
-/

namespace CaseMatch

def Label.shift (distance : Nat) (l : Label) : Label := { l with offset := distance + l.offset }

/-- The report on a text where the text stands further on in a longer one. -/
def Diagnostic.shift (distance : Nat) (d : Diagnostic) : Diagnostic :=
  { d with labels := d.labels.map (.shift distance) }

namespace Surface

/-! ### Other places -/

def Span.shift (distance : Nat) (s : Span) : Span := ⟨distance + s.start, distance + s.stop⟩

/-- The lexeme where the text stands further on in a longer one. -/
def Lexeme.shift (distance : Nat) (l : Lexeme) : Lexeme := { l with span := l.span.shift distance }

/-- What lexing a text comes to where the text stands further on in a longer one. -/
def shiftOutcome (distance : Nat) : Except Fault (List Lexeme) → Except Fault (List Lexeme)
  | .ok ls => .ok (ls.map (.shift distance))
  | .error f => .error (f.shift distance)

theorem Fault.diagnostic_shift (f : Fault) (distance : Nat) :
    (f.shift distance).diagnostic = f.diagnostic.shift distance := by
  cases f <;> rfl

theorem Fault.shift_shift (f : Fault) (distance more : Nat) :
    (f.shift more).shift distance = f.shift (distance + more) := by
  cases f <;> simp [shift, Nat.add_assoc]

/-- Lexing further on gives the same lexemes and the same fault, moved by as much. -/
theorem lexFrom_shift (distance offset : Nat) (bytes : List UInt8) :
    lexFrom (distance + offset) bytes = shiftOutcome distance (lexFrom offset bytes) := by
  induction hLength : bytes.length using Nat.strongRecOn generalizing offset bytes with
  | ind length ih =>
      subst hLength
      rw [lexFrom_eq, lexFrom_eq offset, Nat.add_assoc]
      generalize offset + (bytes.takeWhile isBlank).length = start
      cases hLeft : bytes.drop (bytes.takeWhile isBlank).length with
      | nil => rfl
      | cons b rest =>
          rw [lexHere, lexHere]
          split
          · rfl
          · cases hToken : token b rest with
            | error fault => exact congrArg Except.error (fault.shift_shift distance start).symm
            | ok read =>
                obtain ⟨t, n⟩ := read
                have hSome := length_pos_of_token hToken
                have hShorter : ((b :: rest).drop n).length < bytes.length := by
                  have := congrArg List.length hLeft
                  simp only [List.length_drop, List.length_cons] at this ⊢
                  omega
                dsimp only
                rw [Nat.add_assoc, ih _ hShorter (start + n) _ rfl]
                cases lexFrom (start + n) ((b :: rest).drop n) <;> rfl

/-! ### A blank behind a token -/

/-- No token goes on with a blank that is put behind all that stands behind it. -/
theorem noLonger_blank {c : UInt8} (hBlank : isBlank c = true) (behind more : List UInt8) :
    NoLonger (behind ++ c :: more) behind := by
  cases behind with
  | nil =>
      refine ⟨fun b hb => ?_, fun places hPlaces => ?_⟩
      · obtain rfl := Option.mem_some_iff.1 hb
        exact .inl hBlank
      · obtain ⟨rfl, -⟩ := List.cons.inj hPlaces
        cases hBlank
  | cons b rest =>
      refine ⟨fun d hd => .inr hd, fun places hPlaces => ?_⟩
      obtain ⟨rfl, rfl⟩ := List.cons.inj hPlaces
      refine ⟨rest, rfl, fun hStarts => ?_⟩
      cases rest with
      | nil => exact not_isDigit_of_isBlank hBlank
      | cons d rest => exact hStarts

/-! ### Texts with blanks between them -/

/-- Blanks are skipped, however many there are. -/
theorem lexFrom_blanks {gap : List UInt8} (h : ∀ b ∈ gap, isBlank b = true) (offset : Nat)
    (behind : List UInt8) :
    lexFrom offset (gap ++ behind) = lexFrom (offset + gap.length) behind := by
  induction gap generalizing offset with
  | nil => rfl
  | cons b gap ih =>
      rw [List.forall_mem_cons] at h
      rw [List.cons_append, lexFrom_blank h.1, ih h.2, List.length_cons, Nat.add_assoc,
        Nat.add_comm 1]

/-- The lexemes of bytes without a zero byte come before those of what stands behind a blank. -/
theorem lexFrom_before_blank {c : UInt8} (hBlank : isBlank c = true) {offset : Nat}
    {bytes : List UInt8} {ls : List Lexeme} (h : lexFrom offset bytes = .ok ls) (hFree : 0 ∉ bytes)
    (more : List UInt8) :
    lexFrom offset (bytes ++ c :: more) =
      (lexFrom (offset + bytes.length) (c :: more)).map (ls ++ ·) := by
  have hScans := scans_of_lexFrom h
  clear h
  induction hScans with
  | nothing offset =>
      rw [List.nil_append, List.length_nil, Nat.add_zero]
      cases lexFrom offset (c :: more) <;> rfl
  | zero offset rest => exact absurd List.mem_cons_self hFree
  | @blank offset b rest ls skipped behind ih =>
      have hRest : 0 ∉ rest := fun hZero => hFree (List.mem_cons_of_mem b hZero)
      rw [List.cons_append, lexFrom_blank skipped, ih hRest, List.length_cons, Nat.add_assoc,
        Nat.add_comm 1]
  | @token offset t taken rest ls form nonempty free behind ih =>
      have hRest : 0 ∉ rest := fun hZero => hFree (List.mem_append_right taken hZero)
      have hBegins := (form.of_noLonger (noLonger_blank hBlank rest more)).begins
      rw [List.append_assoc, lexFrom_of_begins hBegins, ih hRest, List.length_append, Nat.add_assoc]
      cases lexFrom (offset + (taken.length + rest.length)) (c :: more) <;> rfl

/-- A text of blanks, of which there is at least one. -/
structure Separates (gap : String) : Prop where
  nonempty : gap ≠ ""
  blank : ∀ b ∈ bytesOf gap, isBlank b = true

/-- What separates texts begins with a blank byte. -/
theorem Separates.exists_cons {gap : String} (h : Separates gap) :
    ∃ c more, bytesOf gap = c :: more ∧ isBlank c = true := by
  cases hBytes : bytesOf gap with
  | nil =>
      have hEmpty := congrArg List.length hBytes
      rw [length_bytesOf] at hEmpty
      exact absurd (String.utf8ByteSize_eq_zero_iff.1 hEmpty) h.nonempty
  | cons c more => exact ⟨c, more, rfl, h.blank c (by simp [hBytes])⟩

/-- A text with blanks behind it is lexed by itself, and what stands behind the blanks is lexed from
where it stands. -/
theorem lex_append {front gap : String} {ls : List Lexeme} (h : lex front = .ok ls)
    (hFree : '\x00' ∉ front.toList) (hGap : Separates gap) (back : String) :
    lex (front ++ gap ++ back) =
      (shiftOutcome (front ++ gap).utf8ByteSize (lex back)).map (ls ++ ·) := by
  obtain ⟨c, more, hBytes, hBlank⟩ := hGap.exists_cons
  rw [← zero_mem_bytesOf_iff] at hFree
  have hWhole : bytesOf (front ++ gap ++ back) = bytesOf front ++ c :: (more ++ bytesOf back) := by
    rw [bytesOf_append, bytesOf_append, hBytes, List.append_assoc, List.cons_append]
  have hPlace : 0 + (bytesOf front).length + (bytesOf gap).length =
      (front ++ gap).utf8ByteSize + 0 := by
    rw [← length_bytesOf, bytesOf_append, List.length_append, Nat.zero_add, Nat.add_zero]
  calc lex (front ++ gap ++ back)
      = (lexFrom (0 + (bytesOf front).length) (bytesOf gap ++ bytesOf back)).map (ls ++ ·) := by
        rw [lex, hWhole, lexFrom_before_blank hBlank h hFree, hBytes, List.cons_append]
    _ = (lexFrom ((front ++ gap).utf8ByteSize + 0) (bytesOf back)).map (ls ++ ·) := by
        rw [lexFrom_blanks hGap.blank, hPlace]
    _ = (shiftOutcome (front ++ gap).utf8ByteSize (lex back)).map (ls ++ ·) := by
        rw [lexFrom_shift, lex]

/-- Texts are lexed one by one where there are blanks between them. If the first has lexemes, the
lexemes of the second come behind them, moved to where the second stands. If the second has none,
the report is its own, and only the places that it is about are others. -/
theorem lex_separated {front gap : String} {ls : List Lexeme} (h : lex front = .ok ls)
    (hFree : '\x00' ∉ front.toList) (hGap : Separates gap) (back : String) :
    (∀ ms, lex back = .ok ms →
      lex (front ++ gap ++ back) = .ok (ls ++ ms.map (.shift (front ++ gap).utf8ByteSize))) ∧
    ∀ f, lex back = .error f →
      lex (front ++ gap ++ back) = .error (f.shift (front ++ gap).utf8ByteSize) ∧
      (f.shift (front ++ gap).utf8ByteSize).diagnostic =
        f.diagnostic.shift (front ++ gap).utf8ByteSize := by
  rw [lex_append h hFree hGap]
  constructor
  · intro ms hBack
    rw [hBack]
    rfl
  · intro f hBack
    rw [hBack]
    exact ⟨rfl, f.diagnostic_shift _⟩

/-- Behind a number and a blank, a range is read as by itself, and a point that would have made the
number another one is at fault, as it is by itself. -/
theorem lex_separated_number :
    lex "a 1" = .ok [⟨.identifier "a", 0, 1⟩, ⟨.integer 1, 2, 3⟩] ∧ '\x00' ∉ "a 1".toList ∧
      Separates " \n" ∧
      lex ("a 1" ++ " \n" ++ "..=2") = .ok ([⟨.identifier "a", 0, 1⟩, ⟨.integer 1, 2, 3⟩] ++
        [⟨.inclusiveRange, 5, 8⟩, ⟨.integer 2, 8, 9⟩]) ∧
      lex ("a 1" ++ " \n" ++ ".5") = .error (.here 5 1 "Expected \"..\"") := by
  have hFront : lex "a 1" = .ok [⟨.identifier "a", 0, 1⟩, ⟨.integer 1, 2, 3⟩] := by decide +kernel
  have hFree : '\x00' ∉ "a 1".toList := by decide +kernel
  have hGap : Separates " \n" := ⟨by decide, by decide +kernel⟩
  have hRange : lex "..=2" = .ok [⟨.inclusiveRange, 0, 3⟩, ⟨.integer 2, 3, 4⟩] := by decide +kernel
  have hFault : lex ".5" = .error (.here 0 1 "Expected \"..\"") := by decide +kernel
  exact ⟨hFront, hFree, hGap, (lex_separated hFront hFree hGap _).1 _ hRange,
    ((lex_separated hFront hFree hGap _).2 _ hFault).1⟩

end Surface

end CaseMatch
