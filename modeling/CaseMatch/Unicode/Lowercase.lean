import CaseMatch.Unicode.LowercaseTable

/-!
Lower case of whole texts. Each character is mapped by itself, but for the Greek capital sigma,
which has a form of its own at the end of a word.
-/

namespace CaseMatch.Unicode

/-- The ASCII letters in lower case; other characters are kept. -/
def asciiLowercase (c : Char) : Char :=
  if 'A' ≤ c ∧ c ≤ 'Z' then Char.ofNat (c.toNat + 32) else c

/-- The lower case of a character that stands by itself. A capital I with a dot keeps its dot as
a combining mark. -/
def lowercaseChar (c : Char) : List Char :=
  if c.toNat < 128 then [asciiLowercase c]
  else if c.toNat = 0x130 then ['i', Char.ofNat 0x307]
  else
    match lowercaseRuns.findSome? (fun run => run.counterpart? c.toNat) with
    | some code => [Char.ofNat code]
    | none => [c]

/-- Whether the first character that cannot be ignored in matters of case has a case. -/
def meetsCased (text : List Char) : Bool :=
  match text.dropWhile caseIgnorable.contains with
  | c :: _ => cased.contains c
  | [] => false

/-- Lower case, given the characters before the text in reverse. A capital sigma after a cased
character and before none ends a word. -/
def lowercaseFrom (before : List Char) : List Char → List Char
  | [] => []
  | c :: rest =>
    let here :=
      if c.toNat = 0x3A3 then
        [Char.ofNat (if meetsCased before && !meetsCased rest then 0x3C2 else 0x3C3)]
      else lowercaseChar c
    here ++ lowercaseFrom (c :: before) rest

end CaseMatch.Unicode

/-- The text in lower case. -/
def CaseMatch.lowercase (text : String) : String :=
  String.ofList (Unicode.lowercaseFrom [] text.toList)
