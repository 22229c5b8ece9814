import CaseMatch.Regex.CharClass
import CaseMatch.Unicode.Age
import CaseMatch.Unicode.Property
import CaseMatch.Unicode.Script
import CaseMatch.Unicode.Segmentation

/-!
Classes of characters by the name of a property. Names are compared loosely: case, blanks,
hyphens, underscores and a leading `is` do not count.
-/

namespace CaseMatch.Regex

/-- A name without what does not count. One name would lose its meaning with its first two
letters and keeps them. -/
def looseName (name : String) : String :=
  let kept (cs : List Char) : List Char :=
    (cs.filter fun c => c.toNat < 128 && c != ' ' && c != '_' && c != '-').map Char.toLower
  match name.toList with
  | i :: s :: rest =>
    if i.toLower = 'i' ∧ s.toLower = 's' then
      if kept rest = ['c'] then "isc" else String.ofList (kept rest)
    else String.ofList (kept (i :: s :: rest))
  | cs => String.ofList (kept cs)

namespace CharClass

/-- Whether a category belongs to a group, given by the first letter that its members share. The
letters with case are a group besides. -/
def inCategory (wanted category : String) : Bool :=
  if wanted = "LC" then ["Ll", "Lt", "Lu"].contains category
  else category == wanted || (wanted.length == 1 && category.startsWith wanted)

/-- The class of a general category or of a group of them. What is no character belongs to none. -/
def ofCategoryName? (name : String) : Option CharClass :=
  match name with
  | "any" => some all
  | "assigned" => some (ofPartition Unicode.generalCategories (· == "Cn")).complement
  | "ascii" => some (interval '\x00' '\x7f')
  | _ => (Unicode.generalCategoryNames.find? name).map fun wanted =>
      ofPartition Unicode.generalCategories fun c => c != "Cs" && inCategory wanted c

def ofScriptName? (name : String) : Option CharClass :=
  (Unicode.scriptNames.find? name).map fun wanted => ofPartition Unicode.scripts (· == wanted)

def ofPropertyName? (name : String) : Option CharClass :=
  (Unicode.propertyNames.find? name).bind fun full =>
    (Unicode.properties.find? (·.1 == full)).map fun entry => ofCodeSet entry.2

/-- The class of a name that stands alone: a property, a category or a script, in this order. Two
abbreviations of categories are abbreviations of other things too and mean the category. -/
def ofName? (name : String) : Option CharClass :=
  let name := looseName name
  let property :=
    if name = "cf" ∨ name = "sc" ∨ name = "lc" then Option.none else ofPropertyName? name
  (property.or (ofCategoryName? name)).or (ofScriptName? name)

/-- The class of a partition's value, by name. -/
def ofValueName? (p : Unicode.Partition) (names : Unicode.Aliases) (name : String) :
    Option CharClass :=
  (names.find? name).map fun wanted => ofPartition p (· == wanted)

/-- The class of the characters for which a property has a value. An edition has all characters
that were assigned by then. -/
def ofPropertyValue? (property value : String) : Option CharClass :=
  let value := looseName value
  match looseName property with
  | "gc" | "generalcategory" => ofCategoryName? value
  | "sc" | "script" => ofScriptName? value
  | "scx" | "scriptextensions" =>
    (Unicode.scriptNames.find? value).map fun wanted =>
      ofPartition Unicode.scriptExtensions (fun scripts => (scripts.splitOn "+").contains wanted)
  | "age" =>
    (Unicode.ageNames.find? value).map fun edition =>
      ofPartition Unicode.ages fun given =>
        given != "0" && decide (given.toNat?.getD 0 ≤ edition.toNat?.getD 0)
  | "gcb" | "graphemeclusterbreak" =>
    ofValueName? Unicode.graphemeBreaks Unicode.graphemeBreakNames value
  | "wb" | "wordbreak" => ofValueName? Unicode.wordBreaks Unicode.wordBreakNames value
  | "sb" | "sentencebreak" => ofValueName? Unicode.sentenceBreaks Unicode.sentenceBreakNames value
  | _ => Option.none

end CharClass

end CaseMatch.Regex
