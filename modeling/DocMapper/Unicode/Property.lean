import DocMapper.Unicode.Age
import DocMapper.Unicode.Segmentation

namespace DocMapper

/-! # Properties by name

Finding the code points that have a named property, or a named value of a property. Capitals,
blanks, hyphens, underscores and a leading `is` in a name do not count.
-/

namespace Property

/-- The part of a name that counts. The letter `c` after `is` keeps its head, as that name is
taken. -/
def plainName (name : List Char) : String :=
  let (hasHead, body) := match name with
    | i :: s :: rest => if (i = 'i' ∨ i = 'I') ∧ (s = 's' ∨ s = 'S') then (true, rest)
        else (false, name)
    | _ => (false, name)
  let kept := (body.filter fun c => c ≠ ' ' ∧ c ≠ '_' ∧ c ≠ '-' ∧ c.toNat < 128).map (·.toLower)
  if hasHead ∧ kept = ['c'] then "isc" else String.ofList kept

/-- The set that goes by a name in a table. -/
def lookup? (table : List (List String × CodeSet)) (name : String) : Option CodeSet :=
  (table.find? (·.1.contains name)).map (·.2)

/-- The code points that have a property: a yes-or-no property, a general category or a script.
Three names of categories are also names of other properties. -/
def codes? (name : List Char) : Option CodeSet :=
  let name := plainName name
  let boolean? := if name ∈ ["cf", "sc", "lc"] then none else lookup? BooleanProperty.named name
  boolean? <|> lookup? GeneralCategory.named name <|> lookup? Script.named name

/-- The properties with values, by their names. -/
def valued : List (List String × List (List String × CodeSet)) := [
  (["generalcategory", "gc"], GeneralCategory.named),
  (["script", "sc"], Script.named),
  (["scriptextensions", "scx"], Script.extensions),
  (["age"], Age.named),
  (["graphemeclusterbreak", "gcb"], GraphemeBreak.named),
  (["wordbreak", "wb"], WordBreak.named),
  (["sentencebreak", "sb"], SentenceBreak.named)
]

/-- The code points for which a property has a value. -/
def codesOf? (property value : List Char) : Option CodeSet := do
  let (_, table) ← valued.find? (·.1.contains (plainName property))
  lookup? table (plainName value)

end Property

end DocMapper
