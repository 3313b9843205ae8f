import ObjectRole.Naming

/-! English plurals: a list of irregular nouns, then the endings. -/
namespace ObjectRole.Naming

open Text

def irregular : List (String × String) := [
  ("person", "people"), ("child", "children"), ("woman", "women"), ("man", "men"),
  ("mouse", "mice"), ("goose", "geese"), ("tooth", "teeth"), ("foot", "feet"),
  ("criterion", "criteria")]

/-- The plural by one irregular noun, if the word ends in it: as a whole, behind a space, or with
a capital of its own. -/
def irregularPlural? (word : List Char) : String × String → Option (List Char)
  | (singular, plural) => do
    guard (width singular.toList ≤ width word)
    let (stem, segment) ← cutAt? (width word - width singular.toList) word
    guard (lower segment = singular.toList)
    let capitalized := segment.head?.any isCapital
    guard (stem.isEmpty || stem.getLast? == some ' ' || capitalized)
    return stem ++ if capitalized then capitalizeLetters plural.toList else plural.toList

def hissing : List (List Char) := ["s", "x", "z", "sh", "ch"].map String.toList

def regularPlural (word : List Char) : List Char :=
  if word.getLast? = some 'y' then
    let stem := word.dropLast
    if stem.getLast?.any fun c => !"aeiou".toList.contains c.toLower then
      stem ++ "ies".toList
    else word ++ ['s']
  else if hissing.any (·.isSuffixOf (lower word)) then word ++ "es".toList
  else word ++ ['s']

/-- The plural of a word or of the last word of a title; its case is kept. -/
def pluralize (word : String) : String :=
  let letters := word.toList
  .ofList ((irregular.findSome? (irregularPlural? letters)).getD (regularPlural letters))

/-- The plural a resource goes by: the declared one capitalized, else the title's. -/
def resourcePlural (declared : Option String) (title : String) : String :=
  match declared with
  | some plural => if plural.isEmpty then pluralize title else capitalize plural
  | none => pluralize title

end ObjectRole.Naming
