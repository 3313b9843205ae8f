import ObjectRole.Text.Casing
import ObjectRole.Text.Split
import ObjectRole.Text.Width

/-! Names derived from nouns and readings: schema keys and property names. -/
namespace ObjectRole.Naming

open Text

def keyLetters : Char → List Char
  | ' ' => []
  | '-' => []
  | '&' => ['A', 'n', 'd']
  | c => [c]

def key (name : List Char) : List Char := name.flatMap keyLetters

/-- The schema key of a name: spaces and hyphens dropped, `&` spelled out. -/
def schemaKey (name : String) : String := .ofList (key name.toList)

def capitalizeLetters : List Char → List Char
  | [] => []
  | c :: rest => capital c ++ rest

def capitalize (word : String) : String := .ofList (capitalizeLetters word.toList)

/-- How many leading letters of a key turn small: a leading acronym keeps its last capital when
that begins the next word. -/
def loweredCount (key : List Char) : Nat :=
  let run := (key.takeWhile isCapital).length
  if run ≤ 1 then run
  else if (key[run]?).any isSmall then run - 1
  else run

def propertyLetters (name : List Char) : List Char :=
  let key := key name
  if key = upper key then lower key
  else
    let count := loweredCount key
    (key.take count).flatMap small ++ key.drop count

/-- The lower-camel-case property name of a name. A name in capitals turns small as a whole. -/
def propertyName (name : String) : String := .ofList (propertyLetters name.toList)

/-- A word in capitals keeps its first only. -/
def titleCase (word : List Char) : List Char :=
  if word = upper word then capitalizeLetters (lower word) else word

/-- The property name of the words on the object's side of a reading. The first may be a name of
several words; the later ones are capitalized and appended. -/
def propertyNameOf : List String → String
  | [] => ""
  | first :: rest =>
    let head := (piecesWhen (· == ' ') first.toList).flatMap titleCase
    .ofList (propertyLetters (head ++ rest.flatMap fun word => capitalizeLetters word.toList))

/-- Whether a letter is its own capital, as the first letter of a new word is. -/
def beginsWord (text : List Char) : Bool :=
  match text with
  | [] => false
  | c :: _ => capital c == [c]

def stripLetters (property subject : List Char) : List Char :=
  let owner := (subject.filter (· != ' ')).map Char.toUpper
  if owner.isEmpty || width property ≤ width owner then property
  else
    match cutAt? (width owner) property with
    | none => property
    | some (head, tail) =>
      if head.map Char.toUpper = owner && beginsWord tail then propertyLetters tail else property

/-- Drops the subject's name from the front of a property name, at a word's end only. -/
def stripSubject (property subject : String) : String :=
  .ofList (stripLetters property.toList subject.toList)

/-- The indefinite article of a title. -/
def article (title : String) : String :=
  if (title.toList.head?).any fun c => "AEIOU".toList.contains c.toUpper then "an" else "a"

end ObjectRole.Naming
