import ObjectRole.Reading.Token
import ObjectRole.Text.Casing
import ObjectRole.Text.Split
import ObjectRole.Text.Word

/-! Splitting a reading at the names of nouns. Longer names win over shorter ones at the same
place, and a name counts only between word boundaries. -/
namespace ObjectRole

/-- The names that a reading is split at, each once, longest in bytes first. -/
structure NounPattern where
  names : List String
deriving DecidableEq, Repr, Inhabited

namespace NounPattern

/-- Longer names come first, equally long ones in text order. -/
def precedes (a b : String) : Bool :=
  b.utf8ByteSize < a.utf8ByteSize || b.utf8ByteSize == a.utf8ByteSize && a < b

def place (name : String) : List String → List String
  | [] => [name]
  | other :: rest =>
    if name = other then other :: rest
    else if precedes name other then name :: other :: rest
    else other :: place name rest

def ofNames (names : List String) : NounPattern :=
  ⟨(names.filter (!·.isEmpty)).foldr place []⟩

/-- The first of the names that stands at the front of `text` between word boundaries, with the
hyphen behind it if there is one. `before` is the character that precedes the text. -/
def occurrence? (p : NounPattern) (before : Option Char) (text : List Char) : Option (List Char) :=
  if Text.boundary before text.head? then
    p.names.findSome? fun name => do
      let rest ← name.toList.isPrefixOf? text
      guard (Text.boundary name.toList.getLast? rest.head?)
      return if rest.head? = some '-' then name.toList ++ ['-'] else name.toList
  else none

/-- Cuts a text into a first gap and the occurrences of names, each with the gap behind it. -/
def cut (p : NounPattern) (before : Option Char) :
    List Char → List Char × List (List Char × List Char)
  | [] => ([], [])
  | c :: rest =>
    match p.occurrence? before (c :: rest) with
    | some name =>
      let (gap, more) := p.cut name.getLast? (rest.drop (name.length - 1))
      ([], (name, gap) :: more)
    | none =>
      let (gap, more) := p.cut (some c) rest
      (c :: gap, more)
termination_by text => text.length
decreasing_by all_goals (simp only [List.length_drop, List.length_cons]; omega)

/-- Joins hyphenated continuations: `word-part` turns into `wordPart`. Other hyphens stay. -/
def joinContinuations : List Char → List Char
  | [] => []
  | c :: rest =>
    match c, rest with
    | '-', d :: more =>
      if d.isLower then d.toUpper :: joinContinuations more
      else '-' :: joinContinuations (d :: more)
    | c, rest => c :: joinContinuations rest

def joined (word : String) : String := .ofList (joinContinuations word.toList)

def wordTokens (gap : List Char) : Predicate :=
  (Text.words gap).map fun word => .word (.ofList (joinContinuations (Text.lower word)))

def tokenize (p : NounPattern) (reading : String) : Predicate :=
  let (gap, occurrences) := p.cut none reading.toList
  wordTokens gap ++ occurrences.flatMap fun (name, gap) => .noun (.ofList name) :: wordTokens gap

end NounPattern
end ObjectRole
