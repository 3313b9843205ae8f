import ObjectRole.Text.WordTable

/-! Word characters and the boundaries between them and the rest. -/
namespace ObjectRole.Text

def isWord (c : Char) : Bool :=
  if isAscii c then c.isAlphanum || c == '_' else inRuns wordRuns c

/-- An end of the text counts as a character that is in no word. -/
def isWordAt : Option Char → Bool
  | some c => isWord c
  | none => false

/-- A boundary lies between two neighbours of which exactly one is a word character. -/
def boundary (left right : Option Char) : Bool :=
  isWordAt left != isWordAt right

end ObjectRole.Text
