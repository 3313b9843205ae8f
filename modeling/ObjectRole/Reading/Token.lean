/-! Tokens of a reading: names of nouns, kept as written, and the words between them. A trailing
hyphen binds a token to its neighbour. -/
namespace ObjectRole

structure Token where
  text : String
  isNoun : Bool
deriving DecidableEq, Repr, Inhabited

namespace Token

def noun (text : String) : Token := ⟨text, true⟩

def word (text : String) : Token := ⟨text, false⟩

def isBound (t : Token) : Bool := t.text.toList.getLast? == some '-'

/-- The text without its binding hyphen. -/
def bare (t : Token) : String :=
  if t.isBound then .ofList t.text.toList.dropLast else t.text

/-- Whether the token is the noun of that name, bound or not. -/
def names (t : Token) (noun : String) : Bool := t.isNoun && t.bare == noun

end Token

/-- A tokenized reading. -/
abbrev Predicate := List Token

namespace Predicate

/-- The place of the first token that names a noun. -/
def positionOf (p : Predicate) (noun : String) : Option Nat := p.findIdx? (·.names noun)

/-- The nouns of a reading in order, without binding hyphens. -/
def nouns (p : Predicate) : List String := (p.filter (·.isNoun)).map (·.bare)

def render (p : Predicate) : String := " ".intercalate (p.map (·.text))

end Predicate
end ObjectRole
