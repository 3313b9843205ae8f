import ObjectRole.CompileError
import ObjectRole.Naming
import ObjectRole.Reading.NounPattern

/-! The part of a reading that speaks about the object, from which properties take their names. It
begins at a hyphen-bound modifier or at the object itself and ends behind the object; an object
that is bound to what follows takes all of that in. Without an object the part is everything
behind the subject. -/
namespace ObjectRole

/-- Tokens with a part of them, from `first` up to and without `last`. -/
structure ObjectSpan where
  tokens : Predicate
  first : Nat
  last : Nat
deriving DecidableEq, Repr, Inhabited

namespace Predicate

/-- The place of the object: the first of its name that is not the subject's token. -/
def objectPosition? (tokens : Predicate) (subject : Nat) (object : String) : Option Nat :=
  tokens.zipIdx.findIdx? fun (token, place) => place != subject && token.names object

/-- Steps over tokens from a place on until one is bound or is the object. -/
def narrow (object : Nat) (place : Nat) : Predicate → Nat
  | [] => place
  | token :: rest =>
    if place = object || token.isBound then place else narrow object (place + 1) rest

def spanOf (tokens : Predicate) (subject object : Nat) : ObjectSpan :=
  let (start, last) :=
    if subject < object then
      let bound := (tokens[object]?).any (·.isBound)
      (subject + 1, if bound then tokens.length else object + 1)
    else (0, object + 1)
  let first := narrow object start (tokens.drop start)
  ⟨tokens, first, max last first⟩

/-- The span of an object. A declared plural takes the object's place first. -/
def objectSpan (tokens : Predicate) (factType subject object : String) (plural : Option String) :
    Except CompileError ObjectSpan :=
  match tokens.positionOf subject with
  | none => .error (.subjectNotInReading factType subject tokens.render)
  | some s =>
    match tokens.objectPosition? s object with
    | none => .error (.objectNotInReading factType object tokens.render)
    | some o =>
      let tokens :=
        match plural with
        | some plural => tokens.set o (.noun (Naming.capitalize (NounPattern.joined plural)))
        | none => tokens
      .ok (spanOf tokens s o)

/-- The span of a reading without an object. -/
def restSpan (tokens : Predicate) (factType subject : String) : Except CompileError ObjectSpan :=
  match tokens.positionOf subject with
  | none => .error (.subjectNotInReading factType subject tokens.render)
  | some s => .ok ⟨tokens, s + 1, tokens.length⟩

end Predicate

namespace ObjectSpan

/-- The span's tokens capitalized, their binding hyphens dropped. -/
def capitalized (s : ObjectSpan) : ObjectSpan :=
  { s with
    tokens := s.tokens.mapIdx fun place token =>
      if s.first ≤ place && place < s.last then
        { token with text := Naming.capitalize token.bare }
      else token }

def words (s : ObjectSpan) : List String :=
  ((s.tokens.drop s.first).take (s.last - s.first)).map (·.text)

end ObjectSpan
end ObjectRole
