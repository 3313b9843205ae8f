import ObjectRole.Model.Basic

/-! A resolved model and the questions that are asked of it. -/
namespace ObjectRole

structure Snapshot where
  nouns : List Noun := []
  factTypes : List FactType := []
  roles : List Role := []
  constraints : List Constraint := []
  spans : List Span := []
  examples : List Example := []
  jsonExamples : List JsonExample := []
deriving Inhabited

namespace Snapshot

variable (s : Snapshot)

def noun? (id : NounId) : Option Noun := s.nouns[id.place]?
def factType? (id : FactTypeId) : Option FactType := s.factTypes[id.place]?
def role? (id : RoleId) : Option Role := s.roles[id.place]?
def constraint? (id : ConstraintId) : Option Constraint := s.constraints[id.place]?

/-- The noun of a number that is in range. -/
def noun (id : NounId) : Noun := (s.noun? id).getD default
def factType (id : FactTypeId) : FactType := (s.factType? id).getD default
def role (id : RoleId) : Role := (s.role? id).getD default
def constraint (id : ConstraintId) : Constraint := (s.constraint? id).getD default

/-- Nouns and fact types, nouns first. -/
def subjects : List Player :=
  s.nouns.map (.noun ·.id) ++ s.factTypes.map (.factType ·.id)

def nameOf : Player → String
  | .noun id => (s.noun id).name
  | .factType id => (s.factType id).title

def descriptionOf : Player → Option String
  | .noun id => (s.noun id).description
  | .factType id => (s.factType id).description

def pluralOf : Player → Option String
  | .noun id => (s.noun id).plural
  | .factType id => (s.factType id).plural

def permissionsOf : Player → Option (List Permission)
  | .noun id => (s.noun id).permissions
  | .factType id => (s.factType id).permissions

def superTypeOf : Player → Option Player
  | .noun id => (s.noun id).superType.map .noun
  | .factType _ => none

/-- The subject of a name; a noun hides a fact type. -/
def subjectNamed? (name : String) : Option Player :=
  ((s.nouns.find? (·.name == name)).map (.noun ·.id)).or
    ((s.factTypes.find? (·.title == name)).map (.factType ·.id))

def playerOf (role : RoleId) : Player := (s.role role).player

def players (id : FactTypeId) : List Player := (s.factType id).roles.map s.playerOf

/-- What identifies a subject: the reference scheme of a noun, the players of a fact type. -/
def identifyingPlayers : Player → List Player
  | .noun id => (s.noun id).referenceScheme.map .noun
  | .factType id => s.players id

def valueTypeOf : Player → Option ValueType
  | .noun id => (s.noun id).valueType
  | .factType _ => none

def isValueNoun : Player → Bool
  | .noun id => (s.noun id).objectType == .value
  | .factType _ => false

def spansOnRole (role : RoleId) : List Span := s.spans.filter (·.roles.contains role)

def spansOfKind (kind : ConstraintKind) (role : RoleId) : List Span :=
  (s.spansOnRole role).filter fun span => (s.constraint span.constraint).kind == kind

def roleHas (kind : ConstraintKind) (role : RoleId) : Bool := !(s.spansOfKind kind role).isEmpty

/-- The roles that a fact type plays itself. -/
def usesOf (id : FactTypeId) : List Role := s.roles.filter (·.player == .factType id)

def isObjectified (id : FactTypeId) : Bool := !(s.usesOf id).isEmpty

/-- The names a reading is split at: all nouns, and the fact types that play roles. -/
def nounNames : List String :=
  s.nouns.map (·.name) ++
    (s.factTypes.filter fun f => s.isObjectified f.id).map (·.title)

def exampleOf (id : FactTypeId) : Option Example := s.examples.find? (·.factType == id)

def jsonExampleOf (subject : Player) : Option Json :=
  (s.jsonExamples.find? (·.subject == subject)).map (·.value)

/-- The example value of a role, unless it is null. -/
def exampleValue (id : FactTypeId) (role : RoleId) : Option Json := do
  let place ← (s.factType id).roles.idxOf? role
  let value ← (← s.exampleOf id).values[place]?
  if value.isNull then none else some value

/-- Fact types without an order of their own come last. -/
def rank (id : FactTypeId) : Int64 := (s.factType id).order.getD Int64.maxValue

def factTypeBefore (a b : FactTypeId) : Bool :=
  s.rank a < s.rank b || s.rank a == s.rank b && a.number ≤ b.number

def placeFactType (id : FactTypeId) : List FactTypeId → List FactTypeId
  | [] => [id]
  | other :: rest =>
    if s.factTypeBefore id other then id :: other :: rest else other :: placeFactType id rest

/-- Fact types by their order, then by number. -/
def orderedFactTypes : List FactTypeId := (s.factTypes.map (·.id)).foldr s.placeFactType []

/-- A subject and its supertypes, nearest first. Nouns are as many steps as it can take. -/
def lineage (subject : Player) : List Player := climb s.nouns.length subject
where
  climb : Nat → Player → List Player
    | 0, player => [player]
    | steps + 1, player =>
      match s.superTypeOf player with
      | some parent => player :: climb steps parent
      | none => [player]

end Snapshot
end ObjectRole
