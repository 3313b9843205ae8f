import ObjectRole.Json

/-! The parts of a model: nouns, fact types with their roles and readings, constraints and
examples. Every part has a number, which is its place in the list that holds it. -/
namespace ObjectRole

structure NounId where
  number : UInt32
deriving DecidableEq, Repr, Inhabited

structure FactTypeId where
  number : UInt32
deriving DecidableEq, Repr, Inhabited

structure RoleId where
  number : UInt32
deriving DecidableEq, Repr, Inhabited

structure ConstraintId where
  number : UInt32
deriving DecidableEq, Repr, Inhabited

def NounId.ofNat (n : Nat) : NounId := ⟨.ofNat n⟩
def FactTypeId.ofNat (n : Nat) : FactTypeId := ⟨.ofNat n⟩
def RoleId.ofNat (n : Nat) : RoleId := ⟨.ofNat n⟩
def ConstraintId.ofNat (n : Nat) : ConstraintId := ⟨.ofNat n⟩

def NounId.place (id : NounId) : Nat := id.number.toNat
def FactTypeId.place (id : FactTypeId) : Nat := id.number.toNat
def RoleId.place (id : RoleId) : Nat := id.number.toNat
def ConstraintId.place (id : ConstraintId) : Nat := id.number.toNat

/-- What plays a role: a noun, or a fact type taken as one. -/
inductive Player where
  | noun (id : NounId)
  | factType (id : FactTypeId)
deriving DecidableEq, Repr, Inhabited

inductive ObjectType where
  | entity
  | value
deriving DecidableEq, Repr, Inhabited

inductive ValueType where
  | string
  | number
  | integer
  | boolean
  | object
  | array
deriving DecidableEq, Repr, Inhabited

/-- What the values of a noun are held to. -/
structure Facets where
  pattern : Option String := none
  /-- The allowed values, separated by commas. -/
  enumeration : Option String := none
  format : Option String := none
  minLength : Option UInt64 := none
  maxLength : Option UInt64 := none
  minimum : Option Number := none
  maximum : Option Number := none
  exclusiveMinimum : Option Number := none
  exclusiveMaximum : Option Number := none
  multipleOf : Option Number := none
deriving DecidableEq, Repr, Inhabited

inductive Permission where
  | create
  | read
  | update
  | delete
  | list
  | versioned
  | login
  | rateLimit
deriving DecidableEq, Repr, Inhabited

structure Noun where
  id : NounId
  name : String
  plural : Option String
  description : Option String
  objectType : ObjectType
  valueType : Option ValueType
  facets : Facets
  /-- The nouns that identify this one, in order. -/
  referenceScheme : List NounId
  superType : Option NounId
  permissions : Option (List Permission)
deriving DecidableEq, Repr, Inhabited

inductive HttpVerb where
  | get
  | post
  | put
  | patch
  | delete
deriving DecidableEq, Repr, Inhabited

structure Reading where
  text : String
  httpVerb : HttpVerb
  language : String
deriving DecidableEq, Repr, Inhabited

structure FactType where
  id : FactTypeId
  name : Option String
  description : Option String
  plural : Option String
  readings : List Reading
  roles : List RoleId
  order : Option Int64
  permissions : Option (List Permission)
deriving DecidableEq, Repr, Inhabited

namespace FactType

def primaryReading (f : FactType) : Option Reading := f.readings.head?

/-- The name, or else the text of the first reading. -/
def title (f : FactType) : String :=
  (f.name.or (f.primaryReading.map (·.text))).getD ""

def arity (f : FactType) : Nat := f.roles.length

end FactType

structure Role where
  id : RoleId
  factType : FactTypeId
  player : Player
deriving DecidableEq, Repr, Inhabited

inductive ConstraintKind where
  | uniqueness
  | mandatory
  | subset
  | exclusion
  | equality
  | inclusiveOr
  | exclusiveOr
deriving DecidableEq, Repr, Inhabited

inductive Modality where
  | alethic
  | deontic
deriving DecidableEq, Repr, Inhabited

structure Constraint where
  id : ConstraintId
  kind : ConstraintKind
  modality : Modality
deriving DecidableEq, Repr, Inhabited

/-- The roles that a constraint is about, possibly of several fact types. -/
structure Span where
  constraint : ConstraintId
  roles : List RoleId
deriving DecidableEq, Repr, Inhabited

/-- One value for each role of a fact type. -/
structure Example where
  factType : FactTypeId
  values : List Json
deriving Inhabited

/-- An example of the whole of a noun or fact type. -/
structure JsonExample where
  subject : Player
  value : Json
deriving Inhabited

end ObjectRole
