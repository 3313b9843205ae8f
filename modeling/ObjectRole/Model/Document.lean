import ObjectRole.Model.Basic

/-! A model as its author writes it down: parts refer to each other by name. -/
namespace ObjectRole

structure NounDeclaration where
  name : String
  plural : Option String := none
  description : Option String := none
  objectType : ObjectType := .entity
  valueType : Option ValueType := none
  facets : Facets := {}
  referenceScheme : List String := []
  superType : Option String := none
  permissions : Option (List Permission) := none
deriving DecidableEq, Repr, Inhabited

/-- A reading is a text, or a text with the verb and the language it is meant for. -/
inductive ReadingDeclaration where
  | text (text : String)
  | full (reading : Reading)
deriving DecidableEq, Repr, Inhabited

namespace ReadingDeclaration

def defaultLanguage : String := "en"

def reading : ReadingDeclaration → Reading
  | .text words => ⟨words, .get, defaultLanguage⟩
  | .full reading => reading

end ReadingDeclaration

/-- How many facts of a binary fact type may share a player. -/
inductive Relationship where
  | manyToOne
  | oneToMany
  | manyToMany
  | oneToOne
deriving DecidableEq, Repr, Inhabited

structure FactTypeDeclaration where
  name : Option String := none
  description : Option String := none
  plural : Option String := none
  readings : List ReadingDeclaration := []
  /-- The players by name; without them the first reading tells. -/
  roles : Option (List String) := none
  relationship : Option Relationship := none
  order : Option Int64 := none
  permissions : Option (List Permission) := none
deriving DecidableEq, Repr, Inhabited

namespace FactTypeDeclaration

def texts (f : FactTypeDeclaration) : List String := f.readings.map (·.reading.text)

/-- The name, or else the text of the first reading. -/
def title (f : FactTypeDeclaration) : String := (f.name.or f.texts.head?).getD ""

end FactTypeDeclaration

/-- A role of a fact type by its place or by its player. -/
inductive RolePosition where
  | index (place : UInt64)
  | player (name : String)
deriving DecidableEq, Repr, Inhabited

def RolePosition.describe : RolePosition → String
  | index place => s!"#{place.toNat}"
  | player name => name

structure RoleSelector where
  factType : String
  role : RolePosition
deriving DecidableEq, Repr, Inhabited

structure ConstraintDeclaration where
  kind : ConstraintKind
  modality : Modality := .alethic
  roles : List RoleSelector
deriving DecidableEq, Repr, Inhabited

structure ExampleDeclaration where
  factType : String
  values : List Json
deriving Inhabited

structure JsonExampleDeclaration where
  noun : String
  value : Json
deriving Inhabited

structure Document where
  nouns : List NounDeclaration := []
  factTypes : List FactTypeDeclaration := []
  constraints : List ConstraintDeclaration := []
  examples : List ExampleDeclaration := []
  jsonExamples : List JsonExampleDeclaration := []
deriving Inhabited

end ObjectRole
