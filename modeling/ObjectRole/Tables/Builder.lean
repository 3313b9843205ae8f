import ObjectRole.Model.Spelling
import ObjectRole.Shape
import ObjectRole.Tables.Basic

/-! Opening tables and making the schemas of properties. Each may need the other: a property
refers to the table of its object, and a table has the properties that identify its subject. What
was built before a failure stays. -/
namespace ObjectRole

/-- Steps that build tables and may fail. -/
abbrev Build (α : Type) := ExceptT CompileError (StateM Tables) α

namespace Snapshot

variable (s : Snapshot)

/-- How a player is written as a property: as a plain value, or by the players that identify it. -/
inductive Identification where
  | value (type : ValueType)
  | players (players : List Player)
deriving DecidableEq, Repr, Inhabited

/-- The value type or the identifying players of the nearest supertype that has either. A value
noun without any is a string. -/
def identification (player : Player) : Identification :=
  let nearest := (s.lineage player).find? fun p =>
    !(s.identifyingPlayers p).isEmpty || (s.valueTypeOf p).isSome
  match nearest with
  | some p =>
    match s.valueTypeOf p with
    | some type => .value type
    | none => .players (s.identifyingPlayers p)
  | none => if s.isValueNoun player then .value .string else .players []

def enumerationValues (list : String) : List Json :=
  (Text.splitWhen (· == ',') list.toList).map fun value =>
    let word := Text.trim value
    if word = "null".toList then .null else .string (.ofList word)

/-- The schema of a plain value with the facets of its noun. -/
def valueSchema (player : Player) (type : ValueType) : Schema :=
  match player with
  | .noun id =>
    let facets := (s.noun id).facets
    let values := facets.enumeration.map enumerationValues
    { type := some (Spelled.spell type)
      format := facets.format
      pattern := facets.pattern
      enumeration := values
      nullable := if (values.getD []).any (·.isNull) then some true else none
      minLength := facets.minLength
      maxLength := facets.maxLength
      minimum := facets.minimum
      maximum := facets.maximum
      exclusiveMinimum := facets.exclusiveMinimum
      exclusiveMaximum := facets.exclusiveMaximum
      multipleOf := facets.multipleOf }
  | .factType _ => .typed (Spelled.spell type)

/-- What identifies a subject, each with whether a table requires it. Of the players of a fact
type those are required whose roles are unique together. -/
def identifiers (subject : Player) : List (Player × Bool) :=
  match subject with
  | .noun id => (s.noun id).referenceScheme.map (.noun ·, true)
  | .factType id =>
    let span := (s.compoundSpan (s.factType id)).getD []
    (s.factType id).roles.map fun role => (s.playerOf role, span.contains role)

/-- The property by which `object` identifies a subject of the given title. -/
def identifyingProperty (title : String) (object : Player) (required : Bool)
    (schema : Schema) : Property :=
  { name := Naming.propertyName (s.nameOf object)
    description := s!"{title} is uniquely identified by {s.nameOf object}"
    required
    schema }

mutual

/-- Opens the table of a subject and those it needs, unless it is open; the result is its key. -/
def ensureTable (steps : Nat) (subject : Player) : Build String :=
  match steps with
  | 0 => throw (.endlessIdentification (s.nameOf subject))
  | steps + 1 => do
    let title := s.nameOf subject
    let key := s.keyOf subject
    match (← get).subjects.get? key with
    | some owner =>
      if owner = subject then return key
      else throw (.schemaKeyCollision key (s.nameOf owner) title)
    | none =>
      modify (·.openTable s subject)
      (s.identifiers subject).forM fun (object, required) => do
        let schema ← createProperty steps object
        modify fun t =>
          let property := s.identifyingProperty title object required schema
          let (name, t) := t.setProperty key title property
          t.identify key name
      (s.superTypeOf subject).toList.forM fun parent => do
        let _ ← ensureTable steps parent
      return key

/-- The schema of a property with the given object: a plain value, or a choice between the
identifier of the object, written inline, and a reference to its table. -/
def createProperty (steps : Nat) (object : Player) : Build Schema :=
  match steps with
  | 0 => throw (.endlessIdentification (s.nameOf object))
  | steps + 1 =>
    match s.identification object with
    | .value type => return s.valueSchema object type
    | .players players => do
      let inline ←
        match players with
        | [] => pure Schema.empty
        | [single] => createProperty steps single
        | players =>
          players.foldlM (fun composite player => do
            let name := Naming.propertyName (s.nameOf player)
            let member ← createProperty steps player
            return (composite.withProperty name member).require name) (Schema.typed "object")
      let key ← ensureTable steps object
      return { oneOf := some [inline, .component key] }

end

/-- Steps that are enough for any subject of an acyclic snapshot: two for each subject. -/
def buildSteps : Nat := 2 * s.subjects.length + 2

def tableOf (subject : Player) : Build String := s.ensureTable s.buildSteps subject

def propertyOf (object : Player) : Build Schema := s.createProperty s.buildSteps object

end Snapshot
end ObjectRole
