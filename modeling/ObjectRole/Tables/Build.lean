import ObjectRole.Naming.Plural
import ObjectRole.Tables.Builder
import ObjectRole.Tables.ObjectSpan

/-! The tables of a model: every fact type puts its property on the table of its owner, or is a
table itself. -/
namespace ObjectRole

/-- A table that is done, by its key. -/
structure Resource where
  subject : Player
  identifying : List String
  /-- The key of the supertype's table. -/
  superKey : Option String
deriving DecidableEq, Repr, Inhabited

structure BuiltTables where
  schemas : SchemaMap
  resources : Dict Resource
deriving Inhabited

namespace BuiltTables

def identifyingFrom (b : BuiltTables) : Nat → String → List String
  | 0, _ => []
  | steps + 1, key =>
    match b.resources.get? key with
    | none => []
    | some r =>
      if !r.identifying.isEmpty then r.identifying
      else
        match r.superKey with
        | some parent => identifyingFrom b steps parent
        | none => []

/-- The identifying properties of a resource, or of the nearest supertype that has some. -/
def identifyingProperties (b : BuiltTables) (key : String) : List String :=
  b.identifyingFrom (b.resources.size + 1) key

end BuiltTables

namespace Snapshot

variable (s : Snapshot)

/-- The tokens of the first reading. -/
def predicateOf (pattern : NounPattern) (id : FactTypeId) : Except CompileError Predicate :=
  match (s.factType id).primaryReading with
  | some reading => .ok (pattern.tokenize reading.text)
  | none => .error (.missingReading (s.factType id).title)

def addFunctional (pattern : NounPattern) (id : FactTypeId) (owner value : RoleId) :
    Build Unit := do
  let subject := s.playerOf owner
  let object := s.playerOf value
  let key ← s.tableOf subject
  let tokens ← s.predicateOf pattern id
  let span ← tokens.objectSpan (s.factType id).title (s.nameOf subject) (s.nameOf object) none
  let span := span.capitalized
  let schema ← s.propertyOf object
  modify fun t => (t.setProperty key (s.nameOf subject) {
    name := Naming.propertyNameOf span.words
    description := span.tokens.render
    required := s.roleHas .mandatory owner || s.roleHas .mandatory value
    schema
    sample := s.exampleValue id value }).2

def addArrayValued (pattern : NounPattern) (id : FactTypeId) (owner item : RoleId) :
    Build Unit := do
  let subject := s.playerOf owner
  let object := s.playerOf item
  let plural := (s.pluralOf object).filter (!·.isEmpty)
  let tokens ← s.predicateOf pattern id
  let span ← tokens.objectSpan (s.factType id).title (s.nameOf subject) (s.nameOf object) plural
  let span := span.capitalized
  let singular := Naming.propertyNameOf span.words
  let name := if plural.isNone then Naming.pluralize singular else singular
  let key ← s.tableOf subject
  let items ← s.propertyOf object
  let property := (Schema.arrayOf items).describedAs span.tokens.render
  modify (·.change (updateKey key) (·.withProperty name property))

def addUnary (pattern : NounPattern) (id : FactTypeId) (role : RoleId) : Build Unit := do
  let subject := s.playerOf role
  let title := (s.factType id).title
  let tokens ← s.predicateOf pattern id
  let span ← tokens.restSpan title (s.nameOf subject)
  if span.words.isEmpty then throw (.emptyPredicate title tokens.render)
  let key ← s.tableOf subject
  modify fun t => (t.setProperty key (s.nameOf subject) {
    name := Naming.propertyNameOf span.words
    description := tokens.render
    required := s.roleHas .mandatory role
    schema := .typed "boolean"
    sample := s.exampleValue id role }).2

/-- Players that are no plain values get tables, though the fact adds nothing to them. -/
def addIndependent (id : FactTypeId) : Build Unit :=
  (s.players id).forM fun player =>
    if s.isValueNoun player then pure () else discard (s.tableOf player)

/-- The phase of a shape: associations open their tables first, then single properties, arrays,
yes-or-no properties, and the rest. -/
def phase : Shape → Nat
  | .association _ => 0
  | .functional _ _ => 1
  | .arrayValued _ _ => 2
  | .unary _ => 3
  | .independent => 4

def addFact (pattern : NounPattern) (id : FactTypeId) : Shape → Build Unit
  | .association _ => discard (s.tableOf (.factType id))
  | .functional owner value => s.addFunctional pattern id owner value
  | .arrayValued owner item => s.addArrayValued pattern id owner item
  | .unary role => s.addUnary pattern id role
  | .independent => s.addIndependent id

/-- The fact types with their shapes, by phase and within a phase in their order. -/
def phased (shapes : List (FactTypeId × Shape)) : List (FactTypeId × Shape) :=
  (List.range 5).flatMap fun n => shapes.filter fun (_, shape) => phase shape == n

def addFacts (shapes : List (FactTypeId × Shape)) : Build Unit :=
  let pattern := NounPattern.ofNames s.nounNames
  (phased shapes).forM fun (id, shape) => s.addFact pattern id shape

/-- Keys of schemas that every document has of its own accord. -/
def reservedKeys : List String := ["ListModel", "ErrorModel"]

/-- A key must not be reserved, and no key derived from it may be the key of another table. -/
def checkKey (t : Tables) (key : String) (subject : Player) : Except CompileError Unit := do
  if reservedKeys.contains key then
    .error (.schemaKeyCollision key "a generated component" (s.nameOf subject))
  [newKey key, updateKey key, whereKey key].forM fun tier =>
    match t.subjects.get? tier with
    | some other => .error (.schemaKeyCollision tier (s.nameOf subject) (s.nameOf other))
    | none => .ok ()

def finishTables (t : Tables) : Except CompileError BuiltTables := do
  t.subjects.entries.forM fun (key, subject) => s.checkKey t key subject
  let resource (entry : String × Player) : String × Resource :=
    (entry.1,
      { subject := entry.2
        identifying := (t.identifying.get? entry.1).getD []
        superKey := (s.superTypeOf entry.2).map s.keyOf })
  return ⟨t.schemas, .ofList (t.subjects.entries.map resource)⟩

/-- Classifies every fact type and builds all tables. -/
def buildTables : Except CompileError BuiltTables := do
  let shapes ← s.orderedFactTypes.mapM fun id => (id, ·) <$> s.shapeOf id
  let (result, tables) := (s.addFacts shapes).run.run {}
  result
  s.finishTables tables

end Snapshot
end ObjectRole
