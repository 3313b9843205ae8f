import ObjectRole.Model.Acyclic
import ObjectRole.Model.Spelling
import ObjectRole.Reading.NounPattern

/-! Resolving a document: names turn into numbers in the order of declaration, roles are derived
from readings, relationships turn into uniqueness constraints, and inconsistent documents are
refused. -/
namespace ObjectRole

/-- A constraint that has no number yet. -/
structure Rule where
  kind : ConstraintKind
  modality : Modality
  roles : List RoleId
deriving DecidableEq, Repr, Inhabited

/-- A uniqueness constraint. -/
def Rule.unique (roles : List RoleId) : Rule := ⟨.uniqueness, .alethic, roles⟩

/-- The uniqueness constraints that a relationship between two roles stands for. -/
def Relationship.rules (first second : RoleId) : Relationship → List Rule
  | .manyToOne => [.unique [first]]
  | .oneToMany => [.unique [second]]
  | .manyToMany => [.unique [first, second]]
  | .oneToOne => [.unique [first], .unique [second]]

namespace Document

variable (d : Document)

/-- The first name that one before it has already. -/
def repeated? (seen : List String) : List String → Option String
  | [] => none
  | name :: rest => if seen.contains name then some name else repeated? (name :: seen) rest

def nounId? (name : String) : Option NounId := (d.nouns.findIdx? (·.name == name)).map .ofNat

def factTypeId? (title : String) : Option FactTypeId :=
  (d.factTypes.findIdx? (·.title == title)).map .ofNat

/-- A noun hides a fact type of its name. -/
def player? (name : String) : Option Player :=
  ((d.nounId? name).map .noun).or ((d.factTypeId? name).map .factType)

def noun (mention : Mention) (name : String) : Except ModelError NounId :=
  match d.nounId? name with
  | some id => .ok id
  | none => .error (.unknownNoun name mention)

def factType (mention : Mention) (title : String) : Except ModelError FactTypeId :=
  match d.factTypeId? title with
  | some id => .ok id
  | none => .error (.unknownFactType title mention)

def player (mention : Mention) (name : String) : Except ModelError Player :=
  match d.player? name with
  | some player => .ok player
  | none => .error (.unknownNoun name mention)

def checkNames : Except ModelError Unit := do
  if let some name := repeated? [] (d.nouns.map (·.name)) then .error (.duplicateNoun name)
  if let some title := repeated? [] (d.factTypes.map (·.title)) then
    .error (.duplicateFactType title)

def resolveNoun (n : NounDeclaration) (place : Nat) : Except ModelError Noun := do
  let referenceScheme ← n.referenceScheme.mapM (d.noun (.noun n.name))
  let superType ← n.superType.mapM (d.noun (.noun n.name))
  return {
    id := .ofNat place
    name := n.name
    plural := n.plural
    description := n.description
    objectType := n.objectType
    valueType := n.valueType
    facets := n.facets
    referenceScheme
    superType
    permissions := n.permissions }

/-- Fact types may play roles by name, so their names split readings too. -/
def pattern : NounPattern :=
  .ofNames (d.nouns.map (·.name) ++ d.factTypes.filterMap (·.name))

/-- The players of a fact type: those declared, or else those its first reading names. -/
def declaredPlayers (pattern : NounPattern) (f : FactTypeDeclaration) :
    Except ModelError (List Player) :=
  match f.roles, f.texts with
  | some names, _ => names.mapM (d.player (.factType f.title))
  | none, text :: _ => (pattern.tokenize text).nouns.mapM (d.player (.reading text))
  | none, [] => .ok []

/-- Every noun of a reading has to be a player. -/
def checkReading (pattern : NounPattern) (f : FactTypeDeclaration) (players : List Player)
    (text : String) : Except ModelError Unit :=
  (pattern.tokenize text).nouns.forM fun noun => do
    let player ← d.player (.reading text) noun
    if players.contains player then .ok ()
    else .error (.readingOutOfScope f.title text noun)

def resolvePlayers (pattern : NounPattern) (f : FactTypeDeclaration) :
    Except ModelError (List Player) := do
  let players ← d.declaredPlayers pattern f
  f.texts.forM (d.checkReading pattern f players)
  return players

/-- Numbers fact types and their roles from the given numbers on. -/
def number (factType role : Nat) :
    List (FactTypeDeclaration × List Player) → List FactType × List Role
  | [] => ([], [])
  | (f, players) :: rest =>
    let roles : List Role := players.mapIdx fun place player =>
      { id := .ofNat (role + place), factType := .ofNat factType, player }
    let (laterFactTypes, laterRoles) := number (factType + 1) (role + players.length) rest
    let resolved : FactType :=
      { id := .ofNat factType
        name := f.name
        description := f.description
        plural := f.plural
        readings := f.readings.map (·.reading)
        roles := roles.map (·.id)
        order := f.order
        permissions := f.permissions }
    (resolved :: laterFactTypes, roles ++ laterRoles)

/-- A relationship is between two roles. -/
def checkRelationship (f : FactTypeDeclaration) (resolved : FactType) : Except ModelError Unit :=
  match f.relationship with
  | some relationship =>
    if resolved.arity = 2 then .ok ()
    else
      .error (.relationshipArity resolved.title (Spelled.spell relationship) resolved.arity)
  | none => .ok ()

def selectRole (s : Snapshot) (selector : RoleSelector) : Except ModelError RoleId := do
  let factType := s.factType (← d.factType .constraint selector.factType)
  let found :=
    match selector.role with
    | .index place => factType.roles[place.toNat]?
    | .player name => factType.roles.find? fun role => s.nameOf (s.playerOf role) == name
  match found with
  | some role => .ok role
  | none => .error (.unknownRole selector.factType selector.role.describe)

def resolveConstraint (s : Snapshot) (c : ConstraintDeclaration) (index : Nat) :
    Except ModelError Rule := do
  if c.roles.isEmpty then .error (.emptySpan index)
  let roles ← c.roles.mapM (d.selectRole s)
  return ⟨c.kind, c.modality, roles⟩

/-- What the relationship of a fact type adds to the declared constraints: nothing where one of
them makes a role of it unique. -/
def expand (declared : List Rule) (f : FactTypeDeclaration) (resolved : FactType) : List Rule :=
  let constrained (role : RoleId) : Bool :=
    declared.any fun rule => rule.kind == .uniqueness && rule.roles.contains role
  match f.relationship, resolved.roles with
  | some relationship, [first, second] =>
    if constrained first || constrained second then [] else relationship.rules first second
  | _, _ => []

def resolveExample (s : Snapshot) (e : ExampleDeclaration) : Except ModelError Example := do
  let factType ← d.factType .sample e.factType
  let arity := (s.factType factType).arity
  if e.values.length = arity then return ⟨factType, e.values⟩
  else .error (.exampleArity e.factType e.values.length arity)

def resolveJsonExample (e : JsonExampleDeclaration) : Except ModelError JsonExample :=
  (⟨·, e.value⟩) <$> d.player .jsonSample e.noun

/-- Nouns, fact types and roles. -/
def resolveParts : Except ModelError Snapshot := do
  let nouns ← (d.nouns.zipIdx).mapM fun (n, place) => d.resolveNoun n place
  let pattern := d.pattern
  let players ← d.factTypes.mapM (d.resolvePlayers pattern)
  let (factTypes, roles) := number 0 0 (d.factTypes.zip players)
  return { nouns, factTypes, roles }

/-- The constraints of a document, the declared ones first. -/
def resolveRules (s : Snapshot) : Except ModelError (List Rule) := do
  let declared ← (d.constraints.zipIdx).mapM fun (c, index) => d.resolveConstraint s c index
  return declared ++ (d.factTypes.zip s.factTypes).flatMap fun (f, resolved) =>
    expand declared f resolved

def withRules (s : Snapshot) (rules : List Rule) : Snapshot :=
  { s with
    constraints := rules.mapIdx fun place rule => ⟨.ofNat place, rule.kind, rule.modality⟩
    spans := rules.mapIdx fun place rule => ⟨.ofNat place, rule.roles⟩ }

def resolve : Except ModelError Snapshot := do
  d.checkNames
  let parts ← d.resolveParts
  (d.factTypes.zip parts.factTypes).forM fun (f, resolved) => checkRelationship f resolved
  let rules ← d.resolveRules parts
  let examples ← d.examples.mapM (d.resolveExample parts)
  let jsonExamples ← d.jsonExamples.mapM d.resolveJsonExample
  let s := { withRules parts rules with examples, jsonExamples }
  s.checkAcyclic
  return s

end Document
end ObjectRole
