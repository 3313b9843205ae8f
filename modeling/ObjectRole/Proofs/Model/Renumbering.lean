import ObjectRole.Proofs.Model.Readings
import ObjectRole.Tables.Build
import Mathlib.Logic.Embedding.Basic

/-! Snapshots that differ in their numbers only. Whatever is asked of one under a number, the other
answers under the number that took its place. -/
namespace ObjectRole

theorem findSome?_congr {α β : Type} {f g : α → Option β} {list : List α}
    (same : ∀ a ∈ list, f a = g a) : list.findSome? f = list.findSome? g := by
  induction list with
  | nil => rfl
  | cons a rest ih =>
    rw [List.findSome?_cons, List.findSome?_cons, same a (.head _),
      ih fun other later => same other (.tail _ later)]

/-- Other numbers for nouns, fact types and roles, no two of them alike. -/
structure Renumbering where
  noun : NounId ↪ NounId
  factType : FactTypeId ↪ FactTypeId
  role : RoleId ↪ RoleId

namespace Renumbering

variable (σ : Renumbering)

def player : Player → Player
  | .noun id => .noun (σ.noun id)
  | .factType id => .factType (σ.factType id)

theorem player_injective : Function.Injective σ.player := by
  rintro (a | a) (b | b) same <;> simp only [player, Player.noun.injEq, Player.factType.injEq,
    reduceCtorEq, EmbeddingLike.apply_eq_iff_eq] at same <;> rw [same]

@[simp]
theorem player_inj {a b : Player} : σ.player a = σ.player b ↔ a = b := σ.player_injective.eq_iff

def shape : Shape → Shape
  | .unary role => .unary (σ.role role)
  | .functional owner value => .functional (σ.role owner) (σ.role value)
  | .arrayValued owner item => .arrayValued (σ.role owner) (σ.role item)
  | .association span => .association (span.map σ.role)
  | .independent => .independent

def rule (rule : Rule) : Rule := { rule with roles := rule.roles.map σ.role }

theorem contains_map_role (span : List RoleId) (role : RoleId) :
    (span.map σ.role).contains (σ.role role) = span.contains role := by
  rw [Bool.eq_iff_iff, List.contains_iff_mem, List.contains_iff_mem,
    List.mem_map_of_injective σ.role.injective]

end Renumbering

/-- The property that a shape stands for is between roles of the list. -/
def Shape.Within (roles : List RoleId) : Shape → Prop
  | .unary role => role ∈ roles
  | .functional owner value => owner ∈ roles ∧ value ∈ roles
  | .arrayValued owner item => owner ∈ roles ∧ item ∈ roles
  | .association _ => True
  | .independent => True

namespace Snapshot

theorem within_of_shapeOf {s : Snapshot} {id : FactTypeId} {shape : Shape}
    (shaped : s.shapeOf id = .ok shape) : shape.Within (s.factType id).roles := by
  rw [shapeOf] at shaped
  split at shaped
  · cases shaped
  · rename_i role roles
    cases shaped
    rw [roles]
    exact List.mem_singleton_self role
  · rename_i first second roles
    cases shaped
    rw [binaryShape, roles]
    repeat' split
    all_goals simp [Shape.Within]
  · split at shaped
    · cases shaped
    · split at shaped <;> cases shaped <;> trivial

/-- The nouns and fact types of the other snapshot say the same under other numbers. Numbers that
are out of range lead to nothing in both. -/
structure PartsRenumbered (σ : Renumbering) (s other : Snapshot) : Prop where
  nouns_length : other.nouns.length = s.nouns.length
  factTypes_length : other.factTypes.length = s.factTypes.length
  noun : ∀ id, other.noun (σ.noun id) = { s.noun id with
    id := (other.noun (σ.noun id)).id
    referenceScheme := (s.noun id).referenceScheme.map σ.noun
    superType := (s.noun id).superType.map σ.noun }
  factType : ∀ id, other.factType (σ.factType id) = { s.factType id with
    id := (other.factType (σ.factType id)).id
    roles := (s.factType id).roles.map σ.role }
  player : ∀ id, ∀ role ∈ (s.factType id).roles,
    other.playerOf (σ.role role) = σ.player (s.playerOf role)

namespace PartsRenumbered

variable {σ : Renumbering} {s other : Snapshot} (renumbered : PartsRenumbered σ s other)
include renumbered

theorem title (id : FactTypeId) :
    (other.factType (σ.factType id)).title = (s.factType id).title :=
  (congrArg FactType.title (renumbered.factType id) :)

theorem roles (id : FactTypeId) :
    (other.factType (σ.factType id)).roles = (s.factType id).roles.map σ.role :=
  congrArg FactType.roles (renumbered.factType id)

theorem nameOf (player : Player) : other.nameOf (σ.player player) = s.nameOf player := by
  cases player with
  | noun id => exact (congrArg Noun.name (renumbered.noun id) :)
  | factType id => exact renumbered.title id

theorem rank (id : FactTypeId) : other.rank (σ.factType id) = s.rank id :=
  (congrArg (fun f : FactType => f.order.getD Int64.maxValue) (renumbered.factType id) :)

end PartsRenumbered

/-- The whole snapshot says the same under other numbers. -/
structure Renumbered (σ : Renumbering) (s other : Snapshot) : Prop
    extends PartsRenumbered σ s other where
  spans : ∀ kind id, ∀ role ∈ (s.factType id).roles,
    (other.spansOfKind kind (σ.role role)).map (·.roles) =
      (s.spansOfKind kind role).map (·.roles.map σ.role)
  objectified : ∀ id, other.isObjectified (σ.factType id) = s.isObjectified id
  readings : ∀ reading, other.pattern.tokenize reading = s.pattern.tokenize reading
  examples : other.examples = s.examples.map fun e => ⟨σ.factType e.factType, e.values⟩
  jsonExamples : other.jsonExamples = s.jsonExamples.map fun e => ⟨σ.player e.subject, e.value⟩
  ordered : other.orderedFactTypes = s.orderedFactTypes.map σ.factType

namespace Renumbered

variable {σ : Renumbering} {s other : Snapshot} (renumbered : Renumbered σ s other)
include renumbered

/-! ## Subjects -/

theorem subjects_length : other.subjects.length = s.subjects.length := by
  simp only [subjects, List.length_append, List.length_map, renumbered.nouns_length,
    renumbered.factTypes_length]

theorem keyOf (player : Player) : other.keyOf (σ.player player) = s.keyOf player :=
  congrArg Naming.schemaKey (renumbered.nameOf player)

theorem pluralOf (player : Player) : other.pluralOf (σ.player player) = s.pluralOf player := by
  cases player with
  | noun id => exact (congrArg Noun.plural (renumbered.noun id) :)
  | factType id => exact (congrArg FactType.plural (renumbered.factType id) :)

theorem permissionsOf (player : Player) :
    other.permissionsOf (σ.player player) = s.permissionsOf player := by
  cases player with
  | noun id => exact (congrArg Noun.permissions (renumbered.noun id) :)
  | factType id => exact (congrArg FactType.permissions (renumbered.factType id) :)

theorem superTypeOf (player : Player) :
    other.superTypeOf (σ.player player) = (s.superTypeOf player).map σ.player := by
  cases player with
  | noun id =>
    have above := congrArg Noun.superType (renumbered.noun id)
    simp only [Snapshot.superTypeOf, Renumbering.player, above, Option.map_map]
    rfl
  | factType id => rfl

theorem players (id : FactTypeId) :
    other.players (σ.factType id) = (s.players id).map σ.player := by
  rw [Snapshot.players, Snapshot.players, renumbered.roles, List.map_map, List.map_map]
  exact List.map_congr_left (renumbered.player id)

theorem identifyingPlayers (player : Player) :
    other.identifyingPlayers (σ.player player) = (s.identifyingPlayers player).map σ.player := by
  cases player with
  | noun id =>
    have scheme := congrArg Noun.referenceScheme (renumbered.noun id)
    simp only [Snapshot.identifyingPlayers, Renumbering.player, scheme, List.map_map]
    rfl
  | factType id => exact renumbered.players id

theorem valueTypeOf (player : Player) :
    other.valueTypeOf (σ.player player) = s.valueTypeOf player := by
  cases player with
  | noun id => exact (congrArg Noun.valueType (renumbered.noun id) :)
  | factType id => rfl

theorem isValueNoun (player : Player) :
    other.isValueNoun (σ.player player) = s.isValueNoun player := by
  cases player with
  | noun id =>
    exact (congrArg (fun noun : Noun => noun.objectType == .value) (renumbered.noun id) :)
  | factType id => rfl

theorem climb (steps : Nat) (player : Player) : lineage.climb other steps (σ.player player) =
    (lineage.climb s steps player).map σ.player := by
  induction steps generalizing player with
  | zero => rfl
  | succ steps ih =>
    rw [lineage.climb, lineage.climb, renumbered.superTypeOf]
    cases s.superTypeOf player with
    | none => rfl
    | some parent => exact congrArg (σ.player player :: ·) (ih parent)

theorem lineage (player : Player) :
    other.lineage (σ.player player) = (s.lineage player).map σ.player := by
  rw [Snapshot.lineage, Snapshot.lineage, renumbered.nouns_length, renumbered.climb]

theorem jsonExampleOf (player : Player) :
    other.jsonExampleOf (σ.player player) = s.jsonExampleOf player := by
  have same : (fun e : JsonExample => σ.player e.subject == σ.player player) =
      fun e => e.subject == player := by
    funext e
    simp only [beq_eq_decide, Renumbering.player_inj]
  rw [Snapshot.jsonExampleOf, Snapshot.jsonExampleOf, renumbered.jsonExamples, List.find?_map,
    Option.map_map]
  exact congrArg (fun p => (s.jsonExamples.find? p).map (·.value)) same

/-! ## Roles and shapes -/

theorem roleHas (kind : ConstraintKind) {id : FactTypeId} {role : RoleId}
    (listed : role ∈ (s.factType id).roles) :
    other.roleHas kind (σ.role role) = s.roleHas kind role := by
  have same := congrArg List.isEmpty (renumbered.spans kind id role listed)
  rw [List.isEmpty_map, List.isEmpty_map] at same
  rw [Snapshot.roleHas, Snapshot.roleHas, same]

theorem isUnique {id : FactTypeId} {role : RoleId} (listed : role ∈ (s.factType id).roles) :
    other.isUnique (σ.role role) = s.isUnique role := by
  have same := congrArg (List.any · (·.length == 1))
    (renumbered.spans .uniqueness id role listed)
  simp only [List.any_map, Function.comp_def, List.length_map] at same
  exact same

theorem compoundSpan (id : FactTypeId) : other.compoundSpan (other.factType (σ.factType id)) =
    (s.compoundSpan (s.factType id)).map (·.map σ.role) := by
  have own (roles : List RoleId) : (1 < (roles.map σ.role).length && (roles.map σ.role).all
      ((s.factType id).roles.map σ.role).contains) =
        (1 < roles.length && roles.all (s.factType id).roles.contains) := by
    simp only [List.length_map, List.all_map, Function.comp_def, σ.contains_map_role]
  have each : ∀ role ∈ (s.factType id).roles,
      (((other.spansOfKind .uniqueness (σ.role role)).find? fun span => 1 < span.roles.length &&
        span.roles.all ((s.factType id).roles.map σ.role).contains).map (·.roles)) =
      (((s.spansOfKind .uniqueness role).find? fun span => 1 < span.roles.length &&
        span.roles.all (s.factType id).roles.contains).map (·.roles)).map (·.map σ.role) := by
    intro role listed
    have same := congrArg (List.find? fun roles => 1 < roles.length &&
      roles.all ((s.factType id).roles.map σ.role).contains)
      (renumbered.spans .uniqueness id role listed)
    simp only [List.find?_map, Function.comp_def, own] at same
    rw [same, Option.map_map]
    rfl
  simp only [Snapshot.compoundSpan, renumbered.roles, List.findSome?_map, List.map_findSome?]
  exact findSome?_congr each

theorem binaryShape {id : FactTypeId} {first second : RoleId}
    (first_listed : first ∈ (s.factType id).roles)
    (second_listed : second ∈ (s.factType id).roles) :
    other.binaryShape (σ.factType id) (σ.role first) (σ.role second) =
      σ.shape (s.binaryShape id first second) := by
  rw [Snapshot.binaryShape, Snapshot.binaryShape, renumbered.isUnique first_listed,
    renumbered.isUnique second_listed, renumbered.compoundSpan, renumbered.objectified]
  split
  · rfl
  split
  · rfl
  cases s.compoundSpan (s.factType id) with
  | none => rfl
  | some span =>
    simp only [Option.map_some, List.length_map]
    split <;> rfl

theorem shapeOf (id : FactTypeId) :
    other.shapeOf (σ.factType id) = σ.shape <$> s.shapeOf id := by
  have single : ∀ role ∈ (s.factType id).roles, other.isUnique (σ.role role) = s.isUnique role :=
    fun _ listed => renumbered.isUnique listed
  have binary : ∀ first ∈ (s.factType id).roles, ∀ second ∈ (s.factType id).roles,
      other.binaryShape (σ.factType id) (σ.role first) (σ.role second) =
        σ.shape (s.binaryShape id first second) :=
    fun _ first_listed _ second_listed => renumbered.binaryShape first_listed second_listed
  rw [Snapshot.shapeOf, Snapshot.shapeOf, renumbered.title, renumbered.compoundSpan,
    renumbered.roles]
  generalize (s.factType id).roles = roles at single binary ⊢
  match roles with
  | [] => rfl
  | [role] => rfl
  | [first, second] => exact congrArg Except.ok (binary first (by simp) second (by simp))
  | first :: second :: third :: rest =>
    have any : ((first :: second :: third :: rest).map σ.role).any other.isUnique =
        (first :: second :: third :: rest).any s.isUnique := by
      rw [List.any_map, Bool.eq_iff_iff, List.any_eq_true, List.any_eq_true]
      exact exists_congr fun role => and_congr_right fun listed => by
        rw [Function.comp_apply, single role listed]
    change (if ((first :: second :: third :: rest).map σ.role).any other.isUnique then _ else
      _) = σ.shape <$> if (first :: second :: third :: rest).any s.isUnique then _ else _
    rw [any]
    split
    · rfl
    · cases s.compoundSpan (s.factType id) <;> rfl

/-! ## Examples and readings -/

theorem exampleOf (id : FactTypeId) : other.exampleOf (σ.factType id) =
    (s.exampleOf id).map fun e => ⟨σ.factType e.factType, e.values⟩ := by
  rw [Snapshot.exampleOf, Snapshot.exampleOf, renumbered.examples, List.find?_map]
  congr 2
  funext e
  simp only [Function.comp_apply, beq_eq_decide, EmbeddingLike.apply_eq_iff_eq]

theorem exampleValue (id : FactTypeId) (role : RoleId) :
    other.exampleValue (σ.factType id) (σ.role role) = s.exampleValue id role := by
  have place : ((s.factType id).roles.map σ.role).idxOf? (σ.role role) =
      (s.factType id).roles.idxOf? role := by
    rw [List.idxOf?, List.idxOf?, List.findIdx?_map]
    congr 1
    funext other
    simp only [Function.comp_apply, beq_eq_decide, EmbeddingLike.apply_eq_iff_eq]
  rw [Snapshot.exampleValue, Snapshot.exampleValue, renumbered.roles, place, renumbered.exampleOf]
  cases s.exampleOf id <;> rfl

theorem predicateOf (id : FactTypeId) :
    other.predicateOf other.pattern (σ.factType id) = s.predicateOf s.pattern id := by
  have reading : (other.factType (σ.factType id)).primaryReading =
      (s.factType id).primaryReading :=
    (congrArg FactType.primaryReading (renumbered.factType id) :)
  rw [Snapshot.predicateOf, Snapshot.predicateOf, reading, renumbered.title]
  cases (s.factType id).primaryReading with
  | none => rfl
  | some reading => exact congrArg Except.ok (renumbered.readings reading.text)

end Renumbered
end Snapshot
end ObjectRole
