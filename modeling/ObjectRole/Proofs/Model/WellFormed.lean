import ObjectRole.Proofs.Model.Numbering

/-! Resolved snapshots are well formed: every part is numbered by its place, the fact types share
the roles out among them in order, and whatever is referred to by number is there. -/
namespace ObjectRole

namespace Snapshot

variable {s : Snapshot}

/-- A player is one of the nouns and fact types. -/
def Has (s : Snapshot) : Player → Prop
  | .noun id => id.place < s.nouns.length
  | .factType id => id.place < s.factTypes.length

/-- What is true of every snapshot that a document resolves to. -/
structure WellFormed (s : Snapshot) : Prop where
  nouns : s.nouns.map (·.id.place) = List.range s.nouns.length
  factTypes : s.factTypes.map (·.id.place) = List.range s.factTypes.length
  roles : s.roles.map (·.id.place) = List.range s.roles.length
  constraints : s.constraints.map (·.id.place) = List.range s.constraints.length
  /-- Every role is listed once, in order. -/
  listed : (s.factTypes.flatMap (·.roles)).map (·.place) = List.range s.roles.length
  /-- A role names the fact type that lists it. -/
  owned : ∀ f ∈ s.factTypes, ∀ id ∈ f.roles, ∃ role, s.role? id = some role ∧ role.factType = f.id
  spans : s.spans.map (·.constraint) = s.constraints.map (·.id)
  spanned : ∀ span ∈ s.spans, span.roles ≠ [] ∧ ∀ id ∈ span.roles, id.place < s.roles.length
  played : ∀ role ∈ s.roles, s.Has role.player
  schemes : ∀ noun ∈ s.nouns, ∀ id ∈ noun.referenceScheme, id.place < s.nouns.length
  superTypes : ∀ noun ∈ s.nouns, ∀ id ∈ noun.superType, id.place < s.nouns.length
  examples : ∀ e ∈ s.examples, ∃ f, s.factType? e.factType = some f ∧ e.values.length = f.arity
  jsonExamples : ∀ e ∈ s.jsonExamples, s.Has e.subject
  names : (s.nouns.map (·.name)).Nodup
  titles : (s.factTypes.map (·.title)).Nodup

/-- Looking up any number that the snapshot hands out finds something, and what follows from a
subject is a subject. -/
structure Closed (s : Snapshot) : Prop where
  nouns : ∀ noun ∈ s.nouns, ∀ id ∈ noun.id :: noun.referenceScheme ++ noun.superType.toList,
    (s.noun? id).isSome
  factTypes : ∀ f ∈ s.factTypes, (s.factType? f.id).isSome ∧ ∀ id ∈ f.roles, (s.role? id).isSome
  roles : ∀ role ∈ s.roles, (s.role? role.id).isSome ∧ (s.factType? role.factType).isSome ∧
    s.Has role.player
  constraints : ∀ c ∈ s.constraints, (s.constraint? c.id).isSome
  spans : ∀ span ∈ s.spans, (s.constraint? span.constraint).isSome ∧
    ∀ id ∈ span.roles, (s.role? id).isSome
  examples : ∀ e ∈ s.examples, (s.factType? e.factType).isSome
  jsonExamples : ∀ e ∈ s.jsonExamples, s.Has e.subject
  subjects : ∀ player ∈ s.subjects, s.Has player
  edges : ∀ player, ∀ next ∈ s.inheritedEdges player, s.Has next

section Numbered

variable {α : Type} {list : List α} {place : α → Nat} {a : α}

/-- What is numbered by its place is found under its number. -/
theorem getElem?_of_numbered (numbered : list.map place = List.range list.length)
    (listed : a ∈ list) : list[place a]? = some a := by
  obtain ⟨i, bound, rfl⟩ := List.getElem_of_mem listed
  have own : place list[i] = i := by simpa [bound] using congrArg (·[i]?) numbered
  rw [own, List.getElem?_eq_getElem bound]

theorem map_eq_range (numbered : ∀ {i a}, list[i]? = some a → place a = i) :
    list.map place = List.range list.length := by
  refine List.ext_getElem (by simp) fun i bound _ => ?_
  rw [List.getElem_map, List.getElem_range]
  exact numbered (List.getElem?_eq_getElem _)

theorem lt_of_numbered (numbered : list.map place = List.range list.length) (listed : a ∈ list) :
    place a < list.length :=
  (List.getElem?_eq_some_iff.mp (getElem?_of_numbered numbered listed)).1

/-- What is numbered by its place is there under every number in range. -/
theorem exists_numbered {i : Nat} (numbered : list.map place = List.range list.length)
    (bound : i < list.length) : ∃ a ∈ list, place a = i := by
  rw [← List.mem_range, ← numbered] at bound
  exact List.mem_map.mp bound

end Numbered

/-- Nouns and fact types are numbered by their places, and what is said to identify them is there.
This is what the search for cycles depends on. -/
structure InPlace (s : Snapshot) : Prop where
  nouns : s.nouns.map (·.id.place) = List.range s.nouns.length
  factTypes : s.factTypes.map (·.id.place) = List.range s.factTypes.length
  listed : ∀ f ∈ s.factTypes, ∀ id ∈ f.roles, id.place < s.roles.length
  played : ∀ role ∈ s.roles, s.Has role.player
  schemes : ∀ noun ∈ s.nouns, ∀ id ∈ noun.referenceScheme, id.place < s.nouns.length
  superTypes : ∀ noun ∈ s.nouns, ∀ id ∈ noun.superType, id.place < s.nouns.length

namespace InPlace

variable (placed : s.InPlace)
include placed

theorem has_of_scheme {id : NounId} {next : Player}
    (edge : next ∈ s.identifyingPlayers (.noun id) ++ s.superTypeEdges (.noun id)) :
    s.Has next := by
  cases found : s.noun? id with
  | none =>
    rw [identifyingPlayers, superTypeEdges, superTypeOf, Snapshot.noun, found] at edge
    exact absurd edge List.not_mem_nil
  | some noun =>
    have there := List.mem_of_getElem? found
    rw [identifyingPlayers, superTypeEdges, superTypeOf, Snapshot.noun, found, Option.getD_some,
      List.mem_append, List.mem_map, Option.mem_toList] at edge
    rcases edge with ⟨other, listed, rfl⟩ | above
    · exact placed.schemes noun there other listed
    · obtain ⟨other, own, rfl⟩ := Option.map_eq_some_iff.mp above
      exact placed.superTypes noun there other own

theorem has_of_role {id : FactTypeId} {next : Player} (edge : next ∈ s.players id) :
    s.Has next := by
  cases found : s.factType? id with
  | none =>
    rw [players, Snapshot.factType, found] at edge
    exact absurd edge List.not_mem_nil
  | some f =>
    rw [players, Snapshot.factType, found, Option.getD_some] at edge
    obtain ⟨role, listed, rfl⟩ := List.mem_map.mp edge
    have bound := placed.listed f (List.mem_of_getElem? found) role listed
    rw [playerOf, Snapshot.role, role?, List.getElem?_eq_getElem bound, Option.getD_some]
    exact placed.played _ (List.getElem_mem bound)

theorem mem_subjects {player : Player} (there : s.Has player) : player ∈ s.subjects := by
  cases player with
  | noun id =>
    obtain ⟨noun, listed, same⟩ := exists_numbered placed.nouns there
    cases NounId.place_inj same
    exact List.mem_append_left _ (List.mem_map_of_mem (f := (Player.noun ·.id)) listed)
  | factType id =>
    obtain ⟨f, listed, same⟩ := exists_numbered placed.factTypes there
    cases FactTypeId.place_inj same
    exact List.mem_append_right _ (List.mem_map_of_mem (f := (Player.factType ·.id)) listed)

theorem has_of_edge {player next : Player} (edge : next ∈ s.inheritedEdges player) :
    s.Has next := by
  cases player with
  | noun id => exact placed.has_of_scheme edge
  | factType id =>
    rw [inheritedEdges, superTypeEdges, superTypeOf, Option.toList_none, List.append_nil] at edge
    exact placed.has_of_role edge

/-- Whatever follows from a player is a subject. -/
theorem edges_subset (player : Player) : s.inheritedEdges player ⊆ s.subjects :=
  fun _ edge => placed.mem_subjects (placed.has_of_edge edge)

end InPlace

namespace WellFormed

variable (formed : s.WellFormed)
include formed

theorem role_lt {f : FactType} {id : RoleId} (there : f ∈ s.factTypes) (listed : id ∈ f.roles) :
    id.place < s.roles.length := by
  have inside := List.mem_map_of_mem (f := RoleId.place)
    (List.mem_flatMap.mpr ⟨f, there, listed⟩)
  rwa [formed.listed, List.mem_range] at inside

theorem exists_owner {role : Role} (there : role ∈ s.roles) :
    ∃ f ∈ s.factTypes, role.id ∈ f.roles ∧ role.factType = f.id := by
  have inside := lt_of_numbered formed.roles there
  rw [← List.mem_range, ← formed.listed] at inside
  obtain ⟨id, listed, same⟩ := List.mem_map.mp inside
  cases RoleId.place_inj same
  obtain ⟨f, f_there, listed⟩ := List.mem_flatMap.mp listed
  obtain ⟨other, found, owner⟩ := formed.owned f f_there role.id listed
  cases (getElem?_of_numbered formed.roles there).symm.trans found
  exact ⟨f, f_there, listed, owner⟩

theorem inPlace : s.InPlace where
  nouns := formed.nouns
  factTypes := formed.factTypes
  listed _ there _ listed := formed.role_lt there listed
  played := formed.played
  schemes := formed.schemes
  superTypes := formed.superTypes

/-- Nothing that a snapshot hands out leads out of it. -/
theorem closed : s.Closed where
  nouns := by
    intro noun there id mentioned
    rw [noun?, isSome_getElem?]
    rcases List.mem_cons.mp mentioned with rfl | mentioned
    · exact lt_of_numbered formed.nouns there
    rcases List.mem_append.mp mentioned with listed | above
    · exact formed.schemes noun there id listed
    · exact formed.superTypes noun there id (Option.mem_toList.mp above)
  factTypes := by
    intro f there
    simp only [factType?, role?, isSome_getElem?]
    exact ⟨lt_of_numbered formed.factTypes there, fun id listed => formed.role_lt there listed⟩
  roles := by
    intro role there
    obtain ⟨f, f_there, _, owner⟩ := formed.exists_owner there
    simp only [role?, factType?, isSome_getElem?]
    exact ⟨lt_of_numbered formed.roles there, owner ▸ lt_of_numbered formed.factTypes f_there,
      formed.played role there⟩
  constraints := by
    intro c there
    rw [constraint?, isSome_getElem?]
    exact lt_of_numbered formed.constraints there
  spans := by
    intro span there
    simp only [constraint?, role?, isSome_getElem?]
    have named := List.mem_map_of_mem (f := Span.constraint) there
    rw [formed.spans] at named
    obtain ⟨c, c_there, same⟩ := List.mem_map.mp named
    exact ⟨same ▸ lt_of_numbered formed.constraints c_there, (formed.spanned span there).2⟩
  examples := by
    intro e there
    obtain ⟨f, found, _⟩ := formed.examples e there
    rw [found]
    rfl
  jsonExamples := formed.jsonExamples
  subjects := by
    intro player there
    rcases List.mem_append.mp there with there | there
    · obtain ⟨noun, listed, rfl⟩ := List.mem_map.mp there
      exact lt_of_numbered formed.nouns listed
    · obtain ⟨f, listed, rfl⟩ := List.mem_map.mp there
      exact lt_of_numbered formed.factTypes listed
  edges _ _ := formed.inPlace.has_of_edge

end WellFormed

end Snapshot

/-- How many uniqueness constraints the relationship of a fact type can stand for. -/
def FactTypeDeclaration.ruleCount (f : FactTypeDeclaration) : Nat :=
  match f.relationship with
  | none => 0
  | some .oneToOne => 2
  | some _ => 1

theorem Relationship.mem_rules {first second : RoleId} {rule : Rule} (relationship : Relationship)
    (listed : rule ∈ relationship.rules first second) :
    rule.roles ≠ [] ∧ rule.roles ⊆ [first, second] := by
  cases relationship <;>
    simp only [Relationship.rules, List.mem_cons, List.not_mem_nil, or_false] at listed
  case oneToOne => rcases listed with rfl | rfl <;> simp [Rule.unique]
  all_goals
    subst listed
    simp [Rule.unique]

namespace Document

variable {d : Document} {s : Snapshot} {name : String}

/-- How many constraints a document declares, by themselves or by a relationship. -/
def ruleCount (d : Document) : Nat :=
  d.constraints.length + (d.factTypes.map (·.ruleCount)).sum

theorem length_expand_le {declared : List Rule} (f : FactTypeDeclaration) (resolved : FactType) :
    (expand declared f resolved).length ≤ f.ruleCount := by
  rw [expand, FactTypeDeclaration.ruleCount]
  split
  · rename_i relationship first second declares _
    rw [declares]
    split
    · exact Nat.zero_le _
    · cases relationship <;> exact Nat.le_refl _
  · exact Nat.zero_le _

theorem length_flatMap_expand_le {declared : List Rule} (list : List FactTypeDeclaration)
    (resolved : List FactType) :
    ((list.zip resolved).flatMap fun entry => expand declared entry.1 entry.2).length ≤
      (list.map (·.ruleCount)).sum := by
  induction list generalizing resolved with
  | nil => exact Nat.le_refl _
  | cons f rest ih =>
    cases resolved with
    | nil => exact Nat.zero_le _
    | cons own others =>
      rw [List.zip_cons_cons, List.flatMap_cons, List.length_append, List.map_cons, List.sum_cons]
      exact Nat.add_le_add (length_expand_le f own) (ih others)

theorem length_rules_le {rules : List Rule} (resolved : d.resolveRules s = .ok rules) :
    rules.length ≤ d.ruleCount := by
  obtain ⟨declared, each, rfl⟩ := resolveRules_eq_ok_iff.mp resolved
  rw [List.length_append, ← each.length_eq, List.length_zipIdx, ruleCount]
  exact Nat.add_le_add_left (length_flatMap_expand_le ..) _

/-- The roles that a relationship makes unique are roles of its fact type. -/
theorem mem_expand {declared : List Rule} {f : FactTypeDeclaration} {resolved : FactType}
    {rule : Rule} (listed : rule ∈ expand declared f resolved) :
    rule.roles ≠ [] ∧ rule.roles ⊆ resolved.roles := by
  rw [expand] at listed
  split at listed
  · rename_i relationship first second _ roles
    rw [roles]
    split at listed
    · contradiction
    · exact relationship.mem_rules listed
  · contradiction

theorem selected?_mem {f : FactType} {position : RolePosition} {role : RoleId}
    (selected : selected? s f position = some role) : role ∈ f.roles := by
  cases position with
  | index place => exact List.mem_of_getElem? selected
  | player name => exact List.mem_of_find?_eq_some selected

namespace Numbers

variable (numberable : d.Numberable) (numbers : d.Numbers s)
include numberable numbers

theorem noun_place {place : Nat} {noun : Noun} (found : s.nouns[place]? = some noun) :
    noun.id.place = place := by
  obtain ⟨declared, there, denotes⟩ := numbers.noun_declared found
  have bound := (List.getElem?_eq_some_iff.mp there).1
  rw [denotes.id, NounId.place_ofNat (Nat.lt_of_lt_of_le bound numberable.nouns)]

theorem factType_place {place : Nat} {f : FactType} (found : s.factTypes[place]? = some f) :
    f.id.place = place := by
  obtain ⟨declared, there, denotes⟩ := numbers.factType_declared found
  have bound := (List.getElem?_eq_some_iff.mp there).1
  rw [denotes.id, FactTypeId.place_ofNat (Nat.lt_of_lt_of_le bound numberable.factTypes)]

theorem role_places : s.roles.map (·.id.place) = List.range s.roles.length := by
  have ordered := congrArg (List.map RoleId.place) numbers.ordered
  rw [List.map_map, List.map_map] at ordered
  rw [numbers.roles_length]
  refine ordered.trans ((List.map_congr_left fun place listed => ?_).trans (List.map_id _))
  exact RoleId.place_ofNat (Nat.lt_of_lt_of_le (List.mem_range.mp listed) numberable.roles)

theorem noun_lt {id : NounId} (named : d.nounId? name = some id) :
    id.place < s.nouns.length := by
  obtain ⟨_, there, _⟩ := numberable.nounId?_some named
  rw [numbers.nouns_length]
  exact (List.getElem?_eq_some_iff.mp there).1

theorem exists_factType {id : FactTypeId} (named : d.factTypeId? name = some id) :
    ∃ f, s.factType? id = some f := by
  obtain ⟨_, there, _⟩ := numberable.factTypeId?_some named
  obtain ⟨f, found, _⟩ := numbers.factType_at there
  exact ⟨f, found⟩

theorem has_player {player : Player} (named : d.player? name = some player) : s.Has player := by
  rw [player?, Option.or_eq_some_iff] at named
  rcases named with noun | ⟨_, factType⟩
  · obtain ⟨id, named, rfl⟩ := Option.map_eq_some_iff.mp noun
    exact numbers.noun_lt numberable named
  · obtain ⟨id, named, rfl⟩ := Option.map_eq_some_iff.mp factType
    obtain ⟨f, found⟩ := numbers.exists_factType numberable named
    exact (List.getElem?_eq_some_iff.mp found).1

/-- A role that a fact type lists is there, names the fact type and has a player that is there. -/
theorem role_listed {f : FactType} {id : RoleId} (there : f ∈ s.factTypes)
    (listed : id ∈ f.roles) :
    ∃ player, s.role? id = some ⟨id, f.id, player⟩ ∧ s.Has player := by
  obtain ⟨place, found⟩ := List.mem_iff_getElem?.mp there
  obtain ⟨declared, _, denotes⟩ := numbers.factType_declared found
  obtain ⟨name, _, player, named, found⟩ := exists_of_forall₂ denotes.roles.flip listed
  exact ⟨player, found, numbers.has_player numberable named⟩

theorem played {role : Role} (there : role ∈ s.roles) : s.Has role.player := by
  have listed := List.mem_map_of_mem (f := (·.id)) there
  rw [← numbers.listed] at listed
  obtain ⟨f, f_there, listed⟩ := List.mem_flatMap.mp listed
  obtain ⟨player, found, has⟩ := numbers.role_listed numberable f_there listed
  have own := Snapshot.getElem?_of_numbered (numbers.role_places numberable) there
  rw [Option.some.inj (own.symm.trans found)]
  exact has

theorem spanned {rules : List Rule} (resolved : d.resolveRules s = .ok rules) {rule : Rule}
    (listed : rule ∈ rules) :
    rule.roles ≠ [] ∧ ∀ id ∈ rule.roles, id.place < s.roles.length := by
  have inside {f : FactType} (there : f ∈ s.factTypes) {id : RoleId} (listed : id ∈ f.roles) :
      id.place < s.roles.length := by
    obtain ⟨_, found, _⟩ := numbers.role_listed numberable there listed
    exact (List.getElem?_eq_some_iff.mp found).1
  obtain ⟨declared, each, rfl⟩ := resolveRules_eq_ok_iff.mp resolved
  rcases List.mem_append.mp listed with listed | listed
  · obtain ⟨_, _, own⟩ := exists_of_forall₂ each.flip listed
    obtain ⟨some, roles, selected, rfl⟩ := resolveConstraint_eq_ok_iff.mp own
    refine ⟨?_, fun id listed => ?_⟩
    · rintro rfl
      exact some (List.forall₂_nil_right_iff.mp selected)
    obtain ⟨selector, _, selected⟩ := exists_of_forall₂ selected.flip listed
    obtain ⟨factType, named, selected⟩ := selectRole_eq_ok_iff.mp selected
    obtain ⟨f, found⟩ := numbers.exists_factType numberable named
    rw [Snapshot.factType, found, Option.getD_some] at selected
    exact inside (List.mem_of_getElem? found) (selected?_mem selected)
  · obtain ⟨⟨f, resolved⟩, paired, listed⟩ := List.mem_flatMap.mp listed
    obtain ⟨some, within⟩ := mem_expand listed
    exact ⟨some, fun id listed => inside (List.of_mem_zip paired).2 (within listed)⟩

end Numbers

/-- Nouns, fact types and roles make a well-formed snapshot. -/
theorem wellFormed_of_resolveParts {parts : Snapshot} (numberable : d.Numberable)
    (names : d.checkNames = .ok ()) (made : d.resolveParts = .ok parts) : parts.WellFormed := by
  have numbers := numbers_of_resolveParts numberable made
  obtain ⟨names, titles⟩ := checkNames_eq_ok_iff.mp names
  have bare : parts.constraints = [] ∧ parts.spans = [] ∧ parts.examples = [] ∧
      parts.jsonExamples = [] := by
    rw [resolveParts] at made
    obtain ⟨_, _, made⟩ := bind_eq_ok_iff.mp made
    obtain ⟨_, _, made⟩ := bind_eq_ok_iff.mp made
    cases made
    exact ⟨rfl, rfl, rfl, rfl⟩
  obtain ⟨no_constraints, no_spans, no_examples, no_jsonExamples⟩ := bare
  constructor
  case nouns => exact Snapshot.map_eq_range (numbers.noun_place numberable)
  case factTypes => exact Snapshot.map_eq_range (numbers.factType_place numberable)
  case roles => exact numbers.role_places numberable
  case constraints => rw [no_constraints]; rfl
  case listed =>
    have ordered := numbers.role_places numberable
    rw [← Function.comp_def, ← List.map_map, ← numbers.listed] at ordered
    exact ordered
  case owned =>
    intro f there id listed
    obtain ⟨player, found, _⟩ := numbers.role_listed numberable there listed
    exact ⟨_, found, rfl⟩
  case spans => rw [no_spans, no_constraints]; rfl
  case spanned => simp [no_spans]
  case played => exact fun role there => numbers.played numberable there
  case schemes =>
    intro noun there id listed
    obtain ⟨place, found⟩ := List.mem_iff_getElem?.mp there
    obtain ⟨declared, _, denotes⟩ := numbers.noun_declared found
    obtain ⟨name, _, named⟩ := exists_of_forall₂ denotes.scheme.flip listed
    exact numbers.noun_lt numberable named
  case superTypes =>
    intro noun there id above
    obtain ⟨place, found⟩ := List.mem_iff_getElem?.mp there
    obtain ⟨declared, _, denotes⟩ := numbers.noun_declared found
    obtain ⟨name, _, named⟩ := exists_of_rel_some (Option.mem_def.mp above ▸ denotes.superType)
    exact numbers.noun_lt numberable named
  case examples => simp [no_examples]
  case jsonExamples => simp [no_jsonExamples]
  case names => exact numbers.names ▸ names
  case titles => exact numbers.titles ▸ titles

/-- However many constraints there are, nouns and fact types are in their places. -/
theorem inPlace_of_resolve (numberable : d.Numberable) (resolved : d.resolve = .ok s) :
    s.InPlace := by
  obtain ⟨names, parts, made, _, rules, _, examples, _, jsonExamples, _, rfl, _⟩ :=
    resolve_eq_ok_iff.mp resolved
  have placed := (wellFormed_of_resolveParts numberable names made).inPlace
  exact { placed with }

/-- What a document resolves to is well formed, and so no look-up in it fails: provided that there
are enough numbers for its nouns, fact types, roles and constraints. -/
theorem resolve_wellFormed (numberable : d.Numberable) (rules_bound : d.ruleCount ≤ UInt32.size)
    (resolved : d.resolve = .ok s) : s.WellFormed ∧ s.Closed := by
  obtain ⟨names, parts, made, _, rules, rules_made, examples, examples_made, jsonExamples,
    jsonExamples_made, rfl, _⟩ := resolve_eq_ok_iff.mp resolved
  have numbers := numbers_of_resolveParts numberable made
  have parts_formed := wellFormed_of_resolveParts numberable names made
  have formed : Snapshot.WellFormed { withRules parts rules with examples, jsonExamples } := by
    refine { parts_formed with
      constraints := ?constraints, spans := ?spans, spanned := ?spanned
      examples := ?examples, jsonExamples := ?jsonExamples }
    case constraints =>
      refine Snapshot.map_eq_range fun {place c} found => ?_
      obtain ⟨rule, there, rfl⟩ := Option.map_eq_some_iff.mp (List.getElem?_mapIdx ▸ found)
      have bound := (List.getElem?_eq_some_iff.mp there).1
      have small := Nat.lt_of_lt_of_le bound
        (Nat.le_trans (length_rules_le rules_made) rules_bound)
      exact ConstraintId.place_ofNat small
    case spans => apply List.ext_getElem <;> simp [withRules]
    case spanned =>
      intro span there
      obtain ⟨place, bound, rfl⟩ := List.mem_mapIdx.mp there
      exact numbers.spanned numberable rules_made (List.getElem_mem bound)
    case examples =>
      intro e there
      obtain ⟨_, _, own⟩ := exists_of_forall₂ examples_made.flip there
      obtain ⟨id, named, fits, rfl⟩ := resolveExample_eq_ok_iff.mp own
      obtain ⟨f, found⟩ := numbers.exists_factType numberable named
      rw [Snapshot.factType, found, Option.getD_some] at fits
      exact ⟨f, found, fits⟩
    case jsonExamples =>
      intro e there
      obtain ⟨_, _, own⟩ := exists_of_forall₂ jsonExamples_made.flip there
      obtain ⟨subject, named, rfl⟩ := resolveJsonExample_eq_ok_iff.mp own
      exact numbers.has_player numberable named
  exact ⟨formed, formed.closed⟩

/-- Persons, some of them employees, live in cities, each of which one of them governs. -/
def residences : Document where
  nouns := [
    { name := "Person", referenceScheme := ["PersonId"] },
    { name := "PersonId", objectType := .value },
    { name := "Employee", superType := some "Person" },
    { name := "City" }]
  factTypes := [
    { readings := [.text "Person lives in City"], relationship := some .manyToOne },
    { name := some "Mayoralty", readings := [.text "Person governs City"] }]
  constraints := [
    { kind := .uniqueness, roles := [⟨"Mayoralty", .index 1⟩] },
    { kind := .mandatory, roles := [⟨"Person lives in City", .player "Person"⟩] }]
  examples := [⟨"Mayoralty", [.string "Ada", .null]⟩]
  jsonExamples := [⟨"Employee", .string "Ada"⟩]

theorem numberable_residences : residences.Numberable := ⟨by decide, by decide, by decide +kernel⟩

theorem exists_resolve_residences : ∃ s, residences.resolve = .ok s := by
  have passed : residences.resolvesAnd fun _ => true := by decide +kernel
  obtain ⟨s, resolved, _⟩ := exists_of_resolvesAnd passed
  exact ⟨s, resolved⟩

theorem resolve_wellFormed_of_residences : ∃ s, residences.Numberable ∧
    residences.ruleCount ≤ UInt32.size ∧ residences.resolve = .ok s ∧ s.WellFormed ∧ s.Closed := by
  have rules_bound : residences.ruleCount ≤ UInt32.size := by decide
  obtain ⟨s, resolved⟩ := exists_resolve_residences
  exact ⟨s, numberable_residences, rules_bound, resolved,
    resolve_wellFormed numberable_residences rules_bound resolved⟩

end Document
end ObjectRole
