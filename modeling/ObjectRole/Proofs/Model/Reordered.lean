import ObjectRole.Proofs.Model.Places
import ObjectRole.Proofs.Model.Ranks
import ObjectRole.Proofs.Model.Rules
import Mathlib.Data.List.Find

/-! What documents resolve to that declare the same in another order. It differs in its numbers
only. -/
namespace ObjectRole.Document

variable {d other : Document} {s t : Snapshot} {name : String} {σ : Renumbering}

/-- A document and one that declares the same in another order, with what they resolve to. -/
structure Twins (d other : Document) (σ : Renumbering) (s t : Snapshot) : Prop where
  reorders : d.Reorders other
  places : d.Places other σ
  numberable : d.Numberable
  rules_bound : d.ruleCount ≤ UInt32.size
  here : d.Resolved s
  there : other.Resolved t

/-- A slot is filled by the role of its fact type at its place, which is numbered by the slot. -/
theorem Resolved.role_of_slot (resolved : d.Resolved s) {id : FactTypeId}
    {f : FactTypeDeclaration} {i k : Nat} (declared : d.factTypes[id.place]? = some f)
    (there : d.slots[k]? = some (f.title, i)) :
    (s.factType id).roles[i]? = some (.ofNat k) := by
  have paired : List.Forall₂ (fun f own => ∃ place : Nat, d.factTypes[place]? = some f ∧
      s.factTypes[place]? = some own ∧ (d.roleNames f).length = own.roles.length)
      d.factTypes s.factTypes := by
    refine List.forall₂_iff_get.mpr
      ⟨resolved.factTypes.length_eq, fun place inside also => ⟨place, ?_⟩⟩
    obtain ⟨own, found, denotes⟩ :=
      resolved.numbers.factType_at (List.getElem?_eq_getElem inside)
    have found_also := List.getElem?_eq_getElem also
    cases found.symm.trans found_also
    exact ⟨List.getElem?_eq_getElem inside, found_also, denotes.roles.length_eq⟩
  have filled : List.Forall₂ (fun slot role => ∃ (place : Nat) (f : FactTypeDeclaration)
      (own : FactType), d.factTypes[place]? = some f ∧ s.factTypes[place]? = some own ∧
        f.title = slot.1 ∧ own.roles[slot.2]? = some role)
      d.slots (s.factTypes.flatMap (·.roles)) := by
    refine List.rel_flatMap paired fun f own ⟨place, declared, found, length⟩ => ?_
    refine List.forall₂_iff_get.mpr ⟨by simp [length], fun i inside also => ?_⟩
    exact ⟨place, f, own, declared, found, by simp⟩
  obtain ⟨role, listed, place, g, own, also_declared, found, title, at_place⟩ :=
    exists_getElem?_of_forall₂ filled there
  rw [place_unique resolved.titles also_declared declared title] at found
  rw [resolved.numbers.listed, resolved.numbers.ordered, List.getElem?_map] at listed
  obtain ⟨_, in_range, rfl⟩ := Option.map_eq_some_iff.mp listed
  obtain ⟨inside, rfl⟩ := List.getElem?_eq_some_iff.mp in_range
  rw [List.getElem_range] at at_place
  rw [Snapshot.factType, Snapshot.factType?, found]
  exact at_place

namespace Twins

variable (twins : Twins d other σ s t)
include twins

theorem other_numberable : other.Numberable := twins.reorders.numberable twins.numberable

theorem nounId? (name : String) : other.nounId? name = (d.nounId? name).map σ.noun :=
  twins.places.nounId? twins.reorders twins.numberable twins.here.names name

theorem factTypeId? (name : String) :
    other.factTypeId? name = (d.factTypeId? name).map σ.factType :=
  twins.places.factTypeId? twins.reorders twins.numberable twins.here.titles name

theorem player? (name : String) : other.player? name = (d.player? name).map σ.player :=
  twins.places.player? twins.reorders twins.numberable twins.here.names twins.here.titles name

/-! ## Nouns -/

theorem noun (id : NounId) : t.noun (σ.noun id) = { s.noun id with
    id := (t.noun (σ.noun id)).id
    referenceScheme := (s.noun id).referenceScheme.map σ.noun
    superType := (s.noun id).superType.map σ.noun } := by
  cases declared : d.nouns[id.place]? with
  | none =>
    rw [twins.there.noun_default ((twins.places.nouns id).trans declared),
      twins.here.noun_default declared]
    rfl
  | some n =>
    obtain ⟨denotes, spells⟩ := twins.here.noun_at declared
    obtain ⟨other_denotes, other_spells⟩ :=
      twins.there.noun_at ((twins.places.nouns id).trans declared)
    have same {name : String} {a b : NounId} (named : d.nounId? name = some a)
        (other_named : other.nounId? name = some b) : b = σ.noun a := by
      rw [twins.nounId?, named] at other_named
      exact (Option.some.inj other_named).symm
    have scheme := eq_map_of_forall₂ denotes.scheme other_denotes.scheme same
    have above := eq_map_of_rel denotes.superType other_denotes.superType same
    refine other_spells.trans ?_
    rw [scheme, above, spells]

/-! ## Fact types -/

theorem roles (id : FactTypeId) :
    (t.factType (σ.factType id)).roles = (s.factType id).roles.map σ.role := by
  cases declared : d.factTypes[id.place]? with
  | none =>
    rw [twins.there.factType_default ((twins.places.factTypes id).trans declared),
      twins.here.factType_default declared]
    rfl
  | some f =>
    obtain ⟨denotes, _⟩ := twins.here.factType_at declared
    have other_declared := (twins.places.factTypes id).trans declared
    obtain ⟨other_denotes, _⟩ := twins.there.factType_at other_declared
    have length := denotes.roles.length_eq
    have other_length := other_denotes.roles.length_eq
    rw [twins.reorders.roleNames] at other_length
    -- Roles are numbered through all fact types, so the two numbers meet in the slot only.
    refine List.ext_getElem? fun i => ?_
    rw [List.getElem?_map]
    by_cases inside : i < (d.roleNames f).length
    · have slot : (f.title, i) ∈ d.slots := List.mem_flatMap.mpr
        ⟨f, List.mem_of_getElem? declared, List.mem_map_of_mem (List.mem_range.mpr inside)⟩
      obtain ⟨k, at_slot⟩ := List.mem_iff_getElem?.mp slot
      have small : k < UInt32.size := Nat.lt_of_lt_of_le (List.getElem?_eq_some_iff.mp at_slot).1
        (d.length_slots ▸ twins.numberable.roles)
      have other_slot : other.slots[(σ.role (.ofNat k)).place]? = some (f.title, i) := by
        rw [twins.places.slots, RoleId.place_ofNat small, at_slot]
      rw [twins.here.role_of_slot declared at_slot,
        twins.there.role_of_slot other_declared other_slot, RoleId.ofNat_place, Option.map_some]
    · have behind := Nat.le_of_not_lt inside
      rw [List.getElem?_eq_none_iff.mpr (other_length ▸ behind),
        List.getElem?_eq_none_iff.mpr (length ▸ behind), Option.map_none]

theorem factType (id : FactTypeId) : t.factType (σ.factType id) = { s.factType id with
    id := (t.factType (σ.factType id)).id
    roles := (s.factType id).roles.map σ.role } := by
  cases declared : d.factTypes[id.place]? with
  | none =>
    rw [twins.there.factType_default ((twins.places.factTypes id).trans declared),
      twins.here.factType_default declared]
    rfl
  | some f =>
    obtain ⟨_, spells⟩ := twins.here.factType_at declared
    obtain ⟨_, other_spells⟩ := twins.there.factType_at ((twins.places.factTypes id).trans declared)
    refine other_spells.trans ?_
    rw [twins.roles, spells]

theorem player (id : FactTypeId) : ∀ role ∈ (s.factType id).roles,
    t.playerOf (σ.role role) = σ.player (s.playerOf role) := by
  intro role listed
  cases declared : d.factTypes[id.place]? with
  | none =>
    rw [twins.here.factType_default declared] at listed
    contradiction
  | some f =>
    obtain ⟨denotes, _⟩ := twins.here.factType_at declared
    obtain ⟨other_denotes, _⟩ :=
      twins.there.factType_at ((twins.places.factTypes id).trans declared)
    obtain ⟨i, at_place⟩ := List.mem_iff_getElem?.mp listed
    have other_at_place : (t.factType (σ.factType id)).roles[i]? = some (σ.role role) := by
      rw [twins.roles, List.getElem?_map, at_place, Option.map_some]
    obtain ⟨name, name_at, player, named, found⟩ :=
      exists_getElem?_of_forall₂ denotes.roles.flip at_place
    obtain ⟨other_name, other_name_at, other_player, other_named, other_found⟩ :=
      exists_getElem?_of_forall₂ other_denotes.roles.flip other_at_place
    rw [twins.reorders.roleNames] at other_name_at
    cases name_at.symm.trans other_name_at
    rw [twins.player?, named] at other_named
    cases other_named
    rw [Snapshot.playerOf, Snapshot.role, Snapshot.role?, other_found, Snapshot.playerOf,
      Snapshot.role, Snapshot.role?, found]
    rfl

theorem parts : Snapshot.PartsRenumbered σ s t where
  nouns_length := by
    rw [twins.there.numbers.nouns_length, twins.here.numbers.nouns_length,
      twins.reorders.nouns.length_eq]
  factTypes_length := by
    rw [← twins.there.factTypes.length_eq, ← twins.here.factTypes.length_eq,
      twins.reorders.factTypes.length_eq]
  noun := twins.noun
  factType := twins.factType
  player := twins.player

/-! ## Constraints -/

theorem selected? (id : FactTypeId) (position : RolePosition) :
    Document.selected? t (t.factType (σ.factType id)) position =
      (Document.selected? s (s.factType id) position).map σ.role := by
  cases position with
  | index place => rw [Document.selected?, Document.selected?, twins.roles, List.getElem?_map]
  | player name =>
    rw [Document.selected?, Document.selected?, twins.roles, List.find?_map]
    refine congrArg (Option.map σ.role) (List.find?_congr fun role listed => ?_)
    rw [Function.comp_apply, twins.player id role listed, twins.parts.nameOf]

theorem constraint {c : ConstraintDeclaration} {place : Nat} {rule other_rule : Rule}
    (resolved : d.resolveConstraint s c place = .ok rule)
    (other_resolved : other.resolveConstraint t c place = .ok other_rule) :
    other_rule = σ.rule rule := by
  obtain ⟨_, roles, selected, rfl⟩ := resolveConstraint_eq_ok_iff.mp resolved
  obtain ⟨_, other_roles, other_selected, rfl⟩ := resolveConstraint_eq_ok_iff.mp other_resolved
  rw [eq_map_of_forall₂ selected other_selected fun {selector role other_role} picked also => ?_]
  · rfl
  · obtain ⟨id, named, picked⟩ := selectRole_eq_ok_iff.mp picked
    obtain ⟨other_id, other_named, also⟩ := selectRole_eq_ok_iff.mp also
    rw [twins.factTypeId?, named] at other_named
    cases other_named
    rw [twins.selected?, picked] at also
    exact (Option.some.inj also).symm

omit twins in
theorem concerns_rule (kind : ConstraintKind) (role : RoleId) (rule : Rule) :
    (σ.rule rule).concerns kind (σ.role role) = rule.concerns kind role := by
  rw [Rule.concerns, Rule.concerns, Renumbering.rule, σ.contains_map_role]

/-- A relationship stands for the same constraints under other numbers. -/
theorem expand (declared : List Rule) (f : FactTypeDeclaration) (id : FactTypeId) :
    Document.expand (declared.map σ.rule) f (t.factType (σ.factType id)) =
      (Document.expand declared f (s.factType id)).map σ.rule := by
  have constrained (role : RoleId) : ((declared.map σ.rule).any fun rule =>
      rule.kind == .uniqueness && rule.roles.contains (σ.role role)) =
        declared.any fun rule => rule.kind == .uniqueness && rule.roles.contains role := by
    rw [List.any_map]
    exact congrArg declared.any (funext (concerns_rule .uniqueness role))
  rw [Document.expand, Document.expand, twins.roles]
  cases f.relationship with
  | none => rfl
  | some relationship =>
    rcases (s.factType id).roles with _ | ⟨first, _ | ⟨second, _ | ⟨third, rest⟩⟩⟩
    · rfl
    · rfl
    · simp only [List.map_cons, List.map_nil, constrained]
      split
      · rfl
      · cases relationship <;> rfl
    · rfl

/-- The constraints on a role that is renumbered are those on the role, renumbered. -/
theorem filter_rules {rules other_rules : List Rule} (made : d.resolveRules s = .ok rules)
    (other_made : other.resolveRules t = .ok other_rules) (kind : ConstraintKind)
    {id : FactTypeId} {role : RoleId} (listed : role ∈ (s.factType id).roles) :
    other_rules.filter (·.concerns kind (σ.role role)) =
      (rules.filter (·.concerns kind role)).map σ.rule := by
  obtain ⟨declared, each, rfl⟩ := resolveRules_eq_ok_iff.mp made
  obtain ⟨other_declared, other_each, rfl⟩ := resolveRules_eq_ok_iff.mp other_made
  rw [twins.reorders.constraints] at other_each
  have declared_so : other_declared = declared.map σ.rule :=
    eq_map_of_forall₂ each other_each fun resolved also => twins.constraint resolved also
  have other_listed : σ.role role ∈ (t.factType (σ.factType id)).roles :=
    twins.roles id ▸ List.mem_map_of_mem listed
  have filter_map (list : List Rule) : (list.map σ.rule).filter (·.concerns kind (σ.role role)) =
      (list.filter (·.concerns kind role)).map σ.rule := by
    rw [List.filter_map]
    exact congrArg (fun p => (list.filter p).map σ.rule) (funext (concerns_rule kind role))
  cases there : d.factTypes[id.place]? with
  | none =>
    rw [twins.here.factType_default there] at listed
    contradiction
  | some f =>
    rw [List.filter_append, List.filter_append, List.map_append,
      twins.here.filter_expansions twins.numberable there listed,
      twins.there.filter_expansions twins.other_numberable
        ((twins.places.factTypes id).trans there) other_listed,
      declared_so, twins.expand, filter_map, filter_map]

theorem spans (kind : ConstraintKind) (id : FactTypeId) : ∀ role ∈ (s.factType id).roles,
    (t.spansOfKind kind (σ.role role)).map (·.roles) =
      (s.spansOfKind kind role).map (·.roles.map σ.role) := by
  intro role listed
  obtain ⟨rules, made, whole⟩ := twins.here.rules
  obtain ⟨other_rules, other_made, other_whole⟩ := twins.there.rules
  have bound := (length_rules_le made).trans twins.rules_bound
  have other_bound := (length_rules_le other_made).trans
    (twins.reorders.ruleCount ▸ twins.rules_bound)
  have spans := spansOfKind_withRules (s := s) bound kind role
  have other_spans := spansOfKind_withRules (s := t) other_bound kind (σ.role role)
  rw [← whole] at spans
  rw [← other_whole] at other_spans
  rw [other_spans, twins.filter_rules made other_made kind listed, List.map_map]
  have mapped := congrArg (List.map (List.map σ.role)) spans
  rw [List.map_map, List.map_map] at mapped
  exact mapped.symm

/-! ## Readings and examples -/

theorem objectified (id : FactTypeId) : t.isObjectified (σ.factType id) = s.isObjectified id := by
  have same (name : String) : other.player? name = some (.factType (σ.factType id)) ↔
      d.player? name = some (.factType id) := by
    rw [twins.player?]
    exact (Option.map_injective σ.player_injective).eq_iff (b := some (.factType id))
  rw [Bool.eq_iff_iff, twins.there.isObjectified_iff twins.other_numberable,
    twins.here.isObjectified_iff twins.numberable]
  simp only [twins.reorders.mem_factTypes, twins.reorders.roleNames, same]

theorem readings (reading : String) : t.pattern.tokenize reading = s.pattern.tokenize reading := by
  refine NounPattern.tokenize_congr (fun name => ?_) reading
  rw [twins.there.mem_nounNames twins.other_numberable,
    twins.here.mem_nounNames twins.numberable, twins.reorders.mem_names, twins.factTypeId?]
  refine or_congr_right ?_
  cases d.factTypeId? name with
  | none => simp
  | some id => simp [twins.objectified]

theorem examples : t.examples = s.examples.map fun e => ⟨σ.factType e.factType, e.values⟩ := by
  have others := twins.there.examples
  rw [twins.reorders.examples] at others
  refine eq_map_of_forall₂ twins.here.examples others fun resolved also => ?_
  obtain ⟨id, named, _, rfl⟩ := resolveExample_eq_ok_iff.mp resolved
  obtain ⟨other_id, other_named, _, rfl⟩ := resolveExample_eq_ok_iff.mp also
  rw [twins.factTypeId?, named] at other_named
  cases other_named
  rfl

theorem jsonExamples :
    t.jsonExamples = s.jsonExamples.map fun e => ⟨σ.player e.subject, e.value⟩ := by
  have others := twins.there.jsonExamples
  rw [twins.reorders.jsonExamples] at others
  refine eq_map_of_forall₂ twins.here.jsonExamples others fun resolved also => ?_
  obtain ⟨subject, named, rfl⟩ := resolveJsonExample_eq_ok_iff.mp resolved
  obtain ⟨other_subject, other_named, rfl⟩ := resolveJsonExample_eq_ok_iff.mp also
  rw [twins.player?, named] at other_named
  cases other_named
  rfl

/-! ## The order of fact types -/

theorem ids_perm :
    ((s.factTypes.map (·.id)).map σ.factType).Perm (t.factTypes.map (·.id)) := by
  have nodup := (twins.here.nodup_ids twins.numberable).map σ.factType.injective
  refine (List.subperm_of_subset nodup fun id listed => ?_).perm_of_length_le ?_
  · obtain ⟨own, own_listed, rfl⟩ := List.mem_map.mp listed
    rw [twins.there.mem_ids twins.other_numberable, twins.places.factTypes]
    exact (twins.here.mem_ids twins.numberable).mp own_listed
  · simp only [List.length_map]
    exact twins.parts.factTypes_length.le

/-- Fact types that keep their places keep their numbers. -/
theorem factType_fixed (kept : other.factTypes = d.factTypes) {id : FactTypeId}
    {f : FactTypeDeclaration} (there : d.factTypes[id.place]? = some f) : σ.factType id = id := by
  have also := (twins.places.factTypes id).trans there
  rw [kept] at also
  exact FactTypeId.place_inj (place_unique twins.here.titles also there rfl)

/-- Fact types with orders of their own have different ranks. -/
theorem rank_injective (each : ∀ f ∈ d.factTypes, f.order.isSome)
    (distinct : (d.factTypes.map (·.order)).Nodup) {a b : FactTypeId} {f g : FactTypeDeclaration}
    (a_there : d.factTypes[a.place]? = some f) (b_there : d.factTypes[b.place]? = some g)
    (same : s.rank a = s.rank b) : a = b := by
  have rank {id : FactTypeId} {f : FactTypeDeclaration} (there : d.factTypes[id.place]? = some f) :
      f.order = some (s.rank id) := by
    obtain ⟨order, own⟩ := Option.isSome_iff_exists.mp (each f (List.mem_of_getElem? there))
    obtain ⟨_, spells⟩ := twins.here.factType_at there
    rw [Snapshot.rank, spells, own]
    rfl
  refine FactTypeId.place_inj (place_unique distinct a_there b_there ?_)
  rw [rank a_there, rank b_there, same]

theorem before_iff {a b : FactTypeId} (a_listed : a ∈ s.factTypes.map (·.id))
    (b_listed : b ∈ s.factTypes.map (·.id)) :
    s.Before a b ↔ t.Before (σ.factType a) (σ.factType b) := by
  obtain ⟨f, a_there⟩ := (twins.here.mem_ids twins.numberable).mp a_listed
  obtain ⟨g, b_there⟩ := (twins.here.mem_ids twins.numberable).mp b_listed
  rw [Snapshot.before_iff, Snapshot.before_iff, twins.parts.rank, twins.parts.rank]
  rcases twins.reorders.ordered with kept | ⟨each, distinct⟩
  -- Numbers decide between equal ranks: they are kept, or else no two ranks are equal.
  · rw [twins.factType_fixed kept a_there, twins.factType_fixed kept b_there]
  · by_cases same : a = b
    · subst same
      omega
    · have apart : (s.rank a).toInt ≠ (s.rank b).toInt := fun ranks =>
        same (twins.rank_injective each distinct a_there b_there (Int64.toInt_inj.mp ranks))
      omega

theorem ordered : t.orderedFactTypes = s.orderedFactTypes.map σ.factType := by
  rw [Snapshot.orderedFactTypes_eq, Snapshot.orderedFactTypes_eq,
    ← Snapshot.insertionSort_eq_of_perm twins.ids_perm]
  exact (List.map_insertionSort s.Before t.Before σ.factType _ fun _ a_listed _ b_listed =>
    twins.before_iff a_listed b_listed).symm

/-- What a document resolves to in another order differs in its numbers only. -/
theorem renumbered : Snapshot.Renumbered σ s t where
  toPartsRenumbered := twins.parts
  spans := twins.spans
  objectified := twins.objectified
  readings := twins.readings
  examples := twins.examples
  jsonExamples := twins.jsonExamples
  ordered := twins.ordered

end Twins
end ObjectRole.Document
