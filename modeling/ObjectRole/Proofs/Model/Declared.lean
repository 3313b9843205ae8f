import ObjectRole.Proofs.Model.Consistent

/-! What a document resolves to says all that the document declares, and nothing else: every noun
and every fact type spells its declaration, and the constraints are those that are declared or that
relationships stand for. -/
namespace ObjectRole

/-- The noun says what is declared, apart from the numbers of nouns. -/
def NounDeclaration.Spells (n : NounDeclaration) (noun : Noun) : Prop :=
  noun = {
    id := noun.id
    name := n.name
    plural := n.plural
    description := n.description
    objectType := n.objectType
    valueType := n.valueType
    facets := n.facets
    referenceScheme := noun.referenceScheme
    superType := noun.superType
    permissions := n.permissions }

/-- The fact type says what is declared, apart from the numbers of roles. -/
def FactTypeDeclaration.Spells (f : FactTypeDeclaration) (resolved : FactType) : Prop :=
  resolved = {
    id := resolved.id
    name := f.name
    description := f.description
    plural := f.plural
    readings := f.readings.map (·.reading)
    roles := resolved.roles
    order := f.order
    permissions := f.permissions }

/-- A fact type is used as a noun if it plays some role. -/
theorem Snapshot.isObjectified_eq_true_iff {s : Snapshot} {id : FactTypeId} :
    s.isObjectified id = true ↔ ∃ role ∈ s.roles, role.player = .factType id := by
  rw [isObjectified, usesOf, Bool.not_eq_true', List.isEmpty_eq_false_iff_exists_mem]
  simp only [List.mem_filter, beq_iff_eq]

namespace Document

variable {d : Document} {s parts : Snapshot}

theorem number_spells (factType role : Nat) (list : List (FactTypeDeclaration × List Player)) :
    List.Forall₂ (fun entry f => entry.1.Spells f) list (number factType role list).1 := by
  induction list generalizing factType role with
  | nil => exact .nil
  | cons entry rest ih =>
    rw [number]
    exact .cons rfl (ih _ _)

/-- Where keys are distinct, a key stands at one place only. -/
theorem place_unique {α β : Type} {list : List α} {key : α → β} {i j : Nat} {a b : α}
    (nodup : (list.map key).Nodup) (first : list[i]? = some a) (second : list[j]? = some b)
    (same : key a = key b) : i = j := by
  obtain ⟨inside, _⟩ := List.getElem?_eq_some_iff.mp first
  refine (List.getElem?_inj (by rwa [List.length_map]) nodup).mp ?_
  rw [List.getElem?_map, List.getElem?_map, first, second, Option.map_some, Option.map_some, same]

/-- A name leads to the number of the only declaration that bears it. -/
theorem Numberable.nounId?_of_getElem? (numberable : d.Numberable)
    (names : (d.nouns.map (·.name)).Nodup) {id : NounId} {n : NounDeclaration}
    (there : d.nouns[id.place]? = some n) : d.nounId? n.name = some id := by
  obtain ⟨found, named⟩ :=
    exists_nounId?_iff.mpr (List.mem_map_of_mem (List.mem_of_getElem? there))
  obtain ⟨declared, also, same⟩ := numberable.nounId?_some named
  rw [named, NounId.place_inj (place_unique names also there same)]

theorem Numberable.factTypeId?_of_getElem? (numberable : d.Numberable)
    (titles : (d.factTypes.map (·.title)).Nodup) {id : FactTypeId} {f : FactTypeDeclaration}
    (there : d.factTypes[id.place]? = some f) : d.factTypeId? f.title = some id := by
  obtain ⟨found, named⟩ :=
    exists_factTypeId?_iff.mpr (List.mem_map_of_mem (List.mem_of_getElem? there))
  obtain ⟨declared, also, same⟩ := numberable.factTypeId?_some named
  rw [named, FactTypeId.place_inj (place_unique titles also there same)]

/-- What is left of a document when it is resolved. -/
structure Resolved (d : Document) (s : Snapshot) : Prop where
  names : (d.nouns.map (·.name)).Nodup
  titles : (d.factTypes.map (·.title)).Nodup
  numbers : d.Numbers s
  nouns : List.Forall₂ (fun entry noun => entry.1.Spells noun) d.nouns.zipIdx s.nouns
  factTypes : List.Forall₂ FactTypeDeclaration.Spells d.factTypes s.factTypes
  rules : ∃ rules, d.resolveRules s = .ok rules ∧ s = withRules s rules
  examples : List.Forall₂ (fun e x => d.resolveExample s e = .ok x) d.examples s.examples
  jsonExamples : List.Forall₂ (fun e x => d.resolveJsonExample e = .ok x) d.jsonExamples
    s.jsonExamples

theorem resolved_of_resolve (numberable : d.Numberable) (resolved : d.resolve = .ok s) :
    d.Resolved s := by
  obtain ⟨clear, parts, made, _, rules, rules_made, examples, examples_made, jsonExamples,
    jsonExamples_made, rfl, _⟩ := resolve_eq_ok_iff.mp resolved
  obtain ⟨names, titles⟩ := checkNames_eq_ok_iff.mp clear
  have numbers := numbers_of_resolveParts numberable made
  rw [resolveParts] at made
  obtain ⟨nouns, nouns_made, made⟩ := bind_eq_ok_iff.mp made
  obtain ⟨players, players_made, made⟩ := bind_eq_ok_iff.mp made
  cases made
  have length := (mapM_eq_ok_iff.mp players_made).length_eq
  constructor
  case names => exact names
  case titles => exact titles
  case numbers => exact ⟨numbers.nouns, numbers.factTypes, numbers.listed, numbers.ordered⟩
  case nouns =>
    refine (mapM_eq_ok_iff.mp nouns_made).imp
      fun entry noun (resolved : d.resolveNoun entry.1 entry.2 = .ok noun) => ?_
    rw [resolveNoun] at resolved
    obtain ⟨_, _, resolved⟩ := bind_eq_ok_iff.mp resolved
    obtain ⟨_, _, resolved⟩ := bind_eq_ok_iff.mp resolved
    cases resolved
    rfl
  case factTypes =>
    have spells : List.Forall₂ FactTypeDeclaration.Spells ((d.factTypes.zip players).map (·.1)) _ :=
      List.forall₂_map_left_iff.mpr (number_spells 0 0 (d.factTypes.zip players))
    rwa [List.map_fst_zip (Nat.le_of_eq length)] at spells
  case rules => exact ⟨rules, rules_made, rfl⟩
  case examples => exact examples_made
  case jsonExamples => exact jsonExamples_made

namespace Resolved

variable (resolved : d.Resolved s)
include resolved

theorem noun_at {id : NounId} {n : NounDeclaration} (there : d.nouns[id.place]? = some n) :
    d.DenotesNoun (n, id.place) (s.noun id) ∧ n.Spells (s.noun id) := by
  obtain ⟨noun, found, denotes⟩ := resolved.numbers.noun_at there
  obtain ⟨_, also, spells⟩ := exists_getElem?_of_zipIdx resolved.nouns there
  cases found.symm.trans also
  rw [Snapshot.noun, Snapshot.noun?, found]
  exact ⟨denotes, spells⟩

theorem factType_at {id : FactTypeId} {f : FactTypeDeclaration}
    (there : d.factTypes[id.place]? = some f) :
    d.DenotesFactType s.roles (f, id.place) (s.factType id) ∧ f.Spells (s.factType id) := by
  obtain ⟨resolved_so, found, denotes⟩ := resolved.numbers.factType_at there
  obtain ⟨_, also, spells⟩ := exists_getElem?_of_forall₂ resolved.factTypes there
  cases found.symm.trans also
  rw [Snapshot.factType, Snapshot.factType?, found]
  exact ⟨denotes, spells⟩

theorem noun_default {id : NounId} (behind : d.nouns[id.place]? = none) : s.noun id = default := by
  rw [List.getElem?_eq_none_iff, ← resolved.numbers.nouns_length] at behind
  rw [Snapshot.noun, Snapshot.noun?, List.getElem?_eq_none_iff.mpr behind, Option.getD_none]

theorem factType_default {id : FactTypeId} (behind : d.factTypes[id.place]? = none) :
    s.factType id = default := by
  rw [List.getElem?_eq_none_iff, resolved.factTypes.length_eq] at behind
  rw [Snapshot.factType, Snapshot.factType?, List.getElem?_eq_none_iff.mpr behind,
    Option.getD_none]

theorem mem_ids (numberable : d.Numberable) {id : FactTypeId} :
    id ∈ s.factTypes.map (·.id) ↔ ∃ f, d.factTypes[id.place]? = some f := by
  rw [List.mem_map]
  constructor
  · rintro ⟨own, inside, rfl⟩
    obtain ⟨place, found⟩ := List.mem_iff_getElem?.mp inside
    obtain ⟨f, there, _⟩ := resolved.numbers.factType_declared found
    exact ⟨f, (resolved.numbers.factType_place numberable found).symm ▸ there⟩
  · rintro ⟨f, there⟩
    obtain ⟨own, found, _⟩ := resolved.numbers.factType_at there
    exact ⟨own, List.mem_of_getElem? found,
      FactTypeId.place_inj (resolved.numbers.factType_place numberable found)⟩

theorem nodup_ids (numberable : d.Numberable) : (s.factTypes.map (·.id)).Nodup := by
  have places := Snapshot.map_eq_range (resolved.numbers.factType_place numberable)
  refine List.Nodup.of_map FactTypeId.place ?_
  rw [List.map_map]
  exact places ▸ List.nodup_range

/-- A fact type plays a role if it is declared to. -/
theorem isObjectified_iff (numberable : d.Numberable) {id : FactTypeId} :
    s.isObjectified id = true ↔
      ∃ f ∈ d.factTypes, ∃ name ∈ d.roleNames f, d.player? name = some (.factType id) := by
  rw [Snapshot.isObjectified_eq_true_iff]
  constructor
  · rintro ⟨role, inside, plays⟩
    have listed := List.mem_map_of_mem (f := (·.id)) inside
    rw [← resolved.numbers.listed] at listed
    obtain ⟨own, own_inside, listed⟩ := List.mem_flatMap.mp listed
    obtain ⟨place, found⟩ := List.mem_iff_getElem?.mp own_inside
    obtain ⟨f, declared, denotes⟩ := resolved.numbers.factType_declared found
    obtain ⟨name, name_listed, player, named, at_role⟩ :=
      exists_of_forall₂ denotes.roles.flip listed
    have at_place :=
      Snapshot.getElem?_of_numbered (resolved.numbers.role_places numberable) inside
    rw [Option.some.inj (at_place.symm.trans at_role)] at plays
    exact ⟨f, List.mem_of_getElem? declared, name, name_listed, plays ▸ named⟩
  · rintro ⟨f, declared, name, listed, named⟩
    obtain ⟨place, there⟩ := List.mem_iff_getElem?.mp declared
    obtain ⟨own, _, denotes⟩ := resolved.numbers.factType_at there
    obtain ⟨role, _, player, also, at_role⟩ := exists_of_forall₂ denotes.roles listed
    cases named.symm.trans also
    exact ⟨_, List.mem_of_getElem? at_role, rfl⟩

/-- Readings are split at the names of nouns and the titles of the fact types that play roles. -/
theorem mem_nounNames (numberable : d.Numberable) {name : String} :
    name ∈ s.nounNames ↔ name ∈ d.nouns.map (·.name) ∨
      ∃ id, d.factTypeId? name = some id ∧ s.isObjectified id = true := by
  rw [Snapshot.nounNames, List.mem_append, resolved.numbers.names]
  refine or_congr_right ?_
  simp only [List.mem_map, List.mem_filter]
  constructor
  · rintro ⟨own, ⟨inside, objectified⟩, rfl⟩
    obtain ⟨place, found⟩ := List.mem_iff_getElem?.mp inside
    obtain ⟨f, there, denotes⟩ := resolved.numbers.factType_declared found
    have own_place := resolved.numbers.factType_place numberable found
    refine ⟨own.id, ?_, objectified⟩
    rw [denotes.title]
    exact numberable.factTypeId?_of_getElem? resolved.titles (own_place ▸ there)
  · rintro ⟨id, named, objectified⟩
    obtain ⟨f, there, same⟩ := numberable.factTypeId?_some named
    obtain ⟨own, found, denotes⟩ := resolved.numbers.factType_at there
    have own_id := FactTypeId.place_inj (resolved.numbers.factType_place numberable found)
    exact ⟨own, ⟨List.mem_of_getElem? found, own_id ▸ objectified⟩, denotes.title.trans same⟩

end Resolved
end Document
end ObjectRole
