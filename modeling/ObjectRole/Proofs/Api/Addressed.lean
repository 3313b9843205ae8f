import ObjectRole.Proofs.Api.Identifier
import ObjectRole.Proofs.Tables.Identified

/-! Every resource can be addressed. Its items are identified by the properties that it lists, or
else by those that the nearest supertype does; each of them is a property of the resource and has
parameters in the path. The one parameter `id` stands in only where no supertype lists any. -/
namespace ObjectRole

open Schema

theorem mem_unlessEmpty {α : Type} {list : List α} {a b : α} (inside : a ∈ list) :
    a ∈ if list.isEmpty then [b] else list := by
  rwa [if_neg fun empty => List.ne_nil_of_mem inside (List.isEmpty_iff.mp empty)]

/-- The parameter that stands in where nothing identifies an item. -/
def idParameter : Parameter where
  name := "id"
  location := .path
  required := some true
  schema := .typed "string"

section Parameters

variable {update : Schema} {identifying : List String} {name : String}
  (each : ∀ name ∈ identifying, ∃ property,
    update.property? name = some property ∧ property.Identifying)
include each

/-- Each identifying property has a part in the identifier. -/
theorem exists_trail (listed : name ∈ identifying) :
    ∃ t ∈ Trail.ofProperties update identifying, StartsIn name [] t := by
  obtain ⟨property, found, fit⟩ := each name listed
  obtain ⟨t, inside⟩ := List.exists_mem_of_ne_nil _ (fit.unpacks name [])
  refine ⟨t, mem_unlessEmpty ?_, property.startsIn_trails name [] t inside⟩
  exact List.mem_flatMap.mpr ⟨name, listed, by rwa [found]⟩

/-- Parts of identifying properties are described. -/
theorem described_ofProperties (some_listed : identifying ≠ []) :
    ∀ m ∈ IdMember.ofProperties update identifying, m.description.isSome := by
  obtain ⟨first, listed⟩ := List.exists_mem_of_ne_nil _ some_listed
  obtain ⟨property, found, fit⟩ := each first listed
  obtain ⟨part, inside⟩ := List.exists_mem_of_ne_nil _ (fit.idMembers_ne_nil first)
  intro m member
  rw [IdMember.ofProperties] at member
  rw [if_neg fun empty => ?_] at member
  · obtain ⟨name, listed, own⟩ := List.mem_flatMap.mp member
    obtain ⟨property, found, fit⟩ := each name listed
    rw [found] at own
    refine described_idMembers name none none property ?_ m own
    rw [Option.or_none]
    exact fit.described
  · refine List.ne_nil_of_mem (a := part) ?_ (List.isEmpty_iff.mp empty)
    exact List.mem_flatMap.mpr ⟨first, listed, by rwa [found]⟩

/-- The parameter `id` that stands in is not described. -/
theorem idParameters_eq_iff :
    idParameters update identifying = [idParameter] ↔ identifying = [] := by
  constructor
  · intro same
    by_contra some_listed
    have inside : idParameter ∈ idParameters update identifying := same ▸ List.mem_singleton_self _
    obtain ⟨m, member, parameter⟩ := List.mem_map.mp inside
    have described := described_ofProperties each some_listed m member
    have none : m.description = none := congrArg (·.description) parameter
    rw [none] at described
    contradiction
  · rintro rfl
    rfl

end Parameters

theorem BuiltTables.identifyingProperties_schemas (b : BuiltTables) (schemas : SchemaMap)
    (key : String) :
    BuiltTables.identifyingProperties { b with schemas } key = b.identifyingProperties key := by
  suffices climbs : ∀ steps key, BuiltTables.identifyingFrom { b with schemas } steps key =
      b.identifyingFrom steps key from climbs _ key
  intro steps
  induction steps with
  | zero => exact fun _ => rfl
  | succ steps ih =>
    intro key
    simp only [identifyingFrom, ih]

variable {d : Document} {s : Snapshot} {tables : BuiltTables} {key name : String} {r : Resource}

namespace Snapshot

/-- All properties of flat tiers can identify an item. -/
theorem fieldsIdentify_of_flatTables (made : s.flatTables = .ok tables) :
    Tables.FieldsIdentify tables.schemas := by
  obtain ⟨b, flat, built, flattened, rfl⟩ := flatTables_eq_ok_iff.mp made
  exact SchemaMap.flatten_forall (SchemaMap.hereditary_fields Identifying)
    (addressable_of_buildTables built).fields flattened

/-- What identifies a resource is what the nearest of it and its supertypes lists, and all of it are
properties of the resource. -/
theorem identifyingProperties_of_flatTables (rooted : s.Rooted) (made : s.flatTables = .ok tables)
    (taken : tables.resources.get? key = some r) :
    tables.identifyingProperties key = tables.firstIdentifying (s.ancestry r.subject) ∧
      ∀ name ∈ tables.identifyingProperties key,
        name ∈ (tables.schema (updateKey key)).propertyNames := by
  obtain ⟨b, flat, built, flattened, rfl⟩ := flatTables_eq_ok_iff.mp made
  have finished := finished_of_buildTables built
  have addressable := addressable_of_buildTables built
  have climbed := finished.identifyingProperties_eq rooted taken addressable
  rw [BuiltTables.identifyingProperties_schemas]
  refine ⟨climbed, fun name listed => ?_⟩
  rw [climbed] at listed
  obtain ⟨other, above, own⟩ := BuiltTables.exists_of_mem_firstIdentifying listed
  obtain ⟨schema, found, there⟩ := (finished.says_update_iff flattened rooted taken
    (accumulates_propertyNames name)).mpr ⟨other, above, addressable.listed other name own⟩
  have same : BuiltTables.schema { b with schemas := flat } (updateKey key) = schema :=
    BuiltTables.schema_eq found
  rwa [same]

end Snapshot

/-- A resource is addressed by the properties that it or else its nearest supertype lists as
identifying. They are properties of the resource, and each starts the trail of a parameter in the
path of an item. Only where neither it nor any supertype lists one is there the one parameter
`id`. -/
theorem resource_addressed (resolved : d.resolve = .ok s) (made : s.flatTables = .ok tables)
    (taken : tables.resources.get? key = some r) :
    tables.identifyingProperties key = tables.firstIdentifying (s.ancestry r.subject) ∧
    (∀ name ∈ tables.identifyingProperties key,
      name ∈ (tables.schema (updateKey key)).propertyNames ∧
        ∃ t ∈ tables.trails key, StartsIn name [] t) ∧
    (tables.identifier (key, r)).map (·.name) =
      (tables.trails key).map (·.spelling (tables.trails key)) ∧
    (∀ (settings : Settings) (item : PathItem), (s.view settings tables (key, r)).item? settings
        (tables.identifier (key, r)) = some item →
      item.pathNames = (tables.identifier (key, r)).map (·.name)) ∧
    (tables.identifier (key, r) = [idParameter] ↔
      ∀ other ∈ s.ancestry r.subject, tables.identifyingOf other = []) := by
  have rooted := Document.rooted_of_resolve resolved
  have flat := Snapshot.flatTables_of_ok rooted made
  have fit := Snapshot.fieldsIdentify_of_flatTables made
  obtain ⟨nearest, own⟩ := Snapshot.identifyingProperties_of_flatTables rooted made taken
  have update := (flat.tiers (Dict.contains_iff.mpr ⟨r, taken⟩) (.inl rfl)).1
  have each : ∀ name ∈ tables.identifyingProperties key, ∃ property,
      (tables.schema (updateKey key)).property? name = some property ∧ property.Identifying := by
    intro name listed
    obtain ⟨property, found⟩ := Option.isSome_iff_exists.mp
      (Entries.get?_isSome_iff.mpr (own name listed))
    exact ⟨property, found, fit _ _ update (name, property) (Entries.mem_of_get? found)⟩
  refine ⟨nearest, fun name listed => ⟨own name listed, exists_trail each listed⟩,
    tables.identifier_names (key, r), fun settings item made => ?_, ?_⟩
  · exact ResourceView.pathNames_item? (tables.identifier_in_path (key, r)) made
  · rw [← BuiltTables.firstIdentifying_eq_nil_iff, ← nearest]
    exact idParameters_eq_iff each

/-- People are known by their passports, that are numbered per country, and citizens are people. -/
def Document.travellers : Document where
  nouns := [
    { name := "Person", referenceScheme := ["Passport"] },
    { name := "Citizen", superType := some "Person" },
    { name := "Passport", referenceScheme := ["Country", "Number"] },
    { name := "Country", objectType := .value },
    { name := "Number", objectType := .value, valueType := some .integer }]
  factTypes := [{ readings := [.text "Citizen smokes"] }]

theorem travellers_addressed : ∃ s tables r, Document.travellers.resolve = .ok s ∧
    s.flatTables = .ok tables ∧ tables.resources.get? "Citizen" = some r ∧
      s.ancestry r.subject = ["Citizen", "Person"] ∧ tables.identifyingOf "Citizen" = [] ∧
      "passport" ∈ (tables.schema (updateKey "Citizen")).propertyNames ∧
      (tables.identifier ("Citizen", r)).map (·.name) = ["country", "number"] ∧
      tables.identifier ("Citizen", r) ≠ [idParameter] := by
  have passed : Document.travellers.passes {} fun s tables _ =>
      (tables.resources.get? "Citizen").any fun r =>
        s.ancestry r.subject == ["Citizen", "Person"] &&
        tables.identifyingOf "Citizen" == [] && tables.identifyingOf "Person" == ["passport"] &&
        (tables.trails "Citizen").map (·.spelling (tables.trails "Citizen")) ==
          ["country", "number"] := by decide +kernel
  obtain ⟨s, tables, _, resolved, made, _, checked⟩ := Document.exists_of_passes passed
  obtain ⟨r, taken, checked⟩ := (Option.any_eq_true _ _).mp checked
  simp only [Bool.and_eq_true, beq_iff_eq] at checked
  obtain ⟨⟨⟨ancestry, own⟩, above⟩, names⟩ := checked
  obtain ⟨nearest, listed, spelled, _, standard⟩ := resource_addressed resolved made taken
  have identifying : tables.identifyingProperties "Citizen" = ["passport"] := by
    rw [nearest, ancestry, BuiltTables.firstIdentifying_cons, own,
      BuiltTables.firstIdentifying_cons, above]
    rfl
  refine ⟨s, tables, r, resolved, made, taken, ancestry, own, ?_, spelled.trans names, ?_⟩
  · exact (listed "passport" (identifying ▸ .head _)).1
  · rw [Ne, standard, ancestry]
    intro none
    have none := none "Person" (by simp)
    rw [above] at none
    contradiction

end ObjectRole
