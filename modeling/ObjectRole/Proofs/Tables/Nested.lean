import ObjectRole.Api.Compile
import ObjectRole.Proofs.Tables.Flat

/-! Flat tiers of a resource are nested: all have the same properties, the update tier requires
nothing, and the read tier requires what the new tier does and at most `id` besides. -/
namespace ObjectRole

open Schema

/-- The three flat tiers of a resource. -/
structure Nested (update new read : Schema) : Prop where
  update_new : Within update new
  new_read : Within new read
  update_requires : update.requiredNames = []
  read_requires : ∀ name ∈ read.requiredNames, name ∈ new.requiredNames ∨ name = "id"

namespace Finished

variable {s : Snapshot} {b : BuiltTables} {flat : SchemaMap} {key tier name : String}
  {r : Resource}
  (finished : Finished s b) (flattened : b.schemas.flatten = .ok flat) (rooted : s.Rooted)
  (taken : b.resources.get? key = some r)
include finished flattened rooted taken

omit flattened rooted in
/-- The outer tiers have no properties before they are flattened. -/
theorem silent (is_outer : tier = newKey key ∨ tier = key) :
    ¬b.schemas.Says (name ∈ ·.propertyNames) tier := by
  obtain ⟨_, ⟨new, new_found, is_new⟩, ⟨read, read_found, is_read⟩⟩ := finished.tiers taken
  rcases is_outer with rfl | rfl
  · rw [SchemaMap.says_iff new_found, propertyNames, is_new.fields]
    exact List.not_mem_nil
  · rw [SchemaMap.says_iff read_found, propertyNames, is_read.fields]
    exact List.not_mem_nil

theorem says_property (name : String) : (flat.Says (name ∈ ·.propertyNames) (newKey key) ↔
      flat.Says (name ∈ ·.propertyNames) (updateKey key)) ∧
    (flat.Says (name ∈ ·.propertyNames) key ↔
      flat.Says (name ∈ ·.propertyNames) (updateKey key)) := by
  refine finished.key_induction rooted (motive := fun key =>
    (flat.Says (name ∈ ·.propertyNames) (newKey key) ↔
      flat.Says (name ∈ ·.propertyNames) (updateKey key)) ∧
    (flat.Says (name ∈ ·.propertyNames) key ↔
      flat.Says (name ∈ ·.propertyNames) (updateKey key))) ?_ taken
  intro key r taken supertype
  have update := finished.says_update flattened rooted (accumulates_propertyNames name) taken
  have new := finished.says_new flattened rooted (accumulates_propertyNames name) taken
  have read := finished.says_read flattened rooted (accumulates_propertyNames name) taken
  have new_update : flat.Says (name ∈ ·.propertyNames) (newKey key) ↔
      flat.Says (name ∈ ·.propertyNames) (updateKey key) := by
    rw [new]
    constructor
    · rintro (own | holds | ⟨parent, above, holds⟩)
      · exact absurd own (finished.silent taken (.inl rfl))
      · exact holds
      · exact update.mpr (.inr ⟨parent, above, (supertype parent above).1.mp holds⟩)
    · intro holds
      exact .inr (.inl holds)
  refine ⟨new_update, ?_⟩
  rw [read]
  constructor
  · rintro (own | holds | ⟨parent, above, holds⟩)
    · exact absurd own (finished.silent taken (.inr rfl))
    · exact new_update.mp holds
    · exact update.mpr (.inr ⟨parent, above, (supertype parent above).2.mp holds⟩)
  · intro holds
    exact .inr (.inl (new_update.mpr holds))

theorem update_requires : ¬flat.Says (name ∈ ·.requiredNames) (updateKey key) := by
  refine finished.key_induction rooted (motive := fun key =>
    ¬flat.Says (name ∈ ·.requiredNames) (updateKey key)) ?_ taken
  intro key r taken supertype
  obtain ⟨tier, found, is_update⟩ := (finished.tiers taken).update
  rw [finished.says_update flattened rooted (accumulates_required name) taken,
    SchemaMap.says_iff found, is_update.requiredNames]
  rintro (own | ⟨parent, above, holds⟩)
  · contradiction
  · exact supertype parent above holds

theorem read_requires (holds : flat.Says (name ∈ ·.requiredNames) key) :
    flat.Says (name ∈ ·.requiredNames) (newKey key) ∨ name = "id" := by
  revert holds
  refine finished.key_induction rooted (motive := fun key =>
    flat.Says (name ∈ ·.requiredNames) key →
      flat.Says (name ∈ ·.requiredNames) (newKey key) ∨ name = "id") ?_ taken
  intro key r taken supertype holds
  obtain ⟨tier, found, is_read⟩ := (finished.tiers taken).read
  rw [finished.says_read flattened rooted (accumulates_required name) taken,
    SchemaMap.says_iff found] at holds
  rcases holds with own | holds | ⟨parent, above, holds⟩
  · exact .inr (is_read.requiredNames name own)
  · exact .inl holds
  · apply (supertype parent above holds).imp_left
    intro holds
    rw [finished.says_new flattened rooted (accumulates_required name) taken]
    exact .inr (.inr ⟨parent, above, holds⟩)

/-- Every resource has its three flat tiers, and they are nested. -/
theorem exists_nested : ∃ update new read, flat.get? (updateKey key) = some update ∧
    flat.get? (newKey key) = some new ∧ flat.get? key = some read ∧ Nested update new read := by
  obtain ⟨update, new, read, update_found, new_found, read_found⟩ :=
    exists_flat flattened (finished.tiers taken)
  have properties : ∀ name, (name ∈ new.propertyNames ↔ name ∈ update.propertyNames) ∧
      (name ∈ read.propertyNames ↔ name ∈ update.propertyNames) := fun name => by
    simpa only [SchemaMap.says_iff update_found, SchemaMap.says_iff new_found,
      SchemaMap.says_iff read_found] using
      finished.says_property flattened rooted taken name
  have update_requires : update.requiredNames = [] := by
    apply List.eq_nil_iff_forall_not_mem.mpr
    intro name listed
    exact finished.update_requires flattened rooted taken
      ((SchemaMap.says_iff update_found).mpr listed)
  refine ⟨update, new, read, update_found, new_found, read_found, ⟨?_, ?_⟩, ⟨?_, ?_⟩,
    update_requires, ?_⟩
  · exact fun name => (properties name).1.symm
  · rw [update_requires]
    exact List.nil_subset _
  · exact fun name => (properties name).1.trans (properties name).2.symm
  · intro name listed
    refine (SchemaMap.says_iff (P := (name ∈ ·.requiredNames)) read_found).mp ?_
    rw [finished.says_read flattened rooted (accumulates_required name) taken]
    exact .inr (.inl ((SchemaMap.says_iff new_found).mpr listed))
  · intro name listed
    have holds := finished.read_requires flattened rooted taken
      ((SchemaMap.says_iff read_found).mpr listed)
    exact holds.imp_left (SchemaMap.says_iff new_found).mp

end Finished

namespace BuiltTables

def schema (tables : BuiltTables) (tier : String) : Schema :=
  (tables.schemas.get? tier).getD .empty

theorem schema_eq {tables : BuiltTables} {tier : String} {schema : Schema}
    (found : tables.schemas.get? tier = some schema) : tables.schema tier = schema := by
  rw [BuiltTables.schema, found, Option.getD_some]

end BuiltTables

/-- What holds of the flat tables of a model. -/
structure FlatTables (s : Snapshot) (tables : BuiltTables) : Prop where
  keyed : ∀ {key r}, tables.resources.get? key = some r → s.keyOf r.subject = key
  tiers : ∀ {key tier}, tables.resources.contains key → IsTierOf key tier →
    tables.schemas.get? tier = some (tables.schema tier) ∧ FlatTier tables (tables.schema tier)
  nested : ∀ {key}, tables.resources.contains key → Nested (tables.schema (updateKey key))
    (tables.schema (newKey key)) (tables.schema key)
  covered : ∀ {tier}, tables.schemas.contains tier →
    ∃ key, tables.resources.contains key ∧ IsTierOf key tier
  apart : Apart (tables.resources.contains ·)
  unreserved : ∀ {key}, tables.resources.contains key → key ≠ listModelKey ∧ key ≠ errorModelKey

namespace Snapshot

variable {s : Snapshot} {b tables : BuiltTables}

theorem flatTables_eq_ok_iff : s.flatTables = .ok tables ↔ ∃ b flat, s.buildTables = .ok b ∧
    b.schemas.flatten = .ok flat ∧ tables = { b with schemas := flat } := by
  rw [flatTables, bind_eq_ok_iff]
  constructor
  · rintro ⟨b, built, ran⟩
    obtain ⟨flat, flattened, same⟩ := bind_eq_ok_iff.mp ran
    cases same
    exact ⟨b, flat, built, flattened, rfl⟩
  · rintro ⟨b, flat, built, flattened, rfl⟩
    exact ⟨b, built, bind_eq_ok_iff.mpr ⟨flat, flattened, rfl⟩⟩

theorem flatTables_of_ok (rooted : s.Rooted) (made : s.flatTables = .ok tables) :
    FlatTables s tables := by
  obtain ⟨b, flat, built, flattened, rfl⟩ := flatTables_eq_ok_iff.mp made
  have finished := finished_of_buildTables built
  have flattens := SchemaMap.flattens_of_flatten flattened
  refine ⟨finished.keyed, ?_, ?_, ?_, finished.apart, finished.unreserved⟩
  · intro key tier taken is_tier
    obtain ⟨r, taken⟩ := Dict.contains_iff.mp taken
    have there := finished.contains_tier taken is_tier
    rw [← flattens.contains_eq] at there
    obtain ⟨schema, found⟩ := Dict.contains_iff.mp there
    have flat_tier := finished.flatTier flattened found
    rw [BuiltTables.schema_eq found]
    exact ⟨found, flat_tier.tidy, flat_tier.plain, flat_tier.allOf, flat_tier.coherent,
      flat_tier.knows⟩
  · intro key taken
    obtain ⟨r, taken⟩ := Dict.contains_iff.mp taken
    obtain ⟨update, new, read, update_found, new_found, read_found, nested⟩ :=
      finished.exists_nested flattened rooted taken
    rw [BuiltTables.schema_eq update_found, BuiltTables.schema_eq new_found,
      BuiltTables.schema_eq read_found]
    exact nested
  · intro tier there
    exact finished.covered ((flattens.contains_eq tier).symm.trans there)

/-- Where tables can be built, they can be flattened. -/
theorem exists_flatTables (rooted : s.Rooted) (built : s.buildTables = .ok b) :
    ∃ tables, s.flatTables = .ok tables := by
  have finished := finished_of_buildTables built
  obtain ⟨flat, flattened⟩ := SchemaMap.flatten_ok (finished.acyclic rooted)
  exact ⟨_, flatTables_eq_ok_iff.mpr ⟨b, flat, built, flattened, rfl⟩⟩

end Snapshot

namespace Document

/-- A document compiles, and what becomes of it passes a check. -/
def passes (d : Document) (settings : Settings)
    (check : Snapshot → BuiltTables → ApiDocument → Bool) : Bool :=
  match d.resolve with
  | .error _ => false
  | .ok s =>
    match s.flatTables, s.compile settings with
    | .ok tables, .ok doc => check s tables doc
    | _, _ => false

theorem exists_of_passes {d : Document} {settings : Settings}
    {check : Snapshot → BuiltTables → ApiDocument → Bool} (passed : d.passes settings check) :
    ∃ s tables doc, d.resolve = .ok s ∧ s.flatTables = .ok tables ∧
      s.compile settings = .ok doc ∧ check s tables doc = true := by
  rw [passes] at passed
  split at passed
  · contradiction
  · rename_i s resolved
    split at passed
    · rename_i tables doc made compiled
      exact ⟨s, tables, doc, resolved, made, compiled, passed⟩
    · contradiction

/-- Citizens are agents, and they smoke. -/
def citizens : Document where
  nouns := [{ name := "Agent" }, { name := "Citizen", superType := some "Agent" }]
  factTypes := [{ readings := [.text "Citizen smokes"] }]

end Document

end ObjectRole
