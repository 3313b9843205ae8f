import ObjectRole.Proofs.Api.Bodies
import ObjectRole.Proofs.Tables.United

/-! No schema inherits anything any more, neither the flat ones nor any component of a document.
What was inherited stands in the tiers themselves. -/
namespace ObjectRole

open Schema

namespace Schema

variable {s : Schema}

theorem Standalone.mapKeywords (alone : s.Standalone) (f : Keywords → Keywords) :
    (s.mapKeywords f).Standalone := by
  intro inner inside
  rw [nested_mapKeywords] at inside
  obtain ⟨own, listed, rfl⟩ := List.mem_map.mp inside
  have none := alone own listed
  cases own
  subst none
  rfl

end Schema

open ApiDocument

/-- Components of a finished run inherit nothing. -/
theorem Progress.component_standalone {s : Snapshot} {settings : Settings} {tables : BuiltTables}
    {y : Synthesis} {key : String} {schema : Schema} (flat : FlatTables s tables)
    (progress : Progress s settings tables tables.resources.entries y)
    (found : (componentSchemas settings y.tiers.schemas).get? key = some schema) :
    schema.Standalone := by
  rcases progress.component_cases flat found with bare | ⟨entry, listed, is_tier, found⟩
  · exact bare.standalone
  · exact (flatTier flat progress found listed is_tier).1.neat.standalone

variable {d : Document} {s : Snapshot} {b : BuiltTables} {flat : SchemaMap}

/-- Flat schemas inherit nothing at any depth, nor do the components of a document made of them. The
flat tiers of every resource unite the built ones of it and all its supertypes, which have tables,
too. -/
theorem flat_tiers_unite (resolved : d.resolve = .ok s) (built : s.buildTables = .ok b)
    (flattened : b.schemas.flatten = .ok flat) :
    (∀ tier schema, flat.get? tier = some schema → ∀ inner ∈ schema.nested, inner.allOf = none) ∧
    (∀ settings doc, s.compile settings = .ok doc → ∀ key schema,
      doc.schemas.get? key = some schema → ∀ inner ∈ schema.nested, inner.allOf = none) ∧
    ∀ key r, b.resources.get? key = some r →
      (∀ other ∈ s.ancestry r.subject, b.resources.contains other) ∧
      ∃ update new read, flat.get? (updateKey key) = some update ∧
        flat.get? (newKey key) = some new ∧ flat.get? key = some read ∧
        Unites b.schemas (s.ancestry r.subject) update new read := by
  have rooted := Document.rooted_of_resolve resolved
  have finished := Snapshot.finished_of_buildTables built
  have made := Snapshot.flatTables_eq_ok_iff.mpr ⟨b, flat, built, flattened, rfl⟩
  refine ⟨?_, ?_, ?_⟩
  · intro tier schema found
    exact (finished.flatTier flattened found).neat.standalone
  · intro settings doc compiled key schema found
    obtain ⟨y, tables_flat, ran, rfl⟩ := Document.run_of_compile resolved made compiled
    rw [Synthesis.get?_schemas] at found
    obtain ⟨left, listed, rfl⟩ := Option.map_eq_some_iff.mp found
    have progress := Progress.of_ofTables tables_flat ran
    exact (progress.component_standalone tables_flat listed).mapKeywords _
  · intro key r taken
    refine ⟨?_, finished.exists_unites flattened rooted taken⟩
    intro other listed
    obtain ⟨player, inside, rfl⟩ := List.mem_map.mp listed
    obtain ⟨own, own_taken, _⟩ := finished.exists_of_mem_lineage rooted taken player inside
    exact Dict.contains_iff.mpr ⟨own, own_taken⟩

theorem flat_tiers_unite_for_citizens : ∃ s b flat r update new read,
    Document.citizens.resolve = .ok s ∧ s.buildTables = .ok b ∧ b.schemas.flatten = .ok flat ∧
      b.resources.get? "Citizen" = some r ∧ flat.get? (updateKey "Citizen") = some update ∧
      flat.get? (newKey "Citizen") = some new ∧ flat.get? "Citizen" = some read ∧
      Unites b.schemas (s.ancestry r.subject) update new read := by
  have passed : Document.citizens.passes {} fun _ tables _ =>
      tables.resources.contains "Citizen" := by decide +kernel
  obtain ⟨s, tables, _, resolved, made, _, taken⟩ := Document.exists_of_passes passed
  obtain ⟨b, flat, built, flattened, rfl⟩ := Snapshot.flatTables_eq_ok_iff.mp made
  obtain ⟨r, taken⟩ := Dict.contains_iff.mp taken
  obtain ⟨_, update, new, read, unites⟩ :=
    (flat_tiers_unite resolved built flattened).2.2 "Citizen" r taken
  exact ⟨s, b, flat, r, update, new, read, resolved, built, flattened, taken, unites⟩

end ObjectRole
