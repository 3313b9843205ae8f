import ObjectRole.Proofs.Api.Demanded
import ObjectRole.Proofs.Tables.Backed

/-! What a finished document requires are properties. Flattening has brought together what tiers
require and have, folding keeps the names of tiers, and identifiers that are written inline require
what they are made of. Nothing else in a document requires anything. -/
namespace ObjectRole

open Schema

/-- A flat tier that has what it requires is coherent at any depth. -/
theorem FlatTier.whole {b : BuiltTables} {tier : Schema} (flat : FlatTier b tier)
    (own : tier.requiredNames ⊆ tier.propertyNames) : tier.Coherent := by
  rw [coherent_iff, flat.plain.items, flat.plain.oneOf]
  exact ⟨flat.allOf, ⟨flat.tidy.fields, flat.tidy.required, own⟩, flat.coherent, nofun, nofun⟩

variable {d : Document} {s : Snapshot} {settings : Settings} {doc : ApiDocument}

/-- Every schema of a compiled document, at any depth, requires properties of its own, and none
twice. -/
theorem compile_requires_own (resolved : d.resolve = .ok s)
    (compiled : s.compile settings = .ok doc) : ∀ placed ∈ doc.placedSchemas,
      ∀ inner ∈ placed.2.nested, inner.requiredNames.Nodup ∧
        ∀ name ∈ inner.requiredNames, name ∈ inner.propertyNames := by
  have rooted := Document.rooted_of_resolve resolved
  obtain ⟨tables, _, made, _⟩ := Snapshot.compile_eq_ok_iff.mp compiled
  obtain ⟨y, flat, ran, rfl⟩ := Document.run_of_compile resolved made compiled
  have progress := Progress.of_ofTables flat ran
  intro placed member
  rw [Synthesis.document, ApiDocument.relabel, ApiDocument.placedSchemas_mapSchemas] at member
  obtain ⟨old, old_member, rfl⟩ := List.mem_map.mp member
  have own : ∀ inner ∈ old.2.nested, inner.RequiresOwn := by
    rcases progress.placed_cases flat old_member with light | ⟨entry, listed, tier, is_tier, found⟩
    · exact light.requiresOwn
    · obtain ⟨flat_tier, within⟩ := progress.flatTier flat found listed is_tier
      have read := Snapshot.flat_read_own rooted made (Dict.contains_of_mem listed)
      exact fun inner inside => (flat_tier.whole (within.own read) inner inside).2.2
  intro inner inside
  obtain ⟨nodup, subset⟩ := requiresOwn_relabel y.tiers.renames own inner inside
  exact ⟨nodup, fun name listed => subset listed⟩

theorem compile_requires_own_of_members : ∃ s doc, Document.members.resolve = .ok s ∧
    s.compile {} = .ok doc ∧ (∃ placed ∈ doc.placedSchemas, "age" ∈ placed.2.requiredNames) ∧
      ∀ placed ∈ doc.placedSchemas, ∀ inner ∈ placed.2.nested, inner.requiredNames.Nodup ∧
        ∀ name ∈ inner.requiredNames, name ∈ inner.propertyNames := by
  have passed : Document.members.passes {} fun _ _ doc =>
      decide (∃ placed ∈ doc.placedSchemas, "age" ∈ placed.2.requiredNames) := by decide +kernel
  obtain ⟨s, _, doc, resolved, _, compiled, demanded⟩ := Document.exists_of_passes passed
  exact ⟨s, doc, resolved, compiled, of_decide_eq_true demanded,
    compile_requires_own resolved compiled⟩

end ObjectRole
