import ObjectRole.Proofs.Api.Operations
import ObjectRole.Proofs.Api.Totality

/-! What the request of an update demands in the finished document. Its properties are those of the
update tier. The tier that it refers to may have been folded twice, though: into the new tier as
both require nothing, and with that into the read tier as nothing is created. Then an update demands
`id` if that is required where the resource is read. -/
namespace ObjectRole

open Schema

variable {d : Document} {s : Snapshot} {tables : BuiltTables} {settings : Settings}
  {doc : ApiDocument} {key : String} {r : Resource}

/-- The update of a resource stands under the path of the items, unless a later resource takes that.
It has the properties of its update tier and demands at most `id`. It demands what the update tier
does if and only if creation is permitted, or something is required of new ones, or nothing is of
those that are read. -/
theorem compile_patch_names (resolved : d.resolve = .ok s) (made : s.flatTables = .ok tables)
    (compiled : s.compile settings = .ok doc) (taken : tables.resources.get? key = some r)
    (permitted : s.Permits settings r .update) :
    ∃ patch target component,
      patch.operationId = s!"patch-{(s.view settings tables (key, r)).itemName}" ∧
      patch.bodyTarget? = some target ∧ doc.schemas.get? target = some component ∧
      (doc.operationAt ((s.view settings tables (key, r)).itemPath (tables.identifier (key, r)))
          (·.patch) = some patch ∨
        s.Overtaken settings tables ((key, r), .update)) ∧
      (∀ name, name ∈ component.propertyNames ↔
        name ∈ (tables.schema (updateKey key)).propertyNames) ∧
      (∀ name ∈ component.requiredNames, name = "id") ∧
      (SameNames component (tables.schema (updateKey key)) ↔ s.Permits settings r .create ∨
        (tables.schema (newKey key)).requiredNames ≠ [] ∨
          (tables.schema key).requiredNames = []) := by
  obtain ⟨y, flat, ran, rfl⟩ := Document.run_of_compile resolved made compiled
  have progress := Progress.of_ofTables flat ran
  have listed : (key, r) ∈ tables.resources.entries := Dict.get?_eq_some_iff.mp taken
  have used : (s.tierSet settings tables (key, r)).patchUsed = true :=
    Snapshot.view_allows_iff.mpr permitted
  have tiers := flat.tierSet_flat settings listed
  have collapsed := progress.collapsed (key, r) listed
  have refers : (((s.view settings tables (key, r)).update settings).mapSchemas
      (·.mapKeywords (·.relabel y.tiers.renames))).bodyTarget? =
        some (y.tiers.renames.resolve (updateKey key)) := by
    rw [Operation.bodyTarget?_relabel, ResourceView.bodyTarget?_update]
    rfl
  have is_asked : ((key, r), Action.update) ∈ s.asked settings tables :=
    Snapshot.mem_asked.mpr ⟨listed, permitted⟩
  obtain ⟨component, found, same⟩ := flat.component_at listed
    (collapsed.resolve_isTierOf (.inl rfl)) collapsed.get?_patching
  refine ⟨_, _, component, rfl, refers, found,
    Snapshot.stands_or_overtaken flat ran is_asked, ?_, ?_, ?_⟩
  · intro name
    exact (same.properties name).trans (tiers.patching_properties name)
  · intro name demanded
    exact tiers.patching_requires used name ((same.required name).mp demanded)
  · have creates : (s.tierSet settings tables (key, r)).postUsed = true ↔
        s.Permits settings r .create := Snapshot.view_allows_iff
    rw [← creates]
    constructor
    · intro names
      exact (tiers.patching_sameNames_iff used).mp (same.symm.trans names)
    · intro holds
      exact same.trans ((tiers.patching_sameNames_iff used).mpr holds)

/-- Customers can be read and updated, but not created. -/
def Document.customers : Document where
  nouns := [
    { name := "Customer", referenceScheme := ["CustomerId"], permissions := some [.read, .update] },
    { name := "CustomerId", objectType := .value }]
  factTypes := [{ readings := [.text "Customer is active"] }]

theorem compile_patch_names_of_customers : ∃ s tables doc r,
    Document.customers.resolve = .ok s ∧ s.flatTables = .ok tables ∧ s.compile {} = .ok doc ∧
      tables.resources.get? "Customer" = some r ∧ s.Permits {} r .update ∧
      ∃ (patch : Operation) (target : String) (component : Schema),
        patch.bodyTarget? = some target ∧ doc.schemas.get? target = some component ∧
        ∀ name ∈ component.requiredNames, name = "id" := by
  have passed : Document.customers.passes {} fun s tables _ =>
      (tables.resources.get? "Customer").any (s.Permits {} · .update) := by decide +kernel
  obtain ⟨s, tables, doc, resolved, made, compiled, permitted⟩ := Document.exists_of_passes passed
  obtain ⟨r, taken, permitted⟩ := (Option.any_eq_true _ _).mp permitted
  have permitted : s.Permits {} r .update := of_decide_eq_true permitted
  obtain ⟨patch, target, component, _, refers, found, _, _, demands, _⟩ :=
    compile_patch_names resolved made compiled taken permitted
  exact ⟨s, tables, doc, r, resolved, made, compiled, taken, permitted, patch, target, component,
    refers, found, demands⟩

/-- The update of a customer demands `id`, though the update tier requires nothing. -/
theorem customers_patch_demands_id : ∃ s tables doc, Document.customers.resolve = .ok s ∧
    s.flatTables = .ok tables ∧ s.compile {} = .ok doc ∧
      (tables.resources.get? "Customer").any (s.Permits {} · .update) ∧
      (doc.operationAt "/customers/\x7bid\x7d" (·.patch)).bind (·.bodyTarget?) =
        some "Customer" ∧
      (doc.schemas.get? "Customer").map (·.requiredNames) = some ["id"] ∧
      (tables.schema (updateKey "Customer")).requiredNames = [] := by
  have passed : Document.customers.passes {} fun s tables doc =>
      (tables.resources.get? "Customer").any (s.Permits {} · .update) &&
      (doc.operationAt "/customers/\x7bid\x7d" (·.patch)).bind (·.bodyTarget?) ==
        some "Customer" &&
      (doc.schemas.get? "Customer").map (·.requiredNames) == some ["id"] &&
      (tables.schema (updateKey "Customer")).requiredNames == [] := by decide +kernel
  obtain ⟨s, tables, doc, resolved, made, compiled, checked⟩ := Document.exists_of_passes passed
  simp only [Bool.and_eq_true, beq_iff_eq] at checked
  obtain ⟨⟨⟨permitted, refers⟩, demands⟩, requires⟩ := checked
  exact ⟨s, tables, doc, resolved, made, compiled, permitted, refers, demands, requires⟩

end ObjectRole
