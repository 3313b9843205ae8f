import ObjectRole.Proofs.Api.Bodies
import ObjectRole.Proofs.Tables.United
import ObjectRole.Proofs.Tables.Written

/-! What a model demands of a subject is demanded by the finished document, of the subject and of
all its subtypes: an `id` where it is read, and every other name where it is created. -/
namespace ObjectRole

open Schema

namespace Snapshot

variable {s : Snapshot} {b tables : BuiltTables} {player subject : Player} {key name : String}
  {r : Resource}

/-- One step or more up the supertypes, or none, leads from a subject to another. -/
abbrev IsA (s : Snapshot) : Player → Player → Prop :=
  Relation.ReflTransGen fun child parent => s.superTypeOf child = some parent

theorem Rooted.mem_lineage (rooted : s.Rooted) (is_a : s.IsA player subject) :
    subject ∈ s.lineage player := by
  induction is_a using Relation.ReflTransGen.head_induction_on with
  | refl =>
    rw [rooted.lineage_eq]
    exact .head _
  | head above _ ih =>
    rw [rooted.lineage_eq, above]
    exact .tail _ ih

/-- The flat tiers of a resource demand what a model demands of it or a supertype. -/
theorem flat_demands (rooted : s.Rooted) (made : s.flatTables = .ok tables)
    (demands : s.Demands subject name) (taken : tables.resources.get? key = some r)
    (is_a : s.IsA r.subject subject) : name ∈ (tables.schema (newKey key)).propertyNames ∧
      name ∈ (tables.schema (if name = "id" then key else newKey key)).requiredNames := by
  obtain ⟨b, flat, built, flattened, rfl⟩ := flatTables_eq_ok_iff.mp made
  have finished := finished_of_buildTables built
  have listed := rooted.mem_lineage is_a
  obtain ⟨own, own_taken, same⟩ := finished.exists_of_mem_lineage rooted taken subject listed
  have demanded := demanded_of_demands built demands own_taken same
  have inside : s.keyOf subject ∈ s.ancestry r.subject := List.mem_map_of_mem listed
  obtain ⟨update, new, read, _, new_found, read_found, unites⟩ :=
    finished.exists_unites flattened rooted taken
  have new_eq : BuiltTables.schema { b with schemas := flat } (newKey key) = new :=
    BuiltTables.schema_eq new_found
  have read_eq : BuiltTables.schema { b with schemas := flat } key = read :=
    BuiltTables.schema_eq read_found
  refine ⟨?_, ?_⟩
  · rw [new_eq, unites.properties new (by simp)]
    exact ⟨_, inside, demanded.property⟩
  · have required := demanded.required
    unfold Tables.requiringKey at required
    split at required
    · rename_i is_id
      rw [if_pos is_id, read_eq, unites.read_requires]
      exact .inr ⟨_, inside, required⟩
    · rename_i no_id
      rw [if_neg no_id, new_eq, unites.new_requires]
      exact ⟨_, inside, required⟩

end Snapshot

/-- What creation refers to in the end demands what the new tier does. -/
theorem TierSet.Flat.new_within_posting {b : BuiltTables} {c : TierSet} (flat : c.Flat b) :
    Within c.new c.posting := by
  rw [posting]
  split
  · exact flat.nested.new_read.trans flat.reading_sameNames.symm.within
  · exact flat.creating_sameNames.symm.within

/-- A fact of a subject has a name, and the subject is a resource. -/
def BuiltTables.HasFact (tables : BuiltTables) (s : Snapshot) (subject : Player)
    (name : Except CompileError String) : Prop :=
  (∃ n, name = .ok n) ∧
    ∃ r, tables.resources.get? (s.keyOf subject) = some r ∧ r.subject = subject

theorem Snapshot.Adds.hasFact {s : Snapshot} {b : BuiltTables} {flat : SchemaMap} {t : Tables}
    {subject : Player} {name : String} {required : Bool} (adds : s.Adds subject name required {} t)
    (closes : s.Closes t b) : BuiltTables.HasFact ⟨flat, b.resources⟩ s subject (.ok name) :=
  ⟨⟨name, rfl⟩, closes.exists_resource adds.open_at⟩

variable {d : Document} {s : Snapshot} {tables : BuiltTables} {settings : Settings}
  {doc : ApiDocument}

/-- Functional and unary fact types have names and make resources of their owners. What is demanded
of a subject, by its identifiers or by its mandatory facts, is a property and required of every
resource that is one: in what is read if it is called `id`, and otherwise in what the new tier was
folded into. -/
theorem compile_demands (resolved : d.resolve = .ok s) (made : s.flatTables = .ok tables)
    (compiled : s.compile settings = .ok doc) :
    (∀ f ∈ s.factTypes, ∀ owner value, s.shapeOf f.id = .ok (.functional owner value) →
      tables.HasFact s (s.playerOf owner) (s.functionalName s.pattern f.id owner value)) ∧
    (∀ f ∈ s.factTypes, ∀ role, s.shapeOf f.id = .ok (.unary role) →
      tables.HasFact s (s.playerOf role) (s.unaryName s.pattern f.id role)) ∧
    ∃ y, Synthesis.ofTables s settings tables = .ok y ∧ doc = y.document settings ∧
      ∀ subject name key r, s.Demands subject name → tables.resources.get? key = some r →
        s.IsA r.subject subject → ∃ component, doc.schemas.get?
          (if name = "id" then key else y.tiers.renames.resolve (newKey key)) = some component ∧
            name ∈ component.propertyNames ∧ name ∈ component.requiredNames := by
  have rooted := Document.rooted_of_resolve resolved
  obtain ⟨b, flattened, built, _, rfl⟩ := Snapshot.flatTables_eq_ok_iff.mp made
  refine ⟨?_, ?_, ?_⟩
  · intro f listed owner value shaped
    obtain ⟨name, t, named, adds, closes⟩ := Snapshot.exists_adds_functional built listed shaped
    exact named ▸ adds.hasFact closes
  · intro f listed role shaped
    obtain ⟨name, t, named, adds, closes⟩ := Snapshot.exists_adds_unary built listed shaped
    exact named ▸ adds.hasFact closes
  obtain ⟨y, flat, ran, rfl⟩ := Document.run_of_compile resolved made compiled
  refine ⟨y, ran, rfl, ?_⟩
  intro subject name key r demands taken is_a
  obtain ⟨property, required⟩ := Snapshot.flat_demands rooted made demands taken is_a
  have listed := Dict.get?_eq_some_iff.mp taken
  have collapsed := (Progress.of_ofTables flat ran).collapsed (key, r) listed
  have tiers := flat.tierSet_flat settings listed
  split
  · rename_i is_id
    rw [if_pos is_id] at required
    obtain ⟨component, found, same⟩ :=
      flat.component_at listed (.inr (.inr rfl)) collapsed.read
    have names := same.trans tiers.reading_sameNames
    have read := (tiers.nested.new_read.properties name).mp property
    exact ⟨component, found, (names.properties name).mpr read, (names.required name).mpr required⟩
  · rename_i no_id
    rw [if_neg no_id] at required
    obtain ⟨component, found, same⟩ := flat.component_at listed
      (collapsed.resolve_isTierOf (.inr (.inl rfl))) collapsed.get?_posting
    have within := tiers.new_within_posting.trans same.symm.within
    exact ⟨component, found, (within.properties name).mp property, within.required required⟩

/-- Members are persons, who have an age and go by their e-mail address. Members pay. -/
def Document.members : Document where
  nouns := [
    { name := "Person", referenceScheme := ["Email"] },
    { name := "Member", superType := some "Person" },
    { name := "Email", objectType := .value },
    { name := "Age", objectType := .value, valueType := some .integer }]
  factTypes := [
    { readings := [.text "Person has Age"], relationship := some .manyToOne },
    { readings := [.text "Member pays"] }]
  constraints := [
    { kind := .mandatory, roles := [⟨"Person has Age", .index 0⟩] },
    { kind := .mandatory, roles := [⟨"Member pays", .index 0⟩] }]

theorem compile_demands_of_members : ∃ s tables doc y component,
    Document.members.resolve = .ok s ∧ s.flatTables = .ok tables ∧ s.compile {} = .ok doc ∧
      Synthesis.ofTables s {} tables = .ok y ∧ s.Demands (.noun ⟨0⟩) "age" ∧
      doc.schemas.get? (y.tiers.renames.resolve (newKey "Member")) = some component ∧
      "age" ∈ component.propertyNames ∧ "age" ∈ component.requiredNames := by
  have passed : Document.members.passes {} fun s tables _ =>
      decide ((∃ f ∈ s.factTypes, f.id = ⟨0⟩) ∧
        (s.shapeOf ⟨0⟩).toOption = some (.functional ⟨0⟩ ⟨1⟩) ∧
        s.playerOf ⟨0⟩ = .noun ⟨0⟩ ∧ s.roleHas .mandatory ⟨0⟩ = true ∧
        (s.functionalName s.pattern ⟨0⟩ ⟨0⟩ ⟨1⟩).toOption = some "age" ∧
        s.superTypeOf (.noun ⟨1⟩) = some (.noun ⟨0⟩) ∧
        (tables.resources.get? "Member").map (·.subject) = some (.noun ⟨1⟩)) := by decide +kernel
  obtain ⟨s, tables, doc, resolved, made, compiled, checked⟩ := Document.exists_of_passes passed
  obtain ⟨⟨f, listed, is_first⟩, shaped, player, mandatory, named, above, taken⟩ :=
    of_decide_eq_true checked
  obtain ⟨r, taken, subject⟩ := Option.map_eq_some_iff.mp taken
  have demands : s.Demands (s.playerOf ⟨0⟩) "age" := by
    rw [← is_first] at shaped named
    exact .functional listed (eq_ok_of_toOption shaped) (.inl mandatory) (eq_ok_of_toOption named)
  rw [player] at demands
  have is_a : s.IsA r.subject (.noun ⟨0⟩) := .single (subject ▸ above)
  obtain ⟨_, _, y, ran, rfl, all⟩ := compile_demands resolved made compiled
  obtain ⟨component, found, property, required⟩ := all _ _ _ _ demands taken is_a
  rw [if_neg (by decide)] at found
  exact ⟨s, tables, _, y, component, resolved, made, compiled, ran, demands, found, property,
    required⟩

end ObjectRole
