import ObjectRole.Proofs.Api.Components

/-! Request bodies of the finished document. They refer to what is left of the tiers of a resource,
and that stands among the components with all its names. -/
namespace ObjectRole

open Schema

namespace Schema

variable {s : Schema} {r : Renames}

theorem target?_mapKeywords (r : Renames) (s : Schema) :
    (s.mapKeywords (·.relabel r)).target? = s.target?.map r.resolve := by
  cases s
  exact Keywords.target?_relabel r _

theorem propertyNames_mapKeywords (f : Keywords → Keywords) (s : Schema) :
    (s.mapKeywords f).propertyNames = s.propertyNames := by
  rw [propertyNames, fields_mapKeywords, Entries.mapValues, List.map_map]
  rfl

theorem requiredNames_relabel (r : Renames) (s : Schema) :
    (s.mapKeywords (·.relabel r)).requiredNames = s.requiredNames := by
  have same : (s.relabel r).required = s.required := by
    unfold Keywords.relabel
    split
    · rfl
    · dsimp only
      split <;> rfl
  rw [requiredNames, toKeywords_mapKeywords, same, requiredNames]

/-- Relabelling keeps all names. -/
theorem sameNames_relabel (r : Renames) (s : Schema) :
    SameNames (s.mapKeywords (·.relabel r)) s := by
  constructor
  · intro name
    rw [propertyNames_mapKeywords]
  · intro name
    rw [requiredNames_relabel]

/-- What holds of the names of every schema in it does so after relabelling. -/
theorem requiresOwn_relabel (r : Renames) (own : ∀ inner ∈ s.nested, inner.RequiresOwn) :
    ∀ inner ∈ (s.mapKeywords (·.relabel r)).nested, inner.RequiresOwn := by
  intro inner inside
  rw [nested_mapKeywords] at inside
  obtain ⟨old, old_inside, rfl⟩ := List.mem_map.mp inside
  obtain ⟨nodup, subset⟩ := own old old_inside
  constructor
  · rwa [requiredNames_relabel]
  · rwa [requiredNames_relabel, propertyNames_mapKeywords]

end Schema

/-- The key of the component that the body of a request refers to. -/
def Operation.bodyTarget? (o : Operation) : Option String := do
  let body ← o.requestBody
  let media ← body.content.get? "application/json"
  media.schema.target?

theorem Operation.bodyTarget?_relabel (r : Renames) (o : Operation) :
    (o.mapSchemas (·.mapKeywords (·.relabel r))).bodyTarget? = o.bodyTarget?.map r.resolve := by
  cases found : o.requestBody with
  | none => simp [bodyTarget?, Operation.mapSchemas, found]
  | some body =>
    cases media : body.content.get? "application/json" with
    | none => simp [bodyTarget?, Operation.mapSchemas, Content.mapSchemas, Dict.get?_mapValues,
        found, media]
    | some m =>
      simp [bodyTarget?, Operation.mapSchemas, Content.mapSchemas, Dict.get?_mapValues, found,
        media, target?_mapKeywords]

theorem ResourceView.bodyTarget?_update (view : ResourceView) (settings : Settings) :
    (view.update settings).bodyTarget? = some (updateKey view.key) :=
  target?_component _

theorem ResourceView.bodyTarget?_create (view : ResourceView) (settings : Settings) :
    (view.create settings).bodyTarget? = some (newKey view.key) :=
  target?_component _

theorem ResourceView.collectionPath_ne_itemPath (view : ResourceView)
    (identifier : List Parameter) : view.collectionPath ≠ view.itemPath identifier := fun same => by
  have length := congrArg (·.toList.length) same
  simp only [itemPath, String.toList_append, List.length_append] at length
  have : "/".toList.length = 1 := rfl
  omega

namespace Snapshot

/-- The effective permissions of a resource contain the permission. -/
def Permits (s : Snapshot) (settings : Settings) (r : Resource) (p : Permission) : Prop :=
  p ∈ Permission.effective (s.permissionsOf r.subject) settings.globalPermissions

instance {s : Snapshot} {settings : Settings} {r : Resource} {p : Permission} :
    Decidable (s.Permits settings r p) := inferInstanceAs (Decidable (p ∈ _))

theorem view_allows_iff {s : Snapshot} {settings : Settings} {tables : BuiltTables} {key : String}
    {r : Resource} {p : Permission} :
    (s.view settings tables (key, r)).allows p = true ↔ s.Permits settings r p :=
  List.contains_iff_mem

end Snapshot

/-- An operation that stands under a path, such as its `patch`. -/
def ApiDocument.operationAt (d : ApiDocument) (path : String)
    (slot : PathItem → Option Operation) : Option Operation :=
  (d.paths.get? path).bind slot

theorem Snapshot.compile_eq_ok_iff {s : Snapshot} {settings : Settings} {doc : ApiDocument} :
    s.compile settings = .ok doc ↔ ∃ tables y, s.flatTables = .ok tables ∧
      Synthesis.ofTables s settings tables = .ok y ∧ doc = y.document settings ∧
        doc.checkReferences = .ok () := by
  rw [compile, bind_eq_ok_iff]
  constructor
  · rintro ⟨tables, made, compiled⟩
    obtain ⟨y, ran, compiled⟩ := bind_eq_ok_iff.mp compiled
    obtain ⟨_, checked, same⟩ := bind_eq_ok_iff.mp compiled
    cases same
    exact ⟨tables, y, made, ran, rfl, checked⟩
  · rintro ⟨tables, y, made, ran, rfl, checked⟩
    exact ⟨tables, made, bind_eq_ok_iff.mpr ⟨y, ran, bind_eq_ok_iff.mpr ⟨(), checked, rfl⟩⟩⟩

/-- A document that was compiled is what the run over its flat tables left. -/
theorem Document.run_of_compile {d : Document} {s : Snapshot} {tables : BuiltTables}
    {settings : Settings} {doc : ApiDocument} (resolved : d.resolve = .ok s)
    (made : s.flatTables = .ok tables) (compiled : s.compile settings = .ok doc) :
    ∃ y, FlatTables s tables ∧ Synthesis.ofTables s settings tables = .ok y ∧
      doc = y.document settings := by
  have flat := Snapshot.flatTables_of_ok (rooted_of_resolve resolved) made
  obtain ⟨other, y, other_made, ran, finished, _⟩ := Snapshot.compile_eq_ok_iff.mp compiled
  cases made.symm.trans other_made
  exact ⟨y, flat, ran, finished⟩

/-- References to a tier are led to a tier of the same resource. -/
theorem Tiers.Collapsed.resolve_isTierOf {t : Tiers} {key tier : String} {c : TierSet}
    (collapsed : Collapsed t key c) (is_tier : IsTierOf key tier) :
    IsTierOf key (t.renames.resolve tier) := by
  have new : IsTierOf key (t.renames.resolve (newKey key)) := by
    rw [collapsed.resolve_new]
    split
    · exact .inr (.inr rfl)
    · exact .inr (.inl rfl)
  rcases is_tier with rfl | rfl | rfl
  · rw [collapsed.resolve_update]
    split
    · exact new
    · exact .inl rfl
  · exact new
  · rw [collapsed.resolve_read]
    exact .inr (.inr rfl)

/-- What is left of a tier is a component with the same names. -/
theorem FlatTables.component_at {s : Snapshot} {settings : Settings} {tables : BuiltTables}
    {y : Synthesis} {entry : String × Resource} {tier : String} {schema : Schema}
    (flat : FlatTables s tables) (listed : entry ∈ tables.resources.entries)
    (is_tier : IsTierOf entry.1 tier) (left : y.tiers.schemas.get? tier = some schema) :
    ∃ component, (y.document settings).schemas.get? tier = some component ∧
      SameNames component schema := by
  have taken := Dict.contains_of_mem listed
  have off_error : tier ≠ errorModelKey := fun same =>
    not_isTierOf_reserved (flat.unreserved taken) (.inr rfl) (same ▸ is_tier)
  have off_list : tier ≠ listModelKey := fun same =>
    not_isTierOf_reserved (flat.unreserved taken) (.inl rfl) (same ▸ is_tier)
  have found : (y.document settings).schemas.get? tier =
      some (schema.mapKeywords (·.relabel y.tiers.renames)) := by
    rw [Synthesis.get?_schemas, ApiDocument.get?_componentSchemas,
      if_neg fun both => off_error both.1, if_neg off_list, left, Option.map_some]
  exact ⟨_, found, sameNames_relabel _ schema⟩

end ObjectRole
