import ObjectRole.Proofs.Api.References
import ObjectRole.Proofs.Api.Synthesis
import ObjectRole.Proofs.Api.Targets

/-! The components of a finished document. Every key that the document refers to is led to one of
them: tiers to what is left of their resource, and filters and models to themselves. -/
namespace ObjectRole

open Schema

namespace ApiDocument

variable {settings : Settings} {schemas : SchemaMap} {key : String}

theorem get?_componentSchemas (settings : Settings) (schemas : SchemaMap) (key : String) :
    (componentSchemas settings schemas).get? key =
      if key = errorModelKey ∧ settings.errorShape.isSome then
        settings.errorShape.map Schema.ofExample
      else if key = listModelKey then some listModel else schemas.get? key := by
  rw [componentSchemas]
  cases settings.errorShape with
  | none => simp [Dict.get?_insert]
  | some template =>
    simp only [Dict.get?_insert, Option.isSome_some, and_true, Option.map_some]

theorem contains_componentSchemas (there : schemas.contains key) :
    (componentSchemas settings schemas).contains key := by
  rw [Dict.contains_eq_isSome, get?_componentSchemas]
  split
  · rename_i both
    rw [Option.isSome_map]
    exact both.2
  · split
    · rfl
    · exact there

theorem contains_listModel (settings : Settings) (schemas : SchemaMap) :
    (componentSchemas settings schemas).contains listModelKey := by
  have other : listModelKey ≠ errorModelKey := by decide
  rw [Dict.contains_eq_isSome, get?_componentSchemas, if_neg fun both => other both.1, if_pos rfl]
  rfl

theorem contains_errorModel (shaped : settings.errorShape.isSome) (schemas : SchemaMap) :
    (componentSchemas settings schemas).contains errorModelKey := by
  rw [Dict.contains_eq_isSome, get?_componentSchemas, if_pos ⟨rfl, shaped⟩, Option.isSome_map]
  exact shaped

end ApiDocument

open ApiDocument

/-- The finished document of a run. -/
def Synthesis.document (settings : Settings) (y : Synthesis) : ApiDocument :=
  (ApiDocument.ofSynthesis settings y).relabel y.tiers.renames

theorem Synthesis.get?_paths (settings : Settings) (y : Synthesis) (path : String) :
    (y.document settings).paths.get? path =
      (y.paths.get? path).map (·.mapSchemas (·.mapKeywords (·.relabel y.tiers.renames))) :=
  Dict.get?_mapValues ..

theorem Synthesis.get?_schemas (settings : Settings) (y : Synthesis) (key : String) :
    (y.document settings).schemas.get? key =
      ((componentSchemas settings y.tiers.schemas).get? key).map
        (·.mapKeywords (·.relabel y.tiers.renames)) :=
  Dict.get?_mapValues ..

/-- A flat tier refers to resources only. -/
theorem FlatTier.refers {tables : BuiltTables} {schema : Schema} (tier : FlatTier tables schema) :
    schema.RefersWithin (tables.resources.contains ·) := by
  intro target member
  rcases mem_targets.mp member with own | ⟨entry, inside, member⟩ | ⟨_, none, _⟩ |
    ⟨_, none, _⟩ | ⟨_, none, _⟩
  · rw [Keywords.target?_of_reference_eq_none tier.plain.reference] at own
    contradiction
  · exact tier.knows entry inside target member
  · rw [tier.plain.items] at none
    contradiction
  · rw [tier.parents] at none
    contradiction
  · rw [tier.plain.oneOf] at none
    contradiction

/-- A reference to the key is led to a component of the finished document. -/
def Leads (settings : Settings) (y : Synthesis) (key : String) : Prop :=
  (componentSchemas settings y.tiers.schemas).contains (y.tiers.renames.resolve key)

namespace FlatTables

variable {s : Snapshot} {settings : Settings} {tables : BuiltTables} {entry : String × Resource}
  {tier : String}

theorem tierSet_flat (flat : FlatTables s tables) (settings : Settings)
    (listed : entry ∈ tables.resources.entries) :
    (s.tierSet settings tables entry).Flat tables :=
  have taken := Dict.contains_of_mem listed
  ⟨flat.nested taken, (flat.tiers taken (.inl rfl)).2, (flat.tiers taken (.inr (.inl rfl))).2,
    (flat.tiers taken (.inr (.inr rfl))).2⟩

end FlatTables

namespace Progress

variable {s : Snapshot} {settings : Settings} {tables : BuiltTables} {y : Synthesis}
  {entry : String × Resource} {key tier : String} {schema : Schema}

section Finished

variable (flat : FlatTables s tables)
  (progress : Progress s settings tables tables.resources.entries y)
include flat progress

/-- What is left of a tier is flat, and has the properties that are read and requires no others. -/
theorem flatTier (found : y.tiers.schemas.get? tier = some schema)
    (listed : entry ∈ tables.resources.entries) (is_tier : IsTierOf entry.1 tier) :
    FlatTier tables schema ∧ Within schema (tables.schema entry.1) := by
  have set := flat.tierSet_flat settings listed
  rcases (progress.collapsed entry listed).tier_cases is_tier found with rfl | rfl | rfl
  · exact ⟨set.update, set.nested.update_new.trans set.nested.new_read⟩
  · exact ⟨set.creating_flat, set.creating_read⟩
  · exact ⟨set.reading_flat, set.reading_sameNames.within⟩

omit flat in
theorem leads_read (taken : tables.resources.contains key) : Leads settings y key := by
  obtain ⟨r, taken⟩ := Dict.contains_iff.mp taken
  have collapsed := progress.collapsed (key, r) (Dict.get?_eq_some_iff.mp taken)
  refine contains_componentSchemas ?_
  rw [collapsed.resolve_read, Dict.contains_eq_isSome, collapsed.read]
  rfl

/-- References to the models that every document has are not led on. -/
theorem resolve_reserved (is_reserved : key = listModelKey ∨ key = errorModelKey) :
    y.tiers.renames.resolve key = key :=
  Renames.resolve_of_none <| progress.renames key fun _ taken =>
    not_isTierOf_reserved (flat.unreserved taken) is_reserved

theorem leads_reserved (is_reserved : key = listModelKey ∨ key = errorModelKey)
    (there : (componentSchemas settings y.tiers.schemas).contains key) : Leads settings y key := by
  rw [Leads, resolve_reserved flat progress is_reserved]
  exact there

theorem leads_filter (listed : entry ∈ tables.resources.entries)
    (allowed : (s.view settings tables entry).allows .list) :
    Leads settings y (whereKey entry.1) := by
  have unrenamed := progress.renames (whereKey entry.1) fun owner taken =>
    flat.apart.not_isTierOf_whereKey taken (Dict.contains_of_mem listed)
  refine contains_componentSchemas ?_
  rw [Renames.resolve_of_none unrenamed, Dict.contains_eq_isSome,
    progress.filters entry listed allowed]
  rfl

/-- The operations of a resource refer to keys that lead somewhere. -/
theorem known (listed : entry ∈ tables.resources.entries) :
    (s.view settings tables entry).Known settings (Leads settings y) where
  read := leads_read progress (Dict.contains_of_mem listed)
  new := contains_componentSchemas <| by
    rw [Dict.contains_eq_isSome]
    exact Option.isSome_of_eq_some (progress.collapsed entry listed).get?_posting
  update := contains_componentSchemas <| by
    rw [Dict.contains_eq_isSome]
    exact Option.isSome_of_eq_some (progress.collapsed entry listed).get?_patching
  filter := leads_filter flat progress listed
  listModel := leads_reserved flat progress (.inl rfl) (contains_listModel settings _)
  errorModel shaped := leads_reserved flat progress (.inr rfl) (contains_errorModel shaped _)

/-- A component is what is left of a tier, or it requires and inherits nothing. -/
theorem component_cases (found : (componentSchemas settings y.tiers.schemas).get? key =
    some schema) : schema.Bare (Leads settings y) ∨ ∃ entry ∈ tables.resources.entries,
      IsTierOf entry.1 key ∧ y.tiers.schemas.get? key = some schema := by
  rw [get?_componentSchemas] at found
  split at found
  · obtain ⟨template, _, rfl⟩ := Option.map_eq_some_iff.mp found
    exact .inl (bare_ofExample template)
  split at found
  · cases found
    exact .inl composes_bare.listModel
  · rcases progress.covered key schema found with ⟨owner, taken, is_tier⟩ |
      ⟨entry, listed, allowed, rfl⟩
    · obtain ⟨r, taken⟩ := Dict.contains_iff.mp taken
      exact .inr ⟨(owner, r), Dict.get?_eq_some_iff.mp taken, is_tier, found⟩
    · rw [progress.filters entry listed allowed] at found
      cases found
      exact .inl (composes_bare.filter (.component (leads_filter flat progress listed allowed)) _)

/-- A schema of the document is what is left of a tier, or it requires nothing. -/
theorem placed_cases {placed : String × Schema}
    (member : placed ∈ (ApiDocument.ofSynthesis settings y).placedSchemas) :
    placed.2.Light (Leads settings y) ∨ ∃ entry ∈ tables.resources.entries, ∃ tier,
      IsTierOf entry.1 tier ∧ y.tiers.schemas.get? tier = some placed.2 := by
  rcases List.mem_append.mp member with component | path
  · obtain ⟨⟨key, schema⟩, listed, rfl⟩ := List.mem_map.mp component
    have found := Dict.get?_eq_some_iff.mpr listed
    rcases component_cases flat progress found with bare | ⟨entry, listed, is_tier, found⟩
    · exact .inl bare.light
    · exact .inr ⟨entry, listed, key, is_tier, found⟩
  · obtain ⟨⟨path, item⟩, listed, member⟩ := List.mem_flatMap.mp path
    obtain ⟨entry, done, offers⟩ := progress.paths path item (Dict.get?_eq_some_iff.mpr listed)
    have meets := (known flat progress done).meets
    rcases offers with ⟨_, collection⟩ | ⟨_, one⟩
    · exact .inl (meets.collectionItem collection path placed member)
    · exact .inl (meets.item (idParameters_typed _ _) one path placed member)

/-- Every reference of the document is led to a component. -/
theorem references_lead : ∀ placed ∈ (ApiDocument.ofSynthesis settings y).placedSchemas,
    placed.2.RefersWithin (Leads settings y) := by
  intro placed member
  rcases placed_cases flat progress member with light | ⟨entry, listed, tier, is_tier, found⟩
  · exact light.refers
  · have flat_tier := (flatTier flat progress found listed is_tier).1
    intro target inside
    exact leads_read progress (flat_tier.refers target inside)

/-- The finished document passes the check of its references. -/
theorem checkReferences_ok : (y.document settings).checkReferences = .ok () :=
  checkReferences_relabel (references_lead flat progress)

end Finished
end Progress
end ObjectRole
