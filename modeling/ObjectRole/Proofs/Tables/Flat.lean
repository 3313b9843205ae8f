import ObjectRole.Proofs.Model.Supertypes
import ObjectRole.Proofs.Schema.Names
import ObjectRole.Proofs.Tables.Finished

/-! The flat tiers of a resource are nested: they have the same properties, the update tier requires
nothing, and the read tier requires what the new tier does and at most `id` besides. -/
namespace ObjectRole

open Schema

namespace SchemaMap

variable {m : SchemaMap} {s : Schema}

/-- Entries that are references to schemas of the map are what the schema inherits from. -/
theorem parentKeys_of_components {keys : List String} (entries : s.parents = keys.map component)
    (there : ∀ key ∈ keys, m.contains key) : s.parentKeys m = keys := by
  rw [parentKeys_eq, entries, List.filterMap_map]
  have each : ∀ key ∈ keys, ((component key).target?.filter m.contains) = some key := by
    intro key listed
    rw [target?_component, Option.filter_some, if_pos (there key listed)]
  exact (List.filterMap_congr each).trans List.filterMap_some

theorem inner_of_components {keys : List String} (entries : s.parents = keys.map component)
    (there : ∀ key ∈ keys, m.contains key) : m.Inner s := by
  intro entry listed
  rw [entries] at listed
  obtain ⟨key, inside, rfl⟩ := List.mem_map.mp listed
  exact ⟨key, target?_component key, there key inside⟩

end SchemaMap

namespace Finished

variable {s : Snapshot} {b : BuiltTables} {flat : SchemaMap} {key tier : String} {r : Resource}
  {parent : Player} {known : String → Prop}

variable (finished : Finished s b)
include finished

theorem contains_tier (taken : b.resources.get? key = some r) (is_tier : IsTierOf key tier) :
    b.schemas.contains tier := by
  obtain ⟨⟨_, update, _⟩, ⟨_, new, _⟩, ⟨_, read, _⟩⟩ := finished.tiers taken
  rcases is_tier with rfl | rfl | rfl
  · exact Dict.contains_iff.mpr ⟨_, update⟩
  · exact Dict.contains_iff.mpr ⟨_, new⟩
  · exact Dict.contains_iff.mpr ⟨_, read⟩

theorem contains_superTier {tierKey : String → String} (taken : b.resources.get? key = some r)
    (is_tier : ∀ key, IsTierOf key (tierKey key)) :
    ∀ tier ∈ s.superTier tierKey r.subject, b.schemas.contains tier := by
  intro tier listed
  obtain ⟨parent, above, rfl⟩ := List.mem_map.mp listed
  obtain ⟨_, parent_taken, _⟩ := finished.supertype taken (Option.mem_toList.mp above)
  exact finished.contains_tier parent_taken (is_tier _)

theorem contains_updateParents (taken : b.resources.get? key = some r) :
    ∀ tier ∈ s.superTier updateKey r.subject, b.schemas.contains tier :=
  finished.contains_superTier taken fun _ => .inl rfl

theorem contains_newParents (taken : b.resources.get? key = some r) :
    ∀ tier ∈ updateKey (s.keyOf r.subject) :: s.superTier newKey r.subject,
      b.schemas.contains tier :=
  List.forall_mem_cons.mpr ⟨finished.contains_tier taken (finished.keyed taken ▸ .inl rfl),
    finished.contains_superTier taken fun _ => .inr (.inl rfl)⟩

theorem contains_readParents (taken : b.resources.get? key = some r) :
    ∀ tier ∈ newKey (s.keyOf r.subject) :: s.superTier id r.subject, b.schemas.contains tier :=
  List.forall_mem_cons.mpr ⟨finished.contains_tier taken (finished.keyed taken ▸ .inr (.inl rfl)),
    finished.contains_superTier taken fun _ => .inr (.inr rfl)⟩

theorem parentKeys_update {update : Schema} (taken : b.resources.get? key = some r)
    (is_update : UpdateTier s known r.subject update) :
    update.parentKeys b.schemas = s.superTier updateKey r.subject :=
  SchemaMap.parentKeys_of_components is_update.parents (finished.contains_updateParents taken)

theorem parentKeys_new {new : Schema} (taken : b.resources.get? key = some r)
    (is_new : NewTier s r.subject new) :
    new.parentKeys b.schemas = updateKey key :: s.superTier newKey r.subject := by
  rw [SchemaMap.parentKeys_of_components is_new.parents (finished.contains_newParents taken),
    finished.keyed taken]

theorem parentKeys_read {read : Schema} (taken : b.resources.get? key = some r)
    (is_read : ReadTier s r.subject read) :
    read.parentKeys b.schemas = newKey key :: s.superTier id r.subject := by
  rw [SchemaMap.parentKeys_of_components is_read.parents (finished.contains_readParents taken),
    finished.keyed taken]

/-- Induction along supertypes. -/
theorem induction (rooted : s.Rooted) {motive : String → Resource → Prop}
    (step : ∀ key r, b.resources.get? key = some r →
      (∀ parent above, s.superTypeOf r.subject = some parent →
        b.resources.get? (s.keyOf parent) = some above → motive (s.keyOf parent) above) →
          motive key r) (taken : b.resources.get? key = some r) : motive key r := by
  suffices subjects : ∀ subject key r, b.resources.get? key = some r → r.subject = subject →
      motive key r from subjects r.subject key r taken rfl
  intro subject
  induction subject using rooted.wellFounded.induction with
  | _ subject ih =>
    rintro key r taken rfl
    refine step key r taken ?_
    intro parent above edge parent_taken
    obtain ⟨other, other_taken, same⟩ := finished.supertype taken edge
    cases Option.some.inj (parent_taken.symm.trans other_taken)
    exact ih parent edge _ above parent_taken same

theorem key_induction (rooted : s.Rooted) {motive : String → Prop}
    (step : ∀ key r, b.resources.get? key = some r →
      (∀ parent, s.superTypeOf r.subject = some parent → motive (s.keyOf parent)) → motive key)
    (taken : b.resources.get? key = some r) : motive key := by
  refine finished.induction rooted (motive := fun key _ => motive key) ?_ taken
  intro key r taken ih
  apply step key r taken
  intro parent edge
  obtain ⟨above, parent_taken, _⟩ := finished.supertype taken edge
  exact ih parent above edge parent_taken

/-- A tier inherits from tiers of its own table before it and from the same tier of the supertype's
table. -/
theorem grounded (rooted : s.Rooted) (taken : b.resources.get? key = some r) :
    ∀ tier, IsTierOf key tier → SchemaMap.Grounded b.schemas tier := by
  refine finished.key_induction rooted
    (motive := fun key => ∀ tier, IsTierOf key tier → SchemaMap.Grounded b.schemas tier) ?_ taken
  intro key r taken above
  obtain ⟨⟨update, update_found, is_update⟩, ⟨new, new_found, is_new⟩,
    ⟨read, read_found, is_read⟩⟩ := finished.tiers taken
  have update_grounded : SchemaMap.Grounded b.schemas (updateKey key) := by
    apply SchemaMap.grounded_of_parents update_found
    intro tier listed
    rw [finished.parentKeys_update taken is_update] at listed
    obtain ⟨parent, edge, rfl⟩ := List.mem_map.mp listed
    exact above parent (Option.mem_toList.mp edge) _ (.inl rfl)
  have new_grounded : SchemaMap.Grounded b.schemas (newKey key) := by
    apply SchemaMap.grounded_of_parents new_found
    intro tier listed
    rw [finished.parentKeys_new taken is_new] at listed
    rcases List.mem_cons.mp listed with rfl | later
    · exact update_grounded
    · obtain ⟨parent, edge, rfl⟩ := List.mem_map.mp later
      exact above parent (Option.mem_toList.mp edge) _ (.inr (.inl rfl))
  rintro tier (rfl | rfl | rfl)
  · exact update_grounded
  · exact new_grounded
  · apply SchemaMap.grounded_of_parents read_found
    intro tier listed
    rw [finished.parentKeys_read taken is_read] at listed
    rcases List.mem_cons.mp listed with rfl | later
    · exact new_grounded
    · obtain ⟨parent, edge, rfl⟩ := List.mem_map.mp later
      exact above parent (Option.mem_toList.mp edge) _ (.inr (.inr rfl))

theorem acyclic (rooted : s.Rooted) : SchemaMap.Acyclic b.schemas := by
  refine ⟨fun tier => .intro tier ?_⟩
  intro parent inherits
  obtain ⟨schema, found, listed⟩ := inherits
  obtain ⟨key, taken, is_tier⟩ := finished.covered (Dict.contains_iff.mpr ⟨schema, found⟩)
  obtain ⟨r, taken⟩ := Dict.contains_iff.mp taken
  exact (finished.grounded rooted taken tier is_tier).inv ⟨schema, found, listed⟩

/-- What every schema of a table is. -/
theorem forall_schemas {P : Schema → Prop}
    (update : ∀ key r tier, b.resources.get? key = some r →
      UpdateTier s (b.resources.contains ·) r.subject tier → P tier)
    (new : ∀ key r tier, b.resources.get? key = some r → NewTier s r.subject tier → P tier)
    (read : ∀ key r tier, b.resources.get? key = some r → ReadTier s r.subject tier → P tier) :
    ∀ tier schema, b.schemas.get? tier = some schema → P schema := by
  intro tier schema found
  obtain ⟨key, taken, is_tier⟩ := finished.covered (Dict.contains_iff.mpr ⟨schema, found⟩)
  obtain ⟨r, taken⟩ := Dict.contains_iff.mp taken
  obtain ⟨⟨_, update_found, is_update⟩, ⟨_, new_found, is_new⟩, ⟨_, read_found, is_read⟩⟩ :=
    finished.tiers taken
  rcases is_tier with rfl | rfl | rfl
  · cases Option.some.inj (found.symm.trans update_found)
    exact update _ _ _ taken is_update
  · cases Option.some.inj (found.symm.trans new_found)
    exact new _ _ _ taken is_new
  · cases Option.some.inj (found.symm.trans read_found)
    exact read _ _ _ taken is_read

end Finished

/-- What holds of every flat schema. -/
structure FlatTier (b : BuiltTables) (tier : Schema) : Prop where
  tidy : tier.Tidy
  plain : tier.Plain
  allOf : tier.allOf = none
  coherent : ∀ entry ∈ tier.fields, entry.2.Coherent
  knows : ∀ entry ∈ tier.fields, ∀ target ∈ entry.2.targets, b.resources.contains target

theorem FlatTier.neat {b : BuiltTables} {tier : Schema} (flat : FlatTier b tier) : tier.Neat :=
  flat.plain.neat flat.allOf flat.tidy.fields fun entry listed => (flat.coherent entry listed).neat

theorem FlatTier.parents {b : BuiltTables} {tier : Schema} (flat : FlatTier b tier) :
    tier.parents = [] := by
  rw [Schema.parents, flat.allOf, Option.getD_none]

namespace Finished

variable {s : Snapshot} {b : BuiltTables} {flat : SchemaMap} {key tier : String} {r : Resource}
  {P : Schema → Prop} {known : String → Prop} (finished : Finished s b)
  (flattened : b.schemas.flatten = .ok flat)
include finished flattened

theorem flatTier {schema : Schema} (found : flat.get? tier = some schema) : FlatTier b schema := by
  have tidy := SchemaMap.flatten_forall SchemaMap.hereditary_tidy
    (finished.forall_schemas
      (fun _ _ _ _ update => ⟨update.ordered, update.requiredNames ▸ .nil⟩)
      (fun _ _ _ _ new => ⟨new.fields ▸ .nil, new.nodup⟩)
      fun _ _ _ _ read => ⟨read.fields ▸ .nil, read.nodup⟩) flattened tier schema found
  have plain := SchemaMap.flatten_forall SchemaMap.hereditary_plain
    (finished.forall_schemas (fun _ _ _ _ update => update.plain) (fun _ _ _ _ new => new.plain)
      fun _ _ _ _ read => read.plain) flattened tier schema found
  have inherits := SchemaMap.flatten_forall SchemaMap.hereditary_inherits
    (finished.forall_schemas (fun _ _ _ _ update => update.inherits)
      (fun _ _ _ _ new => allOf_ne_of_parents new.parents)
      fun _ _ _ _ read => allOf_ne_of_parents read.parents)
    flattened tier schema found
  have coherent := SchemaMap.flatten_forall (SchemaMap.hereditary_fields Coherent)
    (finished.forall_schemas (fun _ _ _ _ update => update.coherent)
      (fun _ _ _ _ new => new.forall_fields) fun _ _ _ _ read => read.forall_fields)
    flattened tier schema found
  have knows := SchemaMap.flatten_forall
    (SchemaMap.hereditary_fields fun p => ∀ target ∈ p.targets, b.resources.contains target)
    (finished.forall_schemas (fun _ _ _ _ update => update.knows)
      (fun _ _ _ _ new => new.forall_fields) fun _ _ _ _ read => read.forall_fields)
    flattened tier schema found
  have inner := SchemaMap.flatten_forall (SchemaMap.hereditary_inner b.schemas)
    (finished.forall_schemas
      (fun _ _ _ taken update =>
        SchemaMap.inner_of_components update.parents (finished.contains_updateParents taken))
      (fun _ _ _ taken new =>
        SchemaMap.inner_of_components new.parents (finished.contains_newParents taken))
      fun _ _ _ taken read =>
        SchemaMap.inner_of_components read.parents (finished.contains_readParents taken))
    flattened tier schema found
  have flattens := SchemaMap.flattens_of_flatten flattened
  have parents := inner.parents_eq_nil (flattens.parentKeys_eq_nil found)
  exact ⟨tidy, plain, allOf_eq_none inherits parents, coherent, knows⟩

omit finished in
/-- Flattening loses no tier. -/
theorem exists_flat (tiers : TableTiers s known b.schemas key r.subject) : ∃ update new read,
    flat.get? (updateKey key) = some update ∧ flat.get? (newKey key) = some new ∧
      flat.get? key = some read := by
  have flattens := SchemaMap.flattens_of_flatten flattened
  obtain ⟨⟨_, update_built, _⟩, ⟨_, new_built, _⟩, ⟨_, read_built, _⟩⟩ := tiers
  obtain ⟨_, update, _, _, update_found⟩ := flattens.settles update_built
  obtain ⟨_, new, _, _, new_found⟩ := flattens.settles new_built
  obtain ⟨_, read, _, _, read_found⟩ := flattens.settles read_built
  exact ⟨update, new, read, update_found, new_found, read_found⟩

variable (rooted : s.Rooted) (collected : Accumulates P) (taken : b.resources.get? key = some r)
include rooted collected taken

theorem says_update : flat.Says P (updateKey key) ↔ b.schemas.Says P (updateKey key) ∨
    ∃ parent, s.superTypeOf r.subject = some parent ∧
      flat.Says P (updateKey (s.keyOf parent)) := by
  obtain ⟨update, found, is_update⟩ := (finished.tiers taken).update
  rw [(SchemaMap.flattens_of_flatten flattened).says_iff (finished.acyclic rooted) collected found,
    finished.parentKeys_update taken is_update, SchemaMap.says_iff found]
  simp only [Snapshot.superTier, List.mem_map, Option.mem_toList, exists_exists_and_eq_and]

theorem says_new : flat.Says P (newKey key) ↔ b.schemas.Says P (newKey key) ∨
    flat.Says P (updateKey key) ∨ ∃ parent, s.superTypeOf r.subject = some parent ∧
      flat.Says P (newKey (s.keyOf parent)) := by
  obtain ⟨new, found, is_new⟩ := (finished.tiers taken).new
  rw [(SchemaMap.flattens_of_flatten flattened).says_iff (finished.acyclic rooted) collected found,
    finished.parentKeys_new taken is_new, SchemaMap.says_iff found, List.exists_mem_cons_iff]
  simp only [Snapshot.superTier, List.mem_map, Option.mem_toList, exists_exists_and_eq_and]

theorem says_read : flat.Says P key ↔ b.schemas.Says P key ∨ flat.Says P (newKey key) ∨
    ∃ parent, s.superTypeOf r.subject = some parent ∧ flat.Says P (s.keyOf parent) := by
  obtain ⟨read, found, is_read⟩ := (finished.tiers taken).read
  rw [(SchemaMap.flattens_of_flatten flattened).says_iff (finished.acyclic rooted) collected found,
    finished.parentKeys_read taken is_read, SchemaMap.says_iff found, List.exists_mem_cons_iff]
  simp only [Snapshot.superTier, List.mem_map, Option.mem_toList, exists_exists_and_eq_and, id]

end Finished
end ObjectRole
