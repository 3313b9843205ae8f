import ObjectRole.Proofs.Schema.Targets
import ObjectRole.Proofs.Tables.Nested
import ObjectRole.Proofs.Tables.Opened

/-! No schema is overwritten. While tables are built every schema carries the key that it is kept
under, and a table that is open has all its tiers; clashes that may come up on the way are found
when the tables are finished. What is left then are the tiers of the resources, all under keys of
their own, and references lead to them. Each subject that a table was opened for is a resource. -/
namespace ObjectRole

namespace Tables

variable {s : Snapshot} {t u : Tables} {key tier : String} {f : Schema → Schema}

/-- Open tables have their tiers, and schemas carry their keys. -/
structure Labelled (t : Tables) : Prop where
  there : ∀ {key tier}, t.subjects.contains key → IsTierOf key tier → t.schemas.contains tier
  id : ∀ {tier schema}, t.schemas.get? tier = some schema → schema.id = some tier

theorem Labelled.change (labelled : Labelled t) (taken : t.subjects.contains key)
    (is_tier : IsTierOf key tier) (keeps : ∀ schema, (f schema).id = schema.id) :
    Labelled (t.change tier f) := by
  obtain ⟨schema, found⟩ := Dict.contains_iff.mp (labelled.there taken is_tier)
  constructor
  case there =>
    intro key other taken is_tier
    rw [Dict.contains_eq_isSome, get?_change]
    split
    · rfl
    · rw [← Dict.contains_eq_isSome]
      exact labelled.there taken is_tier
  case id =>
    intro other own own_found
    rw [get?_change, found, Option.getD_some] at own_found
    split at own_found
    · rename_i same
      cases own_found
      rw [keeps, same]
      exact labelled.id found
    · exact labelled.id own_found

theorem Labelled.opens (labelled : Labelled t) (subject : Player) :
    Labelled (t.openTable s subject) := by
  constructor
  case there =>
    intro key tier taken is_tier
    rw [Dict.contains_eq_isSome, get?_schemas_openTable]
    repeat' split
    any_goals rfl
    rename_i not_read not_new not_update
    rw [Dict.contains_eq_isSome, get?_subjects_openTable] at taken
    split at taken
    · rename_i same
      subst same
      rcases is_tier with rfl | rfl | rfl <;> contradiction
    · rw [← Dict.contains_eq_isSome] at taken ⊢
      exact labelled.there taken is_tier
  case id =>
    intro tier schema found
    rw [get?_schemas_openTable] at found
    split at found
    · rename_i same
      cases found
      rw [same]
      rfl
    split at found
    · rename_i same
      cases found
      rw [same]
      rfl
    split at found
    · rename_i same
      cases found
      rw [same, Snapshot.updateTier]
      split <;> rfl
    · exact labelled.id found

theorem id_withSample (schema : Schema) (name : String) (sample : Json) :
    (withSample schema name sample).id = schema.id := by
  rw [withSample]
  split <;> rfl

theorem Labelled.step (labelled : Labelled t) (step : Step s t u) : Labelled u := by
  cases step with
  | opens => exact labelled.opens _
  | holds taken => exact labelled.change taken (.inl rfl) fun _ => rfl
  | requires taken => exact labelled.change taken (isTierOf_requiringKey ..) fun _ => rfl
  | samples taken => exact labelled.change taken (.inl rfl) fun _ => id_withSample ..
  | identifies => exact ⟨labelled.there, labelled.id⟩

theorem Labelled.reaches (labelled : Labelled t) (reaches : Reaches s t u) : Labelled u := by
  induction reaches with
  | refl => exact labelled
  | tail _ step ih => exact ih.step step

end Tables

/-- The keys that stand for a resource: those of its tiers and of its filter. -/
def resourceKeys (key : String) : List String := [key, newKey key, updateKey key, whereKey key]

section Keys

variable {taken : String → Prop} {key other name : String}

theorem mem_resourceKeys : name ∈ resourceKeys key ↔ IsTierOf key name ∨ name = whereKey key := by
  simp only [resourceKeys, List.mem_cons, List.not_mem_nil, or_false, IsTierOf]
  tauto

variable (apart : Apart taken) (taken_key : taken key)
include apart taken_key

theorem nodup_resourceKeys : (resourceKeys key).Nodup := by
  obtain ⟨not_new, not_update, not_where⟩ := apart key key taken_key taken_key
  simp only [resourceKeys, List.nodup_cons, List.mem_cons, List.not_mem_nil, or_false, not_or]
  exact ⟨⟨not_new, not_update, not_where⟩, ⟨newKey_ne_updateKey, whereKey_ne_newKey.symm⟩,
    whereKey_ne_updateKey.symm, not_false, List.nodup_nil⟩

/-- Different resources share no key. -/
theorem disjoint_resourceKeys (taken_other : taken other) (distinct : key ≠ other) :
    (resourceKeys key).Disjoint (resourceKeys other) := by
  intro name of_key of_other
  rcases mem_resourceKeys.mp of_key with is_tier | rfl <;>
    rcases mem_resourceKeys.mp of_other with other_tier | same
  · exact distinct (apart.tier_unique taken_key taken_other is_tier other_tier)
  · exact apart.not_isTierOf_whereKey taken_key taken_other (same ▸ is_tier)
  · exact apart.not_isTierOf_whereKey taken_other taken_key other_tier
  · exact distinct (whereKey_inj.mp same)

end Keys

namespace BuiltTables

/-- The keys of all components that a document may have. -/
def componentKeys (b : BuiltTables) : List String :=
  b.resources.keys.flatMap resourceKeys ++ [listModelKey, errorModelKey]

/-- Schemas are told apart: every schema is a tier of a resource and carries its own key, no two
resources are about one subject or share a key, and references lead to schemas. -/
structure Separate (b : BuiltTables) : Prop where
  keys : ∀ tier, b.schemas.contains tier ↔ ∃ key, b.resources.contains key ∧ IsTierOf key tier
  id : ∀ tier schema, b.schemas.get? tier = some schema → schema.id = some tier
  subjects : ∀ key other r q, b.resources.get? key = some r → b.resources.get? other = some q →
    r.subject = q.subject → key = other
  distinct : b.componentKeys.Nodup
  references : ∀ tier schema, b.schemas.get? tier = some schema →
    ∀ target ∈ schema.targets, b.schemas.contains target

end BuiltTables

namespace Finished

variable {s : Snapshot} {b : BuiltTables} (finished : Finished s b)
include finished

theorem nodup_componentKeys : b.componentKeys.Nodup := by
  have taken {key : String} (listed : key ∈ b.resources.keys) : b.resources.contains key :=
    Dict.contains_iff.mpr (Dict.mem_keys_iff.mp listed)
  have resources : (b.resources.keys.flatMap resourceKeys).Nodup := by
    have distinct : b.resources.keys.Pairwise (· ≠ ·) :=
      b.resources.keys_ordered.imp fun before => String.ne_of_lt before
    refine List.nodup_flatMap.mpr ⟨fun key listed => ?_, distinct.imp_of_mem ?_⟩
    · exact nodup_resourceKeys finished.apart (taken listed)
    · intro key other listed other_listed distinct
      exact disjoint_resourceKeys finished.apart (taken listed) (taken other_listed) distinct
  rw [BuiltTables.componentKeys, List.nodup_append]
  refine ⟨resources, by decide, ?_⟩
  rintro name listed reserved is_reserved rfl
  obtain ⟨key, key_listed, of_key⟩ := List.mem_flatMap.mp listed
  have is_reserved : name = listModelKey ∨ name = errorModelKey := by simpa using is_reserved
  rcases mem_resourceKeys.mp of_key with is_tier | is_filter
  · exact not_isTierOf_reserved (finished.unreserved (taken key_listed)) is_reserved is_tier
  · exact (reserved_ne is_reserved).2.2 is_filter

/-- A tier refers to tiers: by its properties to read tiers, by what it inherits to its own and
those of the supertype. -/
theorem references_lead {target : String} : ∀ tier schema, b.schemas.get? tier = some schema →
    target ∈ schema.targets → b.schemas.contains target := by
  have inherited {schema : Schema} {keys : List String} (plain : schema.Plain)
      (parents : schema.parents = keys.map Schema.component)
      (there : ∀ key ∈ keys, b.schemas.contains key)
      (fields : ∀ entry ∈ schema.fields, ∀ target ∈ entry.2.targets, b.resources.contains target)
      (listed : target ∈ schema.targets) : b.schemas.contains target := by
    rcases Schema.mem_targets.mp listed with own | ⟨entry, inside, listed⟩ | ⟨item, is_item, _⟩ |
      ⟨entry, inside, listed⟩ | ⟨option, is_option, _⟩
    · rw [Keywords.target?_of_reference_eq_none plain.reference] at own
      contradiction
    · obtain ⟨r, taken⟩ := Dict.contains_iff.mp (fields entry inside target listed)
      exact finished.contains_tier taken (.inr (.inr rfl))
    · rw [plain.items] at is_item
      contradiction
    · rw [parents] at inside
      obtain ⟨key, key_listed, rfl⟩ := List.mem_map.mp inside
      rw [Schema.targets_component, List.mem_singleton] at listed
      exact listed ▸ there key key_listed
    · rw [plain.oneOf] at is_option
      contradiction
  refine finished.forall_schemas ?_ ?_ ?_
  · intro key r tier taken update
    exact inherited update.plain update.parents (finished.contains_updateParents taken) update.knows
  · intro key r tier taken new
    exact inherited new.plain new.parents (finished.contains_newParents taken) new.forall_fields
  · intro key r tier taken read
    exact inherited read.plain read.parents (finished.contains_readParents taken)
      read.forall_fields

end Finished

namespace Snapshot

variable {s : Snapshot} {b : BuiltTables}

/-- Where tables can be built at all, no schema took the place of another. Schemas are told apart,
and the subjects that have tables are those of the resources, each under its own key. -/
theorem separate_of_buildTables (built : s.buildTables = .ok b) : b.Separate ∧
    ∀ subject, s.HasTable subject ↔
      ∃ r, b.resources.get? (s.keyOf subject) = some r ∧ r.subject = subject := by
  refine ⟨?_, fun subject => hasTable_iff built⟩
  have finished := finished_of_buildTables built
  obtain ⟨shapes, t, _, ran, closed⟩ := exists_run_of_buildTables built
  have empty : Tables.Labelled {} :=
    ⟨fun taken => by contradiction, fun found => by contradiction⟩
  have labelled := empty.reaches (addFacts_grows ran).reaches
  constructor
  case keys =>
    refine fun tier => ⟨finished.covered, ?_⟩
    rintro ⟨key, taken, is_tier⟩
    obtain ⟨r, taken⟩ := Dict.contains_iff.mp taken
    exact finished.contains_tier taken is_tier
  case id =>
    rw [(closes_of_finishTables closed).schemas]
    exact fun tier schema found => labelled.id found
  case subjects =>
    intro key other r q found other_found same
    rw [← finished.keyed found, same, finished.keyed other_found]
  case distinct => exact finished.nodup_componentKeys
  case references =>
    exact fun tier schema found target => finished.references_lead tier schema found

end Snapshot

namespace Document

theorem citizens_separate : ∃ s b, citizens.resolve = .ok s ∧ s.buildTables = .ok b ∧
    b.Separate := by
  have passed : citizens.passes {} fun _ _ _ => true := by decide +kernel
  obtain ⟨s, tables, _, resolved, made, _, _⟩ := exists_of_passes passed
  obtain ⟨b, _, built, _, _⟩ := Snapshot.flatTables_eq_ok_iff.mp made
  exact ⟨s, b, resolved, built, (Snapshot.separate_of_buildTables built).1⟩

end Document

end ObjectRole
