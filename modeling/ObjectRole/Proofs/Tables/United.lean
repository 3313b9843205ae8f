import ObjectRole.Proofs.Tables.Nearest

/-! The flat tiers of a resource in terms of the built ones. Each has the properties of all update
tiers up the supertypes. The update tier requires nothing, the new tier what all new tiers require,
and the read tier that and what all read tiers require. -/
namespace ObjectRole

open Schema

/-- The flat tiers of a resource unite what the built tiers of some keys have. -/
structure Unites (built : SchemaMap) (keys : List String) (update new read : Schema) : Prop where
  properties : ∀ tier ∈ [update, new, read], ∀ name, name ∈ tier.propertyNames ↔
    ∃ key ∈ keys, built.Says (name ∈ ·.propertyNames) (updateKey key)
  update_requires : update.requiredNames = []
  new_requires : ∀ name, name ∈ new.requiredNames ↔
    ∃ key ∈ keys, built.Says (name ∈ ·.requiredNames) (newKey key)
  read_requires : ∀ name, name ∈ read.requiredNames ↔
    (∃ key ∈ keys, built.Says (name ∈ ·.requiredNames) (newKey key)) ∨
      ∃ key ∈ keys, built.Says (name ∈ ·.requiredNames) key

namespace Finished

variable {s : Snapshot} {b : BuiltTables} {flat : SchemaMap} {key name : String} {r : Resource}
  {P : Schema → Prop} (finished : Finished s b)
include finished

theorem exists_ancestor_iff (rooted : s.Rooted) (taken : b.resources.get? key = some r)
    {Q : String → Prop} : (∃ other ∈ s.ancestry r.subject, Q other) ↔ Q key ∨
      ∃ parent, s.superTypeOf r.subject = some parent ∧ ∃ other ∈ s.ancestry parent, Q other := by
  rw [rooted.ancestry_eq, finished.keyed taken, List.exists_mem_cons_iff]
  cases s.superTypeOf r.subject <;> simp

/-- What holds of a key or passes on from the supertype holds of some key up the supertypes. -/
theorem iff_exists_ancestor {F Q : String → Prop} (rooted : s.Rooted)
    (passes : ∀ key r, b.resources.get? key = some r → (F key ↔ Q key ∨
      ∃ parent, s.superTypeOf r.subject = some parent ∧ F (s.keyOf parent)))
    (taken : b.resources.get? key = some r) : F key ↔ ∃ other ∈ s.ancestry r.subject, Q other := by
  refine finished.induction rooted
    (motive := fun key r => F key ↔ ∃ other ∈ s.ancestry r.subject, Q other) ?_ taken
  intro key r taken above
  rw [passes key r taken, finished.exists_ancestor_iff rooted taken]
  refine or_congr_right (exists_congr fun parent => and_congr_right fun edge => ?_)
  obtain ⟨r, parent_taken, rfl⟩ := finished.supertype taken edge
  exact above r.subject r edge parent_taken

variable (flattened : b.schemas.flatten = .ok flat) (rooted : s.Rooted)
  (taken : b.resources.get? key = some r)
include flattened rooted taken

/-- What a flat update tier has stands in an update tier up the supertypes. -/
theorem says_update_iff (collected : Accumulates P) : flat.Says P (updateKey key) ↔
    ∃ other ∈ s.ancestry r.subject, b.schemas.Says P (updateKey other) :=
  finished.iff_exists_ancestor (F := (flat.Says P <| updateKey ·)) rooted
    (fun _ _ taken => finished.says_update flattened rooted collected taken) taken

theorem new_requires_iff : flat.Says (name ∈ ·.requiredNames) (newKey key) ↔
    ∃ other ∈ s.ancestry r.subject, b.schemas.Says (name ∈ ·.requiredNames) (newKey other) := by
  refine finished.iff_exists_ancestor
    (F := (flat.Says (name ∈ ·.requiredNames) <| newKey ·)) rooted ?_ taken
  intro key r taken
  have nothing : ¬flat.Says (name ∈ ·.requiredNames) (updateKey key) :=
    finished.update_requires flattened rooted taken
  rw [finished.says_new flattened rooted (accumulates_required name) taken, or_iff_right nothing]

theorem read_requires_iff : flat.Says (name ∈ ·.requiredNames) key ↔
    flat.Says (name ∈ ·.requiredNames) (newKey key) ∨
      ∃ other ∈ s.ancestry r.subject, b.schemas.Says (name ∈ ·.requiredNames) other := by
  refine finished.induction rooted (motive := fun key r =>
    flat.Says (name ∈ ·.requiredNames) key ↔ flat.Says (name ∈ ·.requiredNames) (newKey key) ∨
      ∃ other ∈ s.ancestry r.subject, b.schemas.Says (name ∈ ·.requiredNames) other) ?_ taken
  intro key r taken above
  have collected := accumulates_required name
  have inherited : ∀ parent, s.superTypeOf r.subject = some parent →
      flat.Says (name ∈ ·.requiredNames) (newKey (s.keyOf parent)) →
        flat.Says (name ∈ ·.requiredNames) (newKey key) := fun parent edge holds =>
    (finished.says_new flattened rooted collected taken).mpr (.inr (.inr ⟨parent, edge, holds⟩))
  rw [finished.says_read flattened rooted collected taken,
    finished.exists_ancestor_iff rooted taken]
  constructor
  · rintro (own | created | ⟨parent, edge, holds⟩)
    · exact .inr (.inl own)
    · exact .inl created
    · obtain ⟨r, parent_taken, rfl⟩ := finished.supertype taken edge
      rcases (above r.subject r edge parent_taken).mp holds with created | further
      · exact .inl (inherited _ edge created)
      · exact .inr (.inr ⟨_, edge, further⟩)
  · rintro (created | own | ⟨parent, edge, further⟩)
    · exact .inr (.inl created)
    · exact .inl own
    · obtain ⟨r, parent_taken, rfl⟩ := finished.supertype taken edge
      have holds := (above r.subject r edge parent_taken).mpr (.inr further)
      exact .inr (.inr ⟨_, edge, holds⟩)

/-- The flat tiers of a resource unite the built ones of it and its supertypes. -/
theorem exists_unites : ∃ update new read, flat.get? (updateKey key) = some update ∧
    flat.get? (newKey key) = some new ∧ flat.get? key = some read ∧
      Unites b.schemas (s.ancestry r.subject) update new read := by
  obtain ⟨update, new, read, update_found, new_found, read_found, nested⟩ :=
    finished.exists_nested flattened rooted taken
  have updated : ∀ name, name ∈ update.propertyNames ↔ ∃ other ∈ s.ancestry r.subject,
      b.schemas.Says (name ∈ ·.propertyNames) (updateKey other) := fun name =>
    (SchemaMap.says_iff update_found).symm.trans
      (finished.says_update_iff flattened rooted taken (accumulates_propertyNames name))
  have created : ∀ name, name ∈ new.requiredNames ↔ ∃ other ∈ s.ancestry r.subject,
      b.schemas.Says (name ∈ ·.requiredNames) (newKey other) := fun name =>
    (SchemaMap.says_iff (P := (name ∈ ·.requiredNames)) new_found).symm.trans
      (finished.new_requires_iff flattened rooted taken)
  refine ⟨update, new, read, update_found, new_found, read_found, ?_, nested.update_requires,
    created, ?_⟩
  · intro tier listed name
    rw [← updated]
    rcases List.mem_cons.mp listed with rfl | outer
    · rfl
    · rcases List.mem_pair.mp outer with rfl | rfl
      · exact (nested.update_new.properties name).symm
      · exact ((nested.update_new.trans nested.new_read).properties name).symm
  · intro name
    rw [← created, ← SchemaMap.says_iff (P := (name ∈ ·.requiredNames)) new_found,
      ← SchemaMap.says_iff (P := (name ∈ ·.requiredNames)) read_found]
    exact finished.read_requires_iff flattened rooted taken

end Finished
end ObjectRole
