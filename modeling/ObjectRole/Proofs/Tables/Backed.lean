import ObjectRole.Proofs.Tables.United
import ObjectRole.Proofs.Tables.Written

/-! What a tier requires is a property. On the tables that are built the two stand apart: the update
tier has the properties, and the new tier or the read tier requires them. A name is required of a
table only once it has a property of that name, and properties stay; so flat tiers, which have the
properties of all update tiers up the supertypes, have whatever they require. -/
namespace ObjectRole

open Schema

/-- What the tiers of a key require are properties of its update tier. -/
def Backed (schemas : SchemaMap) (key : String) : Prop := ∀ tier, IsTierOf key tier → ∀ name,
  schemas.Says (name ∈ ·.requiredNames) tier →
    schemas.Says (name ∈ ·.propertyNames) (updateKey key)

namespace Tables

variable {s : Snapshot} {t u : Tables} {key tier name : String}

/-- A change of a schema that may require a name of it, under a condition. -/
theorem requires_of_change {f : Schema → Schema} {other : String} {Q : Prop}
    (adds : ∀ schema, name ∈ (f schema).requiredNames → name ∈ schema.requiredNames ∨ Q)
    (demand : (t.change other f).schemas.Says (name ∈ ·.requiredNames) tier) :
    t.schemas.Says (name ∈ ·.requiredNames) tier ∨ tier = other ∧ Q := by
  obtain ⟨schema, found, listed⟩ := demand
  rw [get?_change] at found
  split at found
  · rename_i same
    cases found
    rcases adds _ listed with old | extra
    · cases there : t.schemas.get? other with
      | none =>
        rw [there] at old
        contradiction
      | some own =>
        rw [there] at old
        exact .inl ⟨own, same ▸ there, old⟩
    · exact .inr ⟨same, extra⟩
  · exact .inl ⟨schema, found, listed⟩

/-- A change of a schema that requires what the schema did. -/
theorem requires_of_same {f : Schema → Schema} {other : String}
    (same : ∀ schema, (f schema).requiredNames = schema.requiredNames)
    (demand : (t.change other f).schemas.Says (name ∈ ·.requiredNames) tier) :
    t.schemas.Says (name ∈ ·.requiredNames) tier := by
  rcases requires_of_change (Q := False) (fun schema listed => .inl (same schema ▸ listed)) demand
    with before | ⟨_, none⟩
  · exact before
  · contradiction

/-- What a tier of an open table requires after a single change was required before, or else it is a
property. -/
theorem Step.requires_cases (step : Step s t u) (apart : Apart (u.subjects.contains ·))
    (taken : t.subjects.contains key) (is_tier : IsTierOf key tier)
    (demand : u.schemas.Says (name ∈ ·.requiredNames) tier) :
    t.schemas.Says (name ∈ ·.requiredNames) tier ∨
      t.schemas.Says (name ∈ ·.propertyNames) (updateKey key) := by
  cases step with
  | opens free =>
    obtain ⟨schema, found, listed⟩ := demand
    rw [get?_schemas_openTable_of_not_tier (not_isTierOf_opened free apart taken is_tier)] at found
    exact .inl ⟨schema, found, listed⟩
  | holds => exact .inl (requires_of_same (f := (·.withProperty _ _)) (fun _ => rfl) demand)
  | @requires owner _ owned there =>
    rcases requires_of_change (fun _ => mem_requiredNames_require.mp) demand with before |
      ⟨here, rfl⟩
    · exact .inl before
    · rw [here] at is_tier
      cases apart.tier_unique taken owned is_tier (isTierOf_requiringKey owner _)
      exact .inr there
  | samples =>
    exact .inl (requires_of_same (fun schema => (withSample_names schema _ _).2) demand)
  | identifies => exact .inl demand

/-- A table requires nothing when it is opened. -/
theorem backed_opened (t : Tables) (subject : Player) :
    Backed (t.openTable s subject).schemas (s.keyOf subject) := by
  rintro tier is_tier name ⟨schema, found, listed⟩
  suffices none : schema.requiredNames = [] by
    rw [none] at listed
    contradiction
  rw [get?_schemas_openTable] at found
  split at found
  · cases found
    rfl
  split at found
  · cases found
    rfl
  split at found
  · cases found
    exact (UpdateTier.opened s (fun _ => True) subject).requiredNames
  · rcases is_tier with rfl | rfl | rfl <;> contradiction

/-- A table that is open after a single change was open before or requires nothing. -/
theorem Step.taken_cases (step : Step s t u) (taken : u.subjects.contains key) :
    t.subjects.contains key ∨ Backed u.schemas key := by
  cases step with
  | @opens subject =>
    rw [Dict.contains_eq_isSome, get?_subjects_openTable] at taken
    split at taken
    · rename_i same
      exact .inr (same ▸ backed_opened t subject)
    · exact .inl (Dict.contains_eq_isSome .. ▸ taken)
  | holds | requires | samples | identifies => exact .inl taken

/-- A single change requires only what is there. -/
theorem Step.backed (step : Step s t u) (apart : Apart (u.subjects.contains ·))
    (backed : ∀ key, t.subjects.contains key → Backed t.schemas key) :
    ∀ key, u.subjects.contains key → Backed u.schemas key := by
  intro key taken
  rcases step.taken_cases taken with taken | opened
  · intro tier is_tier name demand
    have there : t.schemas.Says (name ∈ ·.propertyNames) (updateKey key) := by
      rcases step.requires_cases apart taken is_tier demand with before | there
      · exact backed key taken tier is_tier name before
      · exact there
    exact step.retains (lasting_propertyNames name) apart taken (.inl rfl) there
  · exact opened

/-- A run requires only what is there. -/
theorem Reaches.backed (reaches : Reaches s t u) (apart : Apart (u.subjects.contains ·))
    (backed : ∀ key, t.subjects.contains key → Backed t.schemas key) :
    ∀ key, u.subjects.contains key → Backed u.schemas key := by
  induction reaches with
  | refl => exact backed
  | tail _ step ih =>
    exact step.backed apart (ih (apart.mono fun _ taken => Reaches.contains (.single step) taken))

end Tables

namespace Snapshot

variable {s : Snapshot} {b tables : BuiltTables} {key : String}

/-- Built tables require of their properties only. -/
theorem backed_of_buildTables (built : s.buildTables = .ok b)
    (taken : b.resources.contains key) : Backed b.schemas key := by
  obtain ⟨_, t, _, ran, finished⟩ := exists_run_of_buildTables built
  have closes := closes_of_finishTables finished
  rw [closes.schemas]
  refine (addFacts_grows ran).reaches.backed closes.apart ?_ key ?_
  · exact fun key taken => by contradiction
  · rwa [← closes.contains_eq]

/-- Where a resource is read, what is required of it are its properties: a demand that comes from a
supertype comes with the property. -/
theorem flat_read_own (rooted : s.Rooted) (made : s.flatTables = .ok tables)
    (taken : tables.resources.contains key) :
    (tables.schema key).requiredNames ⊆ (tables.schema key).propertyNames := by
  obtain ⟨b, flat, built, flattened, rfl⟩ := flatTables_eq_ok_iff.mp made
  obtain ⟨r, taken⟩ := Dict.contains_iff.mp taken
  have finished := finished_of_buildTables built
  have backed : ∀ other ∈ s.ancestry r.subject, Backed b.schemas other := by
    intro other inside
    obtain ⟨player, listed, rfl⟩ := List.mem_map.mp inside
    obtain ⟨own, own_taken, _⟩ := finished.exists_of_mem_lineage rooted taken player listed
    exact backed_of_buildTables built (Dict.contains_iff.mpr ⟨own, own_taken⟩)
  obtain ⟨update, new, read, _, _, found, unites⟩ :=
    finished.exists_unites flattened rooted taken
  have read_eq : BuiltTables.schema { b with schemas := flat } key = read :=
    BuiltTables.schema_eq found
  rw [read_eq]
  intro name required
  rw [unites.properties read (by simp)]
  rcases (unites.read_requires name).mp required with ⟨other, inside, demand⟩ |
    ⟨other, inside, demand⟩
  · exact ⟨other, inside, backed other inside _ (.inr (.inl rfl)) name demand⟩
  · exact ⟨other, inside, backed other inside _ (.inr (.inr rfl)) name demand⟩

end Snapshot
end ObjectRole
