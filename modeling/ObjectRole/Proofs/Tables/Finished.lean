import ObjectRole.Proofs.Except
import ObjectRole.Proofs.Tables.Tiers

/-! Finished tables: each resource has its three tiers, its supertype is a resource, too, and no
other schemas are there. -/
namespace ObjectRole

/-- What holds of the tables of a model. -/
structure Finished (s : Snapshot) (b : BuiltTables) : Prop where
  keyed : ∀ {key r}, b.resources.get? key = some r → s.keyOf r.subject = key
  tiers : ∀ {key r}, b.resources.get? key = some r →
    TableTiers s (b.resources.contains ·) b.schemas key r.subject
  supertype : ∀ {key r parent}, b.resources.get? key = some r →
    s.superTypeOf r.subject = some parent →
      ∃ above, b.resources.get? (s.keyOf parent) = some above ∧ above.subject = parent
  covered : ∀ {tier}, b.schemas.contains tier → ∃ key, b.resources.contains key ∧ IsTierOf key tier
  apart : Apart (b.resources.contains ·)
  unreserved : ∀ {key}, b.resources.contains key → key ≠ listModelKey ∧ key ≠ errorModelKey

namespace Snapshot

variable {s : Snapshot} {b : BuiltTables} {t : Tables} {key : String} {subject : Player}

theorem checkKey_ok (checked : s.checkKey t key subject = .ok ()) :
    (key ≠ listModelKey ∧ key ≠ errorModelKey) ∧ ∀ tier ∈ [newKey key, updateKey key, whereKey key],
      t.subjects.get? tier = none := by
  rw [checkKey] at checked
  split at checked
  · cases checked
  · rename_i free
    constructor
    · simpa [reservedKeys, listModelKey, errorModelKey] using free
    · intro tier listed
      have passed := forM_eq_ok_iff.mp checked tier listed
      split at passed
      · cases passed
      · rename_i none_there
        exact none_there

theorem phase_lt (shape : Shape) : phase shape < 5 := by
  cases shape <;> simp [phase]

theorem mem_phased {shapes : List (FactTypeId × Shape)} {entry : FactTypeId × Shape} :
    entry ∈ phased shapes ↔ entry ∈ shapes := by
  simp only [phased, List.mem_flatMap, List.mem_range, List.mem_filter, beq_iff_eq]
  constructor
  · rintro ⟨_, _, listed, _⟩
    exact listed
  · exact fun listed => ⟨_, phase_lt entry.2, listed, rfl⟩

/-- The tables of a model are what all its fact types, each by its shape, leave of no tables. -/
theorem exists_run_of_buildTables (built : s.buildTables = .ok b) : ∃ shapes t,
    s.orderedFactTypes.mapM (fun id => (id, ·) <$> s.shapeOf id) = .ok shapes ∧
      Build.Yields (s.addFacts shapes) {} () t ∧ s.finishTables t = .ok b := by
  rw [buildTables] at built
  obtain ⟨shapes, shaped, built⟩ := bind_eq_ok_iff.mp built
  obtain ⟨_, ran, built⟩ := bind_eq_ok_iff.mp built
  have yields : Build.Yields (s.addFacts shapes) {} () (s.addFacts shapes |>.run.run {}).2 :=
    Prod.ext ran rfl
  exact ⟨shapes, _, shaped, yields, built⟩

/-- Tables that passed all checks, and what they are made into. -/
structure Closes (s : Snapshot) (t : Tables) (b : BuiltTables) : Prop where
  checked : ∀ {key subject}, t.subjects.get? key = some subject →
    s.checkKey t key subject = .ok ()
  schemas : b.schemas = t.schemas
  resources : ∀ key, (b.resources.get? key).map (·.subject) = t.subjects.get? key

theorem closes_of_finishTables (finished : s.finishTables t = .ok b) : Closes s t b := by
  rw [finishTables] at finished
  obtain ⟨_, checked, finished⟩ := bind_eq_ok_iff.mp finished
  cases finished
  refine ⟨?_, rfl, ?_⟩
  · intro key subject taken
    exact forM_eq_ok_iff.mp checked (_, _) (Dict.get?_eq_some_iff.mp taken)
  · intro key
    dsimp only
    rw [t.subjects.get?_ofList_map fun key player => (⟨player, (t.identifying.get? key).getD [],
      (s.superTypeOf player).map s.keyOf⟩ : Resource), Option.map_map]
    exact congrFun Option.map_id _

namespace Closes

variable {r : Resource} (closes : Closes s t b)
include closes

theorem subject_taken (found : b.resources.get? key = some r) :
    t.subjects.get? key = some r.subject := by
  rw [← closes.resources, found, Option.map_some]

theorem exists_resource (taken : t.subjects.get? key = some subject) :
    ∃ r, b.resources.get? key = some r ∧ r.subject = subject := by
  rw [← closes.resources] at taken
  exact Option.map_eq_some_iff.mp taken

theorem contains_eq (key : String) : b.resources.contains key = t.subjects.contains key := by
  rw [Dict.contains_eq_isSome, Dict.contains_eq_isSome, ← closes.resources, Option.isSome_map]

theorem apart : Apart (t.subjects.contains ·) := by
  intro key other key_taken other_taken
  obtain ⟨player, taken⟩ := Dict.contains_iff.mp key_taken
  obtain ⟨owner, other_taken⟩ := Dict.contains_iff.mp other_taken
  have none_at := (checkKey_ok (closes.checked other_taken)).2
  refine ⟨?_, ?_, ?_⟩ <;>
    · rintro rfl
      rw [none_at _ (by simp)] at taken
      contradiction

end Closes

theorem finished_of_buildTables (built : s.buildTables = .ok b) : Finished s b := by
  obtain ⟨shapes, t, _, ran, finished⟩ := exists_run_of_buildTables built
  have grows := addFacts_grows ran
  have sound := sound_start.reaches grows.reaches
  have closes := closes_of_finishTables finished
  have known : (fun key => b.resources.contains key = true) =
      fun key => t.subjects.contains key = true := by
    funext key
    rw [closes.contains_eq]
  constructor
  case keyed =>
    intro key r found
    exact sound.keyed (closes.subject_taken found)
  case tiers =>
    intro key r found
    rw [known, closes.schemas]
    exact sound.tiers closes.apart (closes.subject_taken found)
  case supertype =>
    intro key r parent found above
    rcases grows.settled (closes.subject_taken found) with earlier | settled
    · cases earlier
    · exact closes.exists_resource (settled.supertype parent above)
  case covered =>
    intro tier listed
    rw [closes.schemas] at listed
    obtain ⟨key, taken, is_tier⟩ := sound.covered listed
    exact ⟨key, (closes.contains_eq key).trans taken, is_tier⟩
  case apart =>
    rw [known]
    exact closes.apart
  case unreserved =>
    intro key taken
    rw [closes.contains_eq] at taken
    obtain ⟨player, taken⟩ := Dict.contains_iff.mp taken
    exact (checkKey_ok (closes.checked taken)).1

end Snapshot
end ObjectRole
