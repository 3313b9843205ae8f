import ObjectRole.Proofs.Tables.United
import ObjectRole.Proofs.Tables.Written

/-! What identifies a resource. The names that are listed for it are properties of its update tier,
and all properties of tiers can be unpacked. Where a resource lists none, those of the nearest
supertype that does stand in. -/
namespace ObjectRole

open Schema

namespace Tables

variable {s : Snapshot} {t u : Tables} {key name : String}

/-- Every property of every tier can identify an item. -/
def FieldsIdentify (schemas : SchemaMap) : Prop :=
  ∀ tier schema, schemas.get? tier = some schema → ∀ entry ∈ schema.fields, entry.2.Identifying

theorem fieldsIdentify_change {f : Schema → Schema} (all : FieldsIdentify t.schemas)
    (adds : ∀ schema, ∀ entry ∈ (f schema).fields, entry ∈ schema.fields ∨ entry.2.Identifying) :
    FieldsIdentify (t.change key f).schemas := by
  intro tier schema found entry listed
  rw [get?_change] at found
  split at found
  · cases found
    rcases adds _ entry listed with old | new
    · cases there : t.schemas.get? key with
      | none =>
        rw [there] at old
        contradiction
      | some own =>
        rw [there] at old
        exact all key own there entry old
    · exact new
  · exact all tier schema found entry listed

theorem fields_withSample (schema : Schema) (name : String) (sample : Json) :
    (withSample schema name sample).fields = schema.fields := by
  unfold withSample
  split <;> rfl

/-- What is put on a table can identify an item. -/
theorem Step.fieldsIdentify (step : Step s t u) (all : FieldsIdentify t.schemas) :
    FieldsIdentify u.schemas := by
  cases step with
  | @opens subject =>
    intro tier schema found entry listed
    rw [get?_schemas_openTable] at found
    split at found
    · cases found
      contradiction
    split at found
    · cases found
      contradiction
    split at found
    · cases found
      rw [Snapshot.updateTier] at listed
      split at listed <;> contradiction
    · exact all tier schema found entry listed
  | holds _ _ _ identifying =>
    refine fieldsIdentify_change all fun schema entry listed => ?_
    rcases Entries.mem_insert listed with rfl | old
    · exact .inr identifying
    · exact .inl old
  | requires => exact fieldsIdentify_change all fun _ _ => .inl
  | samples =>
    exact fieldsIdentify_change all fun schema _ listed =>
      .inl (fields_withSample schema .. ▸ listed)
  | identifies => exact all

/-- The names that identify the subject of a key, so far. -/
def identifiersOf (t : Tables) (key : String) : List String := (t.identifying.get? key).getD []

/-- Only open tables have names that identify their subjects, and these are properties. -/
def Identified (t : Tables) : Prop := ∀ key, ∀ name ∈ t.identifiersOf key,
  t.subjects.contains key ∧ t.schemas.Says (name ∈ ·.propertyNames) (updateKey key)

theorem Step.identifiersOf_cases (step : Step s t u) (listed : name ∈ u.identifiersOf key) :
    name ∈ t.identifiersOf key ∨
      t.subjects.contains key ∧ t.schemas.Says (name ∈ ·.propertyNames) (updateKey key) := by
  cases step with
  | @identifies owner _ taken there =>
    rw [identifiersOf, identify, Dict.get?_insert] at listed
    split at listed
    · rename_i same
      rcases List.mem_append.mp listed with old | new
      · exact .inl (same ▸ old)
      · exact .inr ⟨same ▸ taken, same ▸ List.mem_singleton.mp new ▸ there⟩
    · exact .inl listed
  | opens | holds | requires | samples => exact .inl listed

theorem Step.identified (step : Step s t u) (apart : Apart (u.subjects.contains ·))
    (identified : t.Identified) : u.Identified := by
  intro key name listed
  obtain ⟨taken, there⟩ : t.subjects.contains key ∧
      t.schemas.Says (name ∈ ·.propertyNames) (updateKey key) := by
    rcases step.identifiersOf_cases listed with old | new
    · exact identified key name old
    · exact new
  exact ⟨Reaches.contains (.single step) taken,
    step.retains (lasting_propertyNames name) apart taken (.inl rfl) there⟩

theorem Reaches.identified (reaches : Reaches s t u) (apart : Apart (u.subjects.contains ·))
    (all : FieldsIdentify t.schemas) (identified : t.Identified) :
    FieldsIdentify u.schemas ∧ u.Identified := by
  induction reaches with
  | refl => exact ⟨all, identified⟩
  | tail _ step ih =>
    obtain ⟨all, identified⟩ :=
      ih (apart.mono fun _ taken => Reaches.contains (.single step) taken)
    exact ⟨step.fieldsIdentify all, step.identified apart identified⟩

end Tables

/-- The properties that a resource itself is identified by. -/
def BuiltTables.identifyingOf (b : BuiltTables) (key : String) : List String :=
  ((b.resources.get? key).map (·.identifying)).getD []

namespace Snapshot

open Tables

variable {s : Snapshot} {b tables : BuiltTables} {t : Tables} {key name : String} {r : Resource}

/-- A resource is identified by what was put on its table to that end, and its supertype's table is
above. -/
theorem resource_of_finishTables (finished : s.finishTables t = .ok b)
    (taken : b.resources.get? key = some r) :
    r.identifying = t.identifiersOf key ∧ r.superKey = (s.superTypeOf r.subject).map s.keyOf := by
  rw [finishTables] at finished
  obtain ⟨_, _, finished⟩ := bind_eq_ok_iff.mp finished
  cases finished
  rw [t.subjects.get?_ofList_map fun key player => (⟨player, (t.identifying.get? key).getD [],
    (s.superTypeOf player).map s.keyOf⟩ : Resource)] at taken
  obtain ⟨player, _, rfl⟩ := Option.map_eq_some_iff.mp taken
  exact ⟨rfl, rfl⟩

/-- What is known of the identifying properties of built tables. -/
structure Addressable (s : Snapshot) (b : BuiltTables) : Prop where
  fields : FieldsIdentify b.schemas
  listed : ∀ key, ∀ name ∈ b.identifyingOf key,
    b.schemas.Says (name ∈ ·.propertyNames) (updateKey key)
  super : ∀ key r, b.resources.get? key = some r →
    r.superKey = (s.superTypeOf r.subject).map s.keyOf

theorem addressable_of_buildTables (built : s.buildTables = .ok b) : s.Addressable b := by
  obtain ⟨_, t, _, ran, finished⟩ := exists_run_of_buildTables built
  have closes := closes_of_finishTables finished
  obtain ⟨fields, identified⟩ := (addFacts_grows ran).reaches.identified closes.apart
    (fun _ _ none => by contradiction) fun _ _ none => by contradiction
  refine ⟨closes.schemas ▸ fields, ?_, fun _ _ taken => (resource_of_finishTables finished taken).2⟩
  intro key name listed
  rw [BuiltTables.identifyingOf] at listed
  cases taken : b.resources.get? key with
  | none =>
    rw [taken] at listed
    contradiction
  | some r =>
    rw [taken] at listed
    have own : name ∈ t.identifiersOf key := (resource_of_finishTables finished taken).1 ▸ listed
    exact closes.schemas ▸ (identified key name own).2

end Snapshot

/-- What the first of some keys lists that lists anything. -/
def BuiltTables.firstIdentifying (b : BuiltTables) (keys : List String) : List String :=
  ((keys.map b.identifyingOf).find? fun names => !names.isEmpty).getD []

namespace BuiltTables

variable {b : BuiltTables} {key name : String} {keys : List String} {r : Resource}

theorem identifyingOf_eq (taken : b.resources.get? key = some r) :
    b.identifyingOf key = r.identifying := by
  rw [identifyingOf, taken, Option.map_some, Option.getD_some]

theorem firstIdentifying_cons : b.firstIdentifying (key :: keys) =
    if (b.identifyingOf key).isEmpty then b.firstIdentifying keys else b.identifyingOf key := by
  rw [firstIdentifying, List.map_cons, List.find?_cons]
  cases (b.identifyingOf key).isEmpty <;> rfl

theorem exists_of_mem_firstIdentifying (listed : name ∈ b.firstIdentifying keys) :
    ∃ key ∈ keys, name ∈ b.identifyingOf key := by
  induction keys with
  | nil => contradiction
  | cons key rest ih =>
    rw [firstIdentifying_cons] at listed
    split at listed
    · obtain ⟨other, inside, own⟩ := ih listed
      exact ⟨other, .tail _ inside, own⟩
    · exact ⟨key, .head _, listed⟩

theorem firstIdentifying_eq_nil_iff :
    b.firstIdentifying keys = [] ↔ ∀ key ∈ keys, b.identifyingOf key = [] := by
  induction keys with
  | nil => exact ⟨fun _ => nofun, fun _ => rfl⟩
  | cons key rest ih =>
    rw [firstIdentifying_cons, List.forall_mem_cons, ← ih]
    split
    · rename_i none
      exact (and_iff_right (List.isEmpty_iff.mp none)).symm
    · rename_i some
      have own : b.identifyingOf key ≠ [] := fun none => some (List.isEmpty_iff.mpr none)
      exact ⟨fun none => absurd none own, fun all => absurd all.1 own⟩

end BuiltTables

namespace Finished

variable {s : Snapshot} {b : BuiltTables} {key : String} {r : Resource}
  (finished : Finished s b) (rooted : s.Rooted) (taken : b.resources.get? key = some r)
include finished rooted taken

theorem ancestry_length_le : (s.ancestry r.subject).length ≤ b.resources.size := by
  have inside : s.ancestry r.subject ⊆ b.resources.keys := by
    intro other listed
    obtain ⟨player, is_player, rfl⟩ := List.mem_map.mp listed
    obtain ⟨own, own_taken, _⟩ := finished.exists_of_mem_lineage rooted taken player is_player
    exact Dict.mem_keys_iff.mpr ⟨own, own_taken⟩
  have bound := (finished.ancestry_nodup rooted taken).length_le_of_subset inside
  rwa [Dict.length_keys] at bound

/-- The climb from key to key follows the supertypes of the subject, and has steps enough. -/
theorem identifyingProperties_eq (addressable : s.Addressable b) :
    b.identifyingProperties key = b.firstIdentifying (s.ancestry r.subject) := by
  suffices climbs : ∀ steps, (s.ancestry r.subject).length ≤ steps →
      b.identifyingFrom steps key = b.firstIdentifying (s.ancestry r.subject) from
    climbs _ (Nat.le_succ_of_le (finished.ancestry_length_le rooted taken))
  refine finished.induction rooted (motive := fun key r => ∀ steps,
    (s.ancestry r.subject).length ≤ steps →
      b.identifyingFrom steps key = b.firstIdentifying (s.ancestry r.subject)) ?_ taken
  intro key r taken above steps enough
  rw [rooted.ancestry_eq, finished.keyed taken] at enough ⊢
  cases steps with
  | zero => simp at enough
  | succ steps =>
    rw [BuiltTables.identifyingFrom, BuiltTables.firstIdentifying_cons,
      BuiltTables.identifyingOf_eq taken, taken]
    dsimp only
    rw [addressable.super key r taken]
    cases own : r.identifying.isEmpty with
    | false => rfl
    | true =>
      cases edge : s.superTypeOf r.subject with
      | none => rfl
      | some parent =>
        obtain ⟨other, parent_taken, rfl⟩ := finished.supertype taken edge
        rw [edge] at enough
        have fewer : (s.ancestry other.subject).length ≤ steps := by simpa using enough
        exact above _ other edge parent_taken steps fewer

end Finished
end ObjectRole
