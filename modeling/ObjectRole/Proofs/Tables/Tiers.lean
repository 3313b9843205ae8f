import ObjectRole.Proofs.Keys
import ObjectRole.Proofs.Schema.Rounds
import ObjectRole.Proofs.Tables.Reaches

/-! The three tiers of an open table. Only its update tier says anything but what it requires: the
new tier requires properties of it, and the read tier requires `id`. Every change keeps this, as
long as no key of a table is a tier key of another. -/
namespace ObjectRole

open Schema

/-- The key of a tier of the supertype, if there is one. -/
def Snapshot.superTier (s : Snapshot) (tierKey : String → String) (subject : Player) :
    List String :=
  (s.superTypeOf subject).toList.map fun parent => tierKey (s.keyOf parent)

/-- The update tier of a subject; its properties are coherent and refer to known keys only. -/
structure UpdateTier (s : Snapshot) (known : String → Prop) (subject : Player) (tier : Schema) :
    Prop where
  title : tier.title = some (s.nameOf subject)
  description : tier.description = s.tableDescription subject
  parents : tier.parents = (s.superTier updateKey subject).map component
  requiredNames : tier.requiredNames = []
  ordered : Entries.Ordered tier.fields
  plain : tier.Plain
  inherits : tier.allOf ≠ some []
  coherent : ∀ entry ∈ tier.fields, entry.2.Coherent
  knows : ∀ entry ∈ tier.fields, ∀ target ∈ entry.2.targets, known target

/-- A tier that has no properties of its own. -/
structure OuterTier (tier : Schema) : Prop where
  title : tier.title = none
  description : tier.description = none
  fields : tier.fields = []
  nodup : tier.requiredNames.Nodup
  plain : tier.Plain

theorem OuterTier.forall_fields {tier : Schema} (outer : OuterTier tier)
    {Q : String × Schema → Prop} : ∀ entry ∈ tier.fields, Q entry := by
  rw [outer.fields]
  exact fun _ listed => absurd listed List.not_mem_nil

structure NewTier (s : Snapshot) (subject : Player) (tier : Schema) : Prop extends
    OuterTier tier where
  parents : tier.parents =
    (updateKey (s.keyOf subject) :: s.superTier newKey subject).map component

structure ReadTier (s : Snapshot) (subject : Player) (tier : Schema) : Prop extends
    OuterTier tier where
  parents : tier.parents = (newKey (s.keyOf subject) :: s.superTier id subject).map component
  requiredNames : ∀ name ∈ tier.requiredNames, name = "id"

/-- The tiers of a table among schemas. -/
structure TableTiers (s : Snapshot) (known : String → Prop) (schemas : SchemaMap) (key : String)
    (subject : Player) : Prop where
  update : ∃ tier, schemas.get? (updateKey key) = some tier ∧ UpdateTier s known subject tier
  new : ∃ tier, schemas.get? (newKey key) = some tier ∧ NewTier s subject tier
  read : ∃ tier, schemas.get? key = some tier ∧ ReadTier s subject tier

/-- The keys of a table's tiers. -/
def IsTierOf (key tier : String) : Prop := tier = updateKey key ∨ tier = newKey key ∨ tier = key

theorem Tables.isTierOf_requiringKey (key name : String) :
    IsTierOf key (requiringKey key name) := by
  unfold requiringKey
  split
  · exact .inr (.inr rfl)
  · exact .inr (.inl rfl)

/-- No table has a key that stands for a tier or a filter of another. -/
def Apart (taken : String → Prop) : Prop := ∀ key other, taken key → taken other →
  key ≠ newKey other ∧ key ≠ updateKey other ∧ key ≠ whereKey other

theorem Apart.mono {taken fewer : String → Prop} (apart : Apart taken)
    (less : ∀ key, fewer key → taken key) : Apart fewer :=
  fun key other taken_key taken_other =>
    apart key other (less key taken_key) (less other taken_other)

/-- Tiers of different tables have different keys. -/
theorem Apart.tier_unique {taken : String → Prop} {key other tier : String} (apart : Apart taken)
    (taken_key : taken key) (taken_other : taken other) (of_key : IsTierOf key tier)
    (of_other : IsTierOf other tier) : key = other := by
  have one := apart key other taken_key taken_other
  have two := apart other key taken_other taken_key
  rcases of_key with rfl | rfl | rfl <;> rcases of_other with same | same | same
  · exact updateKey_inj.mp same
  · exact absurd same updateKey_ne_newKey
  · exact absurd same.symm two.2.1
  · exact absurd same newKey_ne_updateKey
  · exact newKey_inj.mp same
  · exact absurd same.symm two.1
  · exact absurd same one.2.1
  · exact absurd same one.1
  · exact same

/-- The models that every document has are no tiers. -/
theorem not_isTierOf_reserved {key reserved : String}
    (unreserved : key ≠ listModelKey ∧ key ≠ errorModelKey)
    (is_reserved : reserved = listModelKey ∨ reserved = errorModelKey) :
    ¬IsTierOf key reserved := by
  obtain ⟨off_new, off_update, _⟩ := reserved_ne (a := key) is_reserved
  rintro (same | same | rfl)
  · exact off_update same
  · exact off_new same
  · rcases is_reserved with same | same
    · exact unreserved.1 same
    · exact unreserved.2 same

/-- No filter has the key of a tier. -/
theorem Apart.not_isTierOf_whereKey {taken : String → Prop} {key other : String}
    (apart : Apart taken) (taken_key : taken key) (taken_other : taken other) :
    ¬IsTierOf key (whereKey other) := by
  rintro (same | same | same)
  · exact whereKey_ne_updateKey same
  · exact whereKey_ne_newKey same
  · exact (apart _ _ taken_key taken_other).2.2 same.symm

variable {s : Snapshot} {t u : Tables} {key other name : String} {subject : Player}
  {known : String → Prop}

theorem Tables.get?_schemas_openTable (t : Tables) (subject : Player) (tier : String) :
    (t.openTable s subject).schemas.get? tier =
      if tier = s.keyOf subject then some (s.readTier subject)
      else if tier = newKey (s.keyOf subject) then some (s.newTier subject)
      else if tier = updateKey (s.keyOf subject) then some (s.updateTier subject)
      else t.schemas.get? tier := by
  simp only [openTable, Dict.get?_insert]

/-- A change of a schema that keeps what it is a tier for. -/
theorem TableTiers.change {f : Schema → Schema} (tiers : TableTiers s known t.schemas key subject)
    (update : ∀ tier, other = updateKey key → UpdateTier s known subject tier →
      UpdateTier s known subject (f tier))
    (new : ∀ tier, other = newKey key → NewTier s subject tier → NewTier s subject (f tier))
    (read : ∀ tier, other = key → ReadTier s subject tier → ReadTier s subject (f tier)) :
    TableTiers s known (t.change other f).schemas key subject := by
  obtain ⟨⟨update_tier, update_found, update_is⟩, ⟨new_tier, new_found, new_is⟩,
    ⟨read_tier, read_found, read_is⟩⟩ := tiers
  refine ⟨?_, ?_, ?_⟩
  · rw [Tables.get?_change]
    split
    · rename_i same
      rw [← same, update_found]
      exact ⟨_, rfl, update _ same.symm update_is⟩
    · exact ⟨_, update_found, update_is⟩
  · rw [Tables.get?_change]
    split
    · rename_i same
      rw [← same, new_found]
      exact ⟨_, rfl, new _ same.symm new_is⟩
    · exact ⟨_, new_found, new_is⟩
  · rw [Tables.get?_change]
    split
    · rename_i same
      rw [← same, read_found]
      exact ⟨_, rfl, read _ same.symm read_is⟩
    · exact ⟨_, read_found, read_is⟩

theorem UpdateTier.withProperty {tier property : Schema} (update : UpdateTier s known subject tier)
    (knows : ∀ target ∈ property.targets, known target) (coherent : property.Coherent)
    (name : String) : UpdateTier s known subject (tier.withProperty name property) where
  title := update.title
  description := update.description
  parents := update.parents
  requiredNames := update.requiredNames
  ordered := update.ordered.insert name property
  plain := ⟨update.plain.reference, update.plain.items, update.plain.oneOf⟩
  inherits := update.inherits
  coherent entry member := by
    rcases Entries.mem_insert member with rfl | old
    · exact coherent
    · exact update.coherent entry old
  knows entry member := by
    rcases Entries.mem_insert member with rfl | old
    · exact knows
    · exact update.knows entry old

theorem UpdateTier.withSample {tier : Schema} (update : UpdateTier s known subject tier)
    (name : String) (sample : Json) :
    UpdateTier s known subject (Tables.withSample tier name sample) := by
  obtain ⟨title, description, parents, requiredNames, ordered, plain, inherits, coherent, knows⟩ :=
    update
  unfold Tables.withSample
  split <;>
    exact ⟨title, description, parents, requiredNames, ordered,
      ⟨plain.reference, plain.items, plain.oneOf⟩, inherits, coherent, knows⟩

theorem OuterTier.require {tier : Schema} (outer : OuterTier tier) (name : String) :
    OuterTier (tier.require name) where
  title := outer.title
  description := outer.description
  fields := outer.fields
  nodup := nodup_require outer.nodup name
  plain := ⟨outer.plain.reference, outer.plain.items, outer.plain.oneOf⟩

/-- What holds of tables while they are built. -/
structure Sound (s : Snapshot) (t : Tables) : Prop where
  keyed : ∀ {key subject}, t.subjects.get? key = some subject → s.keyOf subject = key
  covered : ∀ {tier}, t.schemas.contains tier → ∃ key, t.subjects.contains key ∧ IsTierOf key tier
  tiers : Apart (t.subjects.contains ·) → ∀ {key subject}, t.subjects.get? key = some subject →
    TableTiers s (t.subjects.contains ·) t.schemas key subject

theorem sound_start : Sound s {} where
  keyed taken := by contradiction
  covered there := by contradiction
  tiers _ _ _ taken := by contradiction

theorem UpdateTier.mono {more : String → Prop} {tier : Schema}
    (update : UpdateTier s known subject tier) (grows : ∀ key, known key → more key) :
    UpdateTier s more subject tier :=
  { update with
    knows := fun entry member target inside =>
      grows target (update.knows entry member target inside) }

theorem UpdateTier.opened (s : Snapshot) (known : String → Prop) (subject : Player) :
    UpdateTier s known subject (s.updateTier subject) := by
  unfold Snapshot.updateTier
  cases above : s.superTypeOf subject <;>
    exact ⟨rfl, rfl, by rw [Snapshot.superTier, above]; rfl, rfl, .nil, ⟨rfl, rfl, rfl⟩, nofun,
      fun _ member => by contradiction, fun _ member => by contradiction⟩

theorem NewTier.opened (s : Snapshot) (subject : Player) :
    NewTier s subject (s.newTier subject) where
  title := rfl
  description := rfl
  fields := rfl
  nodup := .nil
  plain := ⟨rfl, rfl, rfl⟩
  parents := by
    rw [List.map_cons, Snapshot.superTier, List.map_map]
    rfl

theorem ReadTier.opened (s : Snapshot) (subject : Player) :
    ReadTier s subject (s.readTier subject) where
  title := rfl
  description := rfl
  fields := rfl
  nodup := .nil
  plain := ⟨rfl, rfl, rfl⟩
  parents := by
    rw [List.map_cons, Snapshot.superTier, List.map_map]
    rfl
  requiredNames _ member := by contradiction

theorem TableTiers.opened (s : Snapshot) (t : Tables) (subject : Player)
    (known : String → Prop) :
    TableTiers s known (t.openTable s subject).schemas (s.keyOf subject) subject := by
  refine ⟨⟨_, ?_, .opened s known subject⟩, ⟨_, ?_, .opened s subject⟩, ⟨_, ?_, .opened s subject⟩⟩
  · rw [Tables.get?_schemas_openTable, if_neg updateKey_ne_self, if_neg updateKey_ne_newKey,
      if_pos rfl]
  · rw [Tables.get?_schemas_openTable, if_neg newKey_ne_self, if_pos rfl]
  · rw [Tables.get?_schemas_openTable, if_pos rfl]

/-- Where no tier of a table changes it keeps them. -/
theorem TableTiers.frame {schemas after : SchemaMap} {more : String → Prop}
    (tiers : TableTiers s known schemas key subject) (grows : ∀ key, known key → more key)
    (untouched : ∀ tier, IsTierOf key tier → after.get? tier = schemas.get? tier) :
    TableTiers s more after key subject := by
  obtain ⟨⟨update, update_found, update_is⟩, ⟨new, new_found, new_is⟩,
    ⟨read, read_found, read_is⟩⟩ := tiers
  exact ⟨⟨update, (untouched _ (.inl rfl)).trans update_found, update_is.mono grows⟩,
    ⟨new, (untouched _ (.inr (.inl rfl))).trans new_found, new_is⟩,
    ⟨read, (untouched _ (.inr (.inr rfl))).trans read_found, read_is⟩⟩

theorem Tables.get?_schemas_openTable_of_not_tier {tier : String}
    (off : ¬IsTierOf (s.keyOf subject) tier) :
    (t.openTable s subject).schemas.get? tier = t.schemas.get? tier := by
  simp only [IsTierOf, not_or] at off
  obtain ⟨off_update, off_new, off_read⟩ := off
  rw [get?_schemas_openTable, if_neg off_read, if_neg off_new, if_neg off_update]

theorem Tables.contains_openTable (t : Tables) (subject : Player) :
    (t.openTable s subject).subjects.contains (s.keyOf subject) := by
  rw [Dict.contains_eq_isSome, get?_subjects_openTable, if_pos rfl]
  rfl

/-- Opening a table leaves the tiers of all others alone. -/
theorem Tables.not_isTierOf_opened {tier : String} (free : t.subjects.get? (s.keyOf subject) = none)
    (apart : Apart ((t.openTable s subject).subjects.contains ·)) (taken : t.subjects.contains key)
    (is_tier : IsTierOf key tier) : ¬IsTierOf (s.keyOf subject) tier := fun of_subject => by
  have same := apart.tier_unique (Reaches.contains (.single (.opens free)) taken)
    (contains_openTable t subject) is_tier of_subject
  rw [same, Dict.contains_eq_isSome, free] at taken
  contradiction

theorem Sound.opens (sound : Sound s t) (free : t.subjects.get? (s.keyOf subject) = none) :
    Sound s (t.openTable s subject) := by
  have grows : ∀ key, t.subjects.contains key → (t.openTable s subject).subjects.contains key :=
    fun key taken => Tables.Reaches.contains (.single (.opens free)) taken
  have own := Tables.contains_openTable (s := s) t subject
  constructor
  · intro key player taken
    rw [Tables.get?_subjects_openTable] at taken
    split at taken
    · rename_i same
      cases taken
      exact same.symm
    · exact sound.keyed taken
  · intro tier there
    by_cases of_subject : IsTierOf (s.keyOf subject) tier
    · exact ⟨_, own, of_subject⟩
    · rw [Dict.contains_eq_isSome, Tables.get?_schemas_openTable_of_not_tier of_subject] at there
      obtain ⟨key, taken, is_tier⟩ := sound.covered there
      exact ⟨key, grows key taken, is_tier⟩
  · intro apart key player taken
    rw [Tables.get?_subjects_openTable] at taken
    split at taken
    · rename_i same
      cases taken
      subst same
      exact .opened s t subject _
    · apply (sound.tiers (apart.mono grows) taken).frame grows
      intro tier of_key
      exact Tables.get?_schemas_openTable_of_not_tier
        (Tables.not_isTierOf_opened free apart (Dict.contains_iff.mpr ⟨player, taken⟩) of_key)

/-- A change of a tier of an open table that keeps what it is a tier for. -/
theorem Sound.change {f : Schema → Schema} {tier : String} (sound : Sound s t)
    (taken : t.subjects.contains key) (is_tier : IsTierOf key tier)
    (tiers : Apart (t.subjects.contains ·) → ∀ {other subject},
      t.subjects.get? other = some subject →
        TableTiers s (t.subjects.contains ·) t.schemas other subject →
          TableTiers s (t.subjects.contains ·) (t.change tier f).schemas other subject) :
    Sound s (t.change tier f) := by
  refine ⟨sound.keyed, ?_, ?_⟩
  · intro other there
    rw [Dict.contains_eq_isSome, Tables.get?_change] at there
    split at there
    · rename_i same
      exact ⟨key, taken, same ▸ is_tier⟩
    · exact sound.covered there
  · intro apart other subject found
    exact tiers apart found (sound.tiers apart found)

theorem Sound.changeUpdate {f : Schema → Schema} (sound : Sound s t)
    (taken : t.subjects.contains key)
    (keeps : ∀ subject tier, UpdateTier s (t.subjects.contains ·) subject tier →
      UpdateTier s (t.subjects.contains ·) subject (f tier)) :
    Sound s (t.change (updateKey key) f) := by
  apply sound.change taken (.inl rfl)
  intro apart other subject found tiers
  have apart := apart other key (Dict.contains_iff.mpr ⟨subject, found⟩) taken
  apply tiers.change
  · intro tier _ update
    exact keeps subject tier update
  · intro tier same
    exact absurd same updateKey_ne_newKey
  · intro tier same
    exact absurd same.symm apart.2.1

theorem Sound.changeNew {f : Schema → Schema} (sound : Sound s t)
    (taken : t.subjects.contains key)
    (keeps : ∀ subject tier, NewTier s subject tier → NewTier s subject (f tier)) :
    Sound s (t.change (newKey key) f) := by
  apply sound.change taken (.inr (.inl rfl))
  intro apart other subject found tiers
  have apart := apart other key (Dict.contains_iff.mpr ⟨subject, found⟩) taken
  apply tiers.change
  · intro tier same
    exact absurd same newKey_ne_updateKey
  · intro tier _ new
    exact keeps subject tier new
  · intro tier same
    exact absurd same.symm apart.1

theorem Sound.changeRead {f : Schema → Schema} (sound : Sound s t)
    (taken : t.subjects.contains key)
    (keeps : ∀ subject tier, ReadTier s subject tier → ReadTier s subject (f tier)) :
    Sound s (t.change key f) := by
  apply sound.change taken (.inr (.inr rfl))
  intro apart other subject found tiers
  have apart := apart key other taken (Dict.contains_iff.mpr ⟨subject, found⟩)
  apply tiers.change
  · intro tier same
    exact absurd same apart.2.1
  · intro tier same
    exact absurd same apart.1
  · intro tier _ read
    exact keeps subject tier read

theorem NewTier.require {tier : Schema} (new : NewTier s subject tier) (name : String) :
    NewTier s subject (tier.require name) :=
  { new.toOuterTier.require name with parents := new.parents }

theorem ReadTier.require {tier : Schema} (read : ReadTier s subject tier) (id : name = "id") :
    ReadTier s subject (tier.require name) := by
  refine { read.toOuterTier.require name with parents := read.parents, requiredNames := ?_ }
  intro other member
  rcases mem_requireNew.mp member with old | rfl
  · exact read.requiredNames other old
  · exact id

/-- Every single change keeps tables sound. -/
theorem Sound.step (sound : Sound s t) (step : Tables.Step s t u) : Sound s u := by
  cases step with
  | opens free => exact sound.opens free
  | @holds key name property taken known coherent =>
    exact sound.changeUpdate taken fun _ _ update => update.withProperty known coherent name
  | @requires key name taken =>
    unfold Tables.requiringKey
    split
    · rename_i id
      exact sound.changeRead taken fun _ _ read => read.require id
    · exact sound.changeNew taken fun _ _ new => new.require name
  | @samples key name sample taken =>
    exact sound.changeUpdate taken fun _ _ update => update.withSample name sample
  | identifies => exact ⟨sound.keyed, sound.covered, sound.tiers⟩

/-- Tables stay sound on every run. -/
theorem Sound.reaches (sound : Sound s t) (reaches : Tables.Reaches s t u) : Sound s u := by
  induction reaches with
  | refl => exact sound
  | tail _ step ih => exact ih.step step

end ObjectRole
