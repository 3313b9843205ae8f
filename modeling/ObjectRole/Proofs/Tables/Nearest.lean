import ObjectRole.Proofs.Tables.Ladder
import ObjectRole.Proofs.Tables.Nested

/-! Which schema wins where supertypes say different things. The flat update and new tiers of a
resource always tell what the nearest does. The flat read tier does so only if its new tier comes
before it in key order, or if none of its supertypes does. -/
namespace ObjectRole

open Schema

/-- The keys of a subject and its supertypes, the nearest first. -/
def Snapshot.ancestry (s : Snapshot) (subject : Player) : List String :=
  (s.lineage subject).map s.keyOf

namespace Snapshot

variable {s : Snapshot} {subject player : Player}

theorem Rooted.ancestry_eq (rooted : s.Rooted) (subject : Player) : s.ancestry subject =
    s.keyOf subject :: (s.superTypeOf subject).elim [] s.ancestry := by
  rw [ancestry, rooted.lineage_eq, List.map_cons]
  cases s.superTypeOf subject <;> rfl

/-- Behind a subject comes its supertype. -/
theorem Rooted.superTier_eq (rooted : s.Rooted) (tierKey : String → String) (subject : Player) :
    s.superTier tierKey subject = (s.ancestry subject).tail.head?.toList.map tierKey := by
  rw [rooted.ancestry_eq, List.tail_cons, superTier]
  cases s.superTypeOf subject with
  | none => rfl
  | some parent =>
    rw [Option.elim_some, rooted.ancestry_eq]
    rfl

theorem Rooted.lineage_nodup (rooted : s.Rooted) (subject : Player) :
    (s.lineage subject).Nodup := by
  induction subject using rooted.wellFounded.induction with
  | _ subject ih =>
    rw [rooted.lineage_eq]
    cases above : s.superTypeOf subject with
    | none => exact List.nodup_singleton subject
    | some parent =>
      refine List.nodup_cons.mpr ⟨?_, ih parent above⟩
      intro listed
      exact rooted.irrefl (.tail' (reaches_of_mem_climb listed) above)

end Snapshot

namespace Finished

variable {s : Snapshot} {b : BuiltTables} {flat : SchemaMap} {key : String} {r : Resource}
  {player : Player} {β : Type} {φ : Schema → Option β} (finished : Finished s b)
include finished

/-- All supertypes of a resource are resources. -/
theorem exists_of_mem_lineage (rooted : s.Rooted) (taken : b.resources.get? key = some r) :
    ∀ player ∈ s.lineage r.subject,
      ∃ own, b.resources.get? (s.keyOf player) = some own ∧ own.subject = player := by
  refine finished.induction rooted (motive := fun _ r => ∀ player ∈ s.lineage r.subject,
    ∃ own, b.resources.get? (s.keyOf player) = some own ∧ own.subject = player) ?_ taken
  intro key r taken ih player listed
  rw [rooted.lineage_eq] at listed
  rcases List.mem_cons.mp listed with rfl | later
  · exact ⟨r, (finished.keyed taken).symm ▸ taken, rfl⟩
  · cases edge : s.superTypeOf r.subject with
    | none => rw [edge] at later; contradiction
    | some parent =>
      obtain ⟨above, above_taken, rfl⟩ := finished.supertype taken edge
      rw [edge] at later
      exact ih above.subject above edge above_taken player later

theorem ancestry_cons (rooted : s.Rooted) (taken : b.resources.get? key = some r) :
    s.ancestry r.subject = key :: (s.ancestry r.subject).tail := by
  rw [rooted.ancestry_eq, List.tail_cons, finished.keyed taken]

theorem ancestry_nodup (rooted : s.Rooted) (taken : b.resources.get? key = some r) :
    (s.ancestry r.subject).Nodup := by
  apply List.Nodup.map_on ?_ (rooted.lineage_nodup r.subject)
  intro one one_listed other other_listed same
  obtain ⟨own, own_taken, rfl⟩ := finished.exists_of_mem_lineage rooted taken one one_listed
  obtain ⟨own', own_taken', rfl⟩ := finished.exists_of_mem_lineage rooted taken other other_listed
  rw [same, own_taken'] at own_taken
  rw [Option.some.inj own_taken]

/-- The tiers of a resource and its supertypes form a ladder. -/
theorem ladder (rooted : s.Rooted) (taken : b.resources.get? key = some r)
    (silent : ∀ tier, OuterTier tier → φ tier = none) :
    Ladder b.schemas φ (s.ancestry r.subject) := by
  refine finished.induction rooted (motive := fun _ r =>
    Ladder b.schemas φ (s.ancestry r.subject)) ?_ taken
  intro key r taken ih
  obtain ⟨⟨update, update_found, is_update⟩, ⟨new, new_found, is_new⟩,
    ⟨read, read_found, is_read⟩⟩ := finished.tiers taken
  have above : ∀ tierKey, s.superTier tierKey r.subject = _ :=
    fun tierKey => rooted.superTier_eq tierKey r.subject
  have later : Ladder b.schemas φ (s.ancestry r.subject).tail := by
    rw [rooted.ancestry_eq, List.tail_cons]
    cases edge : s.superTypeOf r.subject with
    | none => exact .nil
    | some parent =>
      obtain ⟨above, above_taken, rfl⟩ := finished.supertype taken edge
      exact ih above.subject above edge above_taken
  rw [finished.ancestry_cons rooted taken]
  refine .cons (fun tier is_tier => finished.contains_tier taken is_tier) ?_ ?_ ?_ ⟨?_, ?_⟩ later
  · rw [SchemaMap.above, update_found, ← above]
    exact finished.parentKeys_update taken is_update
  · rw [SchemaMap.above, new_found, ← above]
    exact finished.parentKeys_new taken is_new
  · have parents := finished.parentKeys_read taken is_read
    rw [above, List.map_id] at parents
    rw [SchemaMap.above, read_found]
    exact parents
  · rw [SchemaMap.tell, new_found]
    exact silent new is_new.toOuterTier
  · rw [SchemaMap.tell, read_found]
    exact silent read is_read.toOuterTier

variable (flattened : b.schemas.flatten = .ok flat) (rooted : s.Rooted)
  (taken : b.resources.get? key = some r)
include flattened rooted taken

theorem finds (first : FirstWins φ) (silent : ∀ tier, OuterTier tier → φ tier = none) :
    Finds b.schemas flat φ (s.ancestry r.subject) :=
  (finished.ladder rooted taken silent).finds (SchemaMap.flattens_of_flatten flattened) first
    (finished.ancestry_nodup rooted taken)

end Finished

/-- A schema tells what the update tiers of some keys tell, each in its turn. -/
structure Tells (built : SchemaMap) (order : List String) (tier : Schema) : Prop where
  title : tier.title = nearest built (·.title) order
  description : tier.description = nearest built (·.description) order
  property : ∀ name, tier.property? name = nearest built (·.property? name) order

namespace Finished

variable {s : Snapshot} {b : BuiltTables} {flat : SchemaMap} {key : String} {r : Resource}
  (finished : Finished s b) (flattened : b.schemas.flatten = .ok flat) (rooted : s.Rooted)
  (taken : b.resources.get? key = some r)
include finished flattened rooted taken

/-- What the flat tiers of a resource tell. -/
theorem exists_tells : ∃ update new read, flat.get? (updateKey key) = some update ∧
    flat.get? (newKey key) = some new ∧ flat.get? key = some read ∧
    Tells b.schemas (s.ancestry r.subject) update ∧ Tells b.schemas (s.ancestry r.subject) new ∧
    Tells b.schemas (readOrder (s.ancestry r.subject)) read := by
  obtain ⟨update, new, read, update_found, new_found, read_found⟩ :=
    exists_flat flattened (finished.tiers taken)
  have each : ∀ {β : Type} (φ : Schema → Option β), FirstWins φ →
      (∀ tier, OuterTier tier → φ tier = none) →
      φ update = nearest b.schemas φ (s.ancestry r.subject) ∧
      φ new = nearest b.schemas φ (s.ancestry r.subject) ∧
      φ read = nearest b.schemas φ (readOrder (s.ancestry r.subject)) := by
    intro β φ first silent
    have finds := finished.finds flattened rooted taken first silent
    rw [finished.ancestry_cons rooted taken] at finds ⊢
    cases finds with
    | cons flat_update flat_new flat_read _ =>
      rw [SchemaMap.tell, update_found] at flat_update
      rw [SchemaMap.tell, new_found] at flat_new
      rw [SchemaMap.tell, read_found] at flat_read
      exact ⟨flat_update, flat_new, flat_read⟩
  have title := each (·.title) firstWins_title fun _ outer => outer.title
  have description := each (·.description) firstWins_description fun _ outer => outer.description
  have property := fun name => each (·.property? name) (firstWins_property name) fun _ outer => by
    rw [property?, outer.fields, Entries.get?_nil]
  exact ⟨update, new, read, update_found, new_found, read_found,
    ⟨title.1, description.1, fun name => (property name).1⟩,
    ⟨title.2.1, description.2.1, fun name => (property name).2.1⟩,
    ⟨title.2.2, description.2.2, fun name => (property name).2.2⟩⟩

omit flattened rooted in
/-- The title that is met first is the name of the first resource. -/
theorem nearest_title (rest : List String) :
    nearest b.schemas (·.title) (key :: rest) = some (s.nameOf r.subject) := by
  obtain ⟨update, found, is_update⟩ := (finished.tiers taken).update
  rw [nearest_cons, SchemaMap.tell, found, Option.bind_some, is_update.title, Option.some_or]

omit flattened in
/-- What a read tier meets first is the resource's own title unless the supertype overtakes it. -/
theorem nearest_title_iff : nearest b.schemas (·.title) (readOrder (s.ancestry r.subject)) =
      some (s.nameOf r.subject) ↔
    newKey key < key ∨ ∀ parent, s.superTypeOf r.subject = some parent → key < s.keyOf parent := by
  have whole : s.ancestry r.subject = key :: (s.superTypeOf r.subject).elim [] s.ancestry :=
    finished.keyed taken ▸ rooted.ancestry_eq r.subject
  have nodup := finished.ancestry_nodup rooted taken
  have perm := readOrder_perm (s.ancestry r.subject)
  have condition : (∀ above ∈ ((s.superTypeOf r.subject).elim [] s.ancestry).head?, key < above) ↔
      ∀ parent, s.superTypeOf r.subject = some parent → key < s.keyOf parent := by
    cases s.superTypeOf r.subject with
    | none => simp
    | some parent => simp [rooted.ancestry_eq]
  rw [whole] at nodup
  rw [← condition, ← head?_readOrder_iff nodup, ← whole]
  cases order : readOrder (s.ancestry r.subject) with
  | nil =>
    rw [order, whole] at perm
    exact absurd perm.length_eq nofun
  | cons first others =>
    rw [order] at perm
    obtain ⟨player, inside, rfl⟩ := List.mem_map.mp (perm.mem_iff.mp (.head _))
    obtain ⟨own, own_taken, rfl⟩ := finished.exists_of_mem_lineage rooted taken player inside
    rw [finished.nearest_title own_taken, List.head?_cons, Option.some.injEq, Option.some.injEq]
    constructor
    · intro same_name
      rw [← finished.keyed taken, Snapshot.keyOf, same_name]
      rfl
    · intro same_key
      rw [same_key] at own_taken
      cases Option.some.inj (taken.symm.trans own_taken)
      rfl

end Finished

variable {d : Document} {s : Snapshot} {b : BuiltTables} {flat : SchemaMap} {key : String}
  {r : Resource}

/-- The flat update and new tiers of a resource tell what the nearest does of it and its supertypes.
The flat read tier asks them in its own order: it has the title of the resource if and only if its
new tier has an earlier key or its supertype a later one, and it asks the nearest first throughout
if and only if its new tier has an earlier key or all its supertypes have later ones. -/
theorem flat_tiers_tell (resolved : d.resolve = .ok s) (built : s.buildTables = .ok b)
    (flattened : b.schemas.flatten = .ok flat) (taken : b.resources.get? key = some r) :
    ∃ update new read, flat.get? (updateKey key) = some update ∧
      flat.get? (newKey key) = some new ∧ flat.get? key = some read ∧
      Tells b.schemas (s.ancestry r.subject) update ∧
      Tells b.schemas (s.ancestry r.subject) new ∧
      Tells b.schemas (readOrder (s.ancestry r.subject)) read ∧
      update.title = some (s.nameOf r.subject) ∧ new.title = some (s.nameOf r.subject) ∧
      (read.title = some (s.nameOf r.subject) ↔ newKey key < key ∨
        ∀ parent, s.superTypeOf r.subject = some parent → key < s.keyOf parent) ∧
      (readOrder (s.ancestry r.subject) = s.ancestry r.subject ↔ newKey key < key ∨
        ∀ other ∈ (s.ancestry r.subject).tail, key < other) := by
  have rooted := Document.rooted_of_resolve resolved
  have finished := Snapshot.finished_of_buildTables built
  obtain ⟨update, new, read, update_found, new_found, read_found, update_tells, new_tells,
    read_tells⟩ := finished.exists_tells flattened rooted taken
  have whole := finished.ancestry_cons rooted taken
  have nodup := finished.ancestry_nodup rooted taken
  have own : nearest b.schemas (·.title) (s.ancestry r.subject) = some (s.nameOf r.subject) := by
    rw [whole]
    exact finished.nearest_title taken _
  have order : readOrder (s.ancestry r.subject) = s.ancestry r.subject ↔ newKey key < key ∨
      ∀ other ∈ (s.ancestry r.subject).tail, key < other := by
    rw [whole] at nodup ⊢
    exact readOrder_eq_iff nodup
  refine ⟨update, new, read, update_found, new_found, read_found, update_tells, new_tells,
    read_tells, update_tells.title.trans own, new_tells.title.trans own, ?_, order⟩
  rw [read_tells.title]
  exact finished.nearest_title_iff rooted taken

theorem flat_tiers_tell_of_citizens : ∃ s b flat r update,
    Document.citizens.resolve = .ok s ∧ s.buildTables = .ok b ∧ b.schemas.flatten = .ok flat ∧
      b.resources.get? "Citizen" = some r ∧ flat.get? (updateKey "Citizen") = some update ∧
      Tells b.schemas (s.ancestry r.subject) update ∧
      update.title = some (s.nameOf r.subject) := by
  have passed : Document.citizens.passes {} fun _ tables _ =>
      tables.resources.contains "Citizen" := by decide +kernel
  obtain ⟨s, tables, _, resolved, made, _, taken⟩ := Document.exists_of_passes passed
  obtain ⟨b, flat, built, flattened, rfl⟩ := Snapshot.flatTables_eq_ok_iff.mp made
  obtain ⟨r, taken⟩ := Dict.contains_iff.mp taken
  obtain ⟨update, _, _, found, _, _, tells, _, _, title, _⟩ :=
    flat_tiers_tell resolved built flattened taken
  exact ⟨s, b, flat, r, update, resolved, built, flattened, taken, found, tells, title⟩

/-- Citizens are read as agents, because the key of agents comes first. -/
theorem citizens_read_as_agents : ∃ s b flat, Document.citizens.resolve = .ok s ∧
    s.buildTables = .ok b ∧ b.schemas.flatten = .ok flat ∧
      (b.resources.get? "Citizen").map (s.nameOf ·.subject) = some "Citizen" ∧
      (flat.get? "Citizen").bind (·.title) = some "Agent" := by
  have passed : Document.citizens.passes {} fun s tables _ =>
      (tables.resources.get? "Citizen").map (s.nameOf ·.subject) == some "Citizen" &&
      (tables.schemas.get? "Citizen").bind (·.title) == some "Agent" := by decide +kernel
  obtain ⟨s, tables, _, resolved, made, _, checked⟩ := Document.exists_of_passes passed
  obtain ⟨b, flat, built, flattened, rfl⟩ := Snapshot.flatTables_eq_ok_iff.mp made
  simp only [Bool.and_eq_true, beq_iff_eq] at checked
  exact ⟨s, b, flat, resolved, built, flattened, checked.1, checked.2⟩

end ObjectRole
