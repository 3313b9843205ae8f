import ObjectRole.Proofs.Api.Collapse

/-! The run over all resources. Before the operations of a resource are made its tiers are flat and
in place; afterwards they are folded and stay so. No other resource has a say in that, because tiers
and filters of different resources have different keys. -/
namespace ObjectRole

open Schema

/-- Both have the same tiers of a key. -/
def Tiers.Agree (t u : Tiers) (key : String) : Prop := ∀ tier, IsTierOf key tier →
  u.schemas.get? tier = t.schemas.get? tier ∧ u.renames.byKey.get? tier = t.renames.byKey.get? tier

theorem Tiers.Intact.agree {t u : Tiers} {key : String} {c : TierSet} (intact : Intact t key c)
    (agree : Agree t u key) : Intact u key c :=
  ⟨(agree _ (.inl rfl)).1.trans intact.update, (agree _ (.inr (.inl rfl))).1.trans intact.new,
    (agree _ (.inr (.inr rfl))).1.trans intact.read,
    fun tier is_tier => (agree tier is_tier).2.trans (intact.unrenamed tier is_tier)⟩

theorem Tiers.Collapsed.agree {t u : Tiers} {key : String} {c : TierSet}
    (collapsed : Collapsed t key c) (agree : Agree t u key) : Collapsed u key c :=
  ⟨(agree _ (.inl rfl)).1.trans collapsed.update,
    (agree _ (.inr (.inl rfl))).1.trans collapsed.new,
    (agree _ (.inr (.inr rfl))).1.trans collapsed.read,
    (agree _ (.inl rfl)).2.trans collapsed.update_renamed,
    (agree _ (.inr (.inl rfl))).2.trans collapsed.new_renamed,
    (agree _ (.inr (.inr rfl))).2.trans collapsed.read_unrenamed⟩

namespace Synthesis

variable {settings : Settings} {view : ResourceView} {update : Schema} {identifying : List String}
  {y z : Synthesis} {path : String} {item : PathItem} {e : CompileError}

/-- What a resource puts under its paths. -/
def Offers (settings : Settings) (view : ResourceView) (identifier : List Parameter) (path : String)
    (item : PathItem) : Prop :=
  path = view.collectionPath ∧ view.collectionItem? settings = some item ∨
    path = view.itemPath identifier ∧ view.item? settings identifier = some item

theorem get?_withPath {item? : Option PathItem} {other : String}
    (found : (y.withPath path item?).paths.get? other = some item) :
    y.paths.get? other = some item ∨ other = path ∧ item? = some item := by
  cases item? with
  | none => exact .inl found
  | some new =>
    change (y.paths.insert path new).get? other = some item at found
    rw [Dict.get?_insert] at found
    split at found
    · rename_i same
      exact .inr ⟨same, found⟩
    · exact .inl found

theorem contains_withPath (item? : Option PathItem) {other : String}
    (there : y.paths.contains other ∨ other = path ∧ item?.isSome) :
    (y.withPath path item?).paths.contains other := by
  cases item? with
  | none =>
    rcases there with there | ⟨_, some⟩
    · exact there
    · cases some
  | some new =>
    change (y.paths.insert path new).contains other
    rw [Dict.contains_eq_isSome, Dict.get?_insert]
    split
    · rfl
    · rename_i distinct
      rcases there with there | ⟨same, _⟩
      · exact there
      · exact absurd same distinct

theorem tiers_withPath (y : Synthesis) (path : String) (item? : Option PathItem) :
    (y.withPath path item?).tiers = y.tiers := by
  cases item? <;> rfl

/-- What a resource leaves that was added. -/
structure Added (settings : Settings) (view : ResourceView) (update : Schema)
    (identifier : List Parameter) (y z : Synthesis) : Prop where
  tiers : z.tiers = (y.withFilter view update).tiers.collapse view.key (view.allows .update)
    (view.allows .create)
  paths : ∀ {path item}, z.paths.get? path = some item →
    y.paths.get? path = some item ∨ Offers settings view identifier path item
  keeps : ∀ {path}, y.paths.contains path → z.paths.contains path
  offers : ∀ {path item}, Offers settings view identifier path item → z.paths.contains path

theorem added_of_addResource (ran : y.addResource settings view update identifying = .ok z) :
    Added settings view update (idParameters update identifying) y z := by
  rw [addResource] at ran
  split at ran
  · cases ran
  · cases ran
    have same : (y.withFilter view update).paths = y.paths := by
      unfold withFilter
      split <;> rfl
    constructor
    · dsimp only
      rw [tiers_withPath, tiers_withPath]
    · intro path item found
      rcases get?_withPath found with found | own
      · rcases get?_withPath found with found | own
        · exact .inl (same ▸ found)
        · exact .inr (.inl own)
      · exact .inr (.inr own)
    · intro path there
      exact contains_withPath _ (.inl (contains_withPath _ (.inl (same ▸ there))))
    · intro path item offered
      rcases offered with ⟨here, item⟩ | ⟨here, item⟩
      · exact contains_withPath _ (.inl (contains_withPath _ (.inr ⟨here, by rw [item]; rfl⟩)))
      · exact contains_withPath _ (.inr ⟨here, by rw [item]; rfl⟩)

theorem addResource_error (failed : y.addResource settings view update identifying = .error e) :
    ∃ path first second, e = .pathCollision path first second := by
  rw [addResource] at failed
  split at failed
  · cases failed
    exact ⟨_, _, _, rfl⟩
  · cases failed

theorem withFilter_tiers (y : Synthesis) (view : ResourceView) (update : Schema) :
    (y.withFilter view update).tiers.renames = y.tiers.renames ∧
      ∀ key, (y.withFilter view update).tiers.schemas.get? key =
        if view.allows .list ∧ key = whereKey view.key then some (Schema.filter view.key update)
        else y.tiers.schemas.get? key := by
  rw [withFilter]
  split
  · rename_i listed
    refine ⟨rfl, ?_⟩
    intro key
    rw [Dict.get?_insert]
    simp only [listed, true_and]
  · rename_i unlisted
    exact ⟨rfl, fun key => (if_neg fun both => unlisted both.1).symm⟩

/-- Besides the tiers of its resource, a step makes no more than the filter. -/
theorem Added.frame {identifier : List Parameter}
    (added : Added settings view update identifier y z) {key : String}
    (off : ¬IsTierOf view.key key) :
    (z.tiers.schemas.get? key =
      if view.allows .list ∧ key = whereKey view.key then some (Schema.filter view.key update)
      else y.tiers.schemas.get? key) ∧
    z.tiers.renames.byKey.get? key = y.tiers.renames.byKey.get? key := by
  obtain ⟨renames, schemas⟩ := withFilter_tiers y view update
  obtain ⟨same_schemas, same_renames⟩ := Tiers.collapse_frame (y.withFilter view update).tiers
    (view.allows .update) (view.allows .create) off
  rw [added.tiers, same_schemas, same_renames, schemas, renames]
  exact ⟨rfl, rfl⟩

end Synthesis

section Run

variable (s : Snapshot) (settings : Settings) (tables : BuiltTables)

/-- What the operations of a resource speak of. -/
def Snapshot.view (entry : String × Resource) : ResourceView :=
  tables.viewOf s settings entry.1 entry.2 (tables.schema (updateKey entry.1))

/-- The flat tiers of a resource, and which of them its operations use. -/
def Snapshot.tierSet (entry : String × Resource) : TierSet :=
  { update := tables.schema (updateKey entry.1)
    new := tables.schema (newKey entry.1)
    read := tables.schema entry.1
    patchUsed := (s.view settings tables entry).allows .update
    postUsed := (s.view settings tables entry).allows .create }

/-- The path parameters of a resource. -/
def BuiltTables.identifier (entry : String × Resource) : List Parameter :=
  idParameters (tables.schema (updateKey entry.1)) (tables.identifyingProperties entry.1)

/-- How far a run has come: some resources are done, and the others are as the tables have them. -/
structure Progress (done : List (String × Resource)) (y : Synthesis) : Prop where
  collapsed : ∀ entry ∈ done, y.tiers.Collapsed entry.1 (s.tierSet settings tables entry)
  intact : ∀ entry ∈ tables.resources.entries, entry ∉ done →
    y.tiers.Intact entry.1 (s.tierSet settings tables entry)
  filters : ∀ entry ∈ done, (s.view settings tables entry).allows .list →
    y.tiers.schemas.get? (whereKey entry.1) =
      some (Schema.filter entry.1 (tables.schema (updateKey entry.1)))
  covered : ∀ key schema, y.tiers.schemas.get? key = some schema →
    (∃ owner, tables.resources.contains owner ∧ IsTierOf owner key) ∨
      ∃ entry ∈ done, (s.view settings tables entry).allows .list ∧ key = whereKey entry.1
  renames : ∀ key, (∀ owner, tables.resources.contains owner → ¬IsTierOf owner key) →
    y.tiers.renames.byKey.get? key = none
  paths : ∀ path item, y.paths.get? path = some item → ∃ entry ∈ done,
    Synthesis.Offers settings (s.view settings tables entry) (tables.identifier entry) path item
  offered : ∀ entry ∈ done, ∀ path item,
    Synthesis.Offers settings (s.view settings tables entry) (tables.identifier entry) path item →
      y.paths.contains path

end Run

/-- No resource comes twice. -/
theorem BuiltTables.not_mem_of_split {tables : BuiltTables} {entry : String × Resource}
    {before after : List (String × Resource)}
    (split : tables.resources.entries = before ++ entry :: after) : entry ∉ before := by
  intro member
  have nodup : (before ++ entry :: after).Nodup :=
    split ▸ tables.resources.ordered.nodup_keys.of_map _
  exact (List.nodup_append.mp nodup).2.2 entry member entry (.head _) rfl

namespace FlatTables

variable {s : Snapshot} {tables : BuiltTables} {entry other : String × Resource} {key tier : String}

/-- No filter is a tier. -/
theorem ne_whereKey (flat : FlatTables s tables) (other_listed : other ∈ tables.resources.entries)
    (listed : entry ∈ tables.resources.entries) (is_tier : IsTierOf other.1 tier) :
    tier ≠ whereKey entry.1 := by
  rintro rfl
  exact flat.apart.not_isTierOf_whereKey (Dict.contains_of_mem other_listed)
    (Dict.contains_of_mem listed) is_tier

/-- A tier of a resource is no tier of another one. -/
theorem not_tier_of_ne (flat : FlatTables s tables)
    (other_listed : other ∈ tables.resources.entries)
    (listed : entry ∈ tables.resources.entries) (distinct : other ≠ entry)
    (is_tier : IsTierOf other.1 tier) : ¬IsTierOf entry.1 tier := by
  intro of_entry
  have same := flat.apart.tier_unique (Dict.contains_of_mem other_listed)
    (Dict.contains_of_mem listed) is_tier of_entry
  exact distinct (Dict.entry_unique other_listed listed same)

theorem withFilter_agree (flat : FlatTables s tables) (settings : Settings)
    (listed : entry ∈ tables.resources.entries) (other_listed : other ∈ tables.resources.entries)
    (y : Synthesis) : y.tiers.Agree
      (y.withFilter (s.view settings tables entry) (tables.schema (updateKey entry.1))).tiers
      other.1 := by
  intro tier is_tier
  obtain ⟨renames, schemas⟩ := Synthesis.withFilter_tiers y (s.view settings tables entry)
    (tables.schema (updateKey entry.1))
  have off_filter := flat.ne_whereKey other_listed listed is_tier
  have key_eq : (s.view settings tables entry).key = entry.1 := rfl
  rw [schemas, key_eq, if_neg fun both => off_filter both.2, renames]
  exact ⟨rfl, rfl⟩

end FlatTables

/-- A step adds a resource to those that are done. -/
def BuiltTables.Adds (s : Snapshot) (settings : Settings) (tables : BuiltTables)
    (entry : String × Resource) : Synthesis → Synthesis → Prop :=
  Synthesis.Added settings (s.view settings tables entry) (tables.schema (updateKey entry.1))
    (tables.identifier entry)

section Step

variable {s : Snapshot} {settings : Settings} {tables : BuiltTables} {y z : Synthesis}
  {entry other : String × Resource}

/-- A step leaves the tiers of other resources as they are. -/
theorem BuiltTables.Adds.agree (added : tables.Adds s settings entry y z)
    (flat : FlatTables s tables) (listed : entry ∈ tables.resources.entries)
    (other_listed : other ∈ tables.resources.entries) (distinct : other ≠ entry) :
    y.tiers.Agree z.tiers other.1 := by
  intro tier is_tier
  obtain ⟨schemas, renames⟩ :=
    added.frame (flat.not_tier_of_ne other_listed listed distinct is_tier)
  have off_filter := flat.ne_whereKey other_listed listed is_tier
  exact ⟨schemas.trans (if_neg fun both => off_filter both.2), renames⟩

/-- A step leaves the filters of other resources as they are. -/
theorem BuiltTables.Adds.get?_whereKey (added : tables.Adds s settings entry y z)
    (flat : FlatTables s tables) (listed : entry ∈ tables.resources.entries)
    (other_listed : other ∈ tables.resources.entries) (distinct : other ≠ entry) :
    z.tiers.schemas.get? (whereKey other.1) = y.tiers.schemas.get? (whereKey other.1) := by
  have off_tier : ¬IsTierOf entry.1 (whereKey other.1) :=
    flat.apart.not_isTierOf_whereKey (Dict.contains_of_mem listed)
      (Dict.contains_of_mem other_listed)
  refine (added.frame off_tier).1.trans (if_neg ?_)
  rintro ⟨_, same⟩
  exact distinct (Dict.entry_unique other_listed listed (whereKey_inj.mp same))

end Step

namespace Progress

variable {s : Snapshot} {settings : Settings} {tables : BuiltTables} {y z : Synthesis}
  {done : List (String × Resource)} {entry : String × Resource}

theorem start (flat : FlatTables s tables) :
    Progress s settings tables [] { tiers := ⟨tables.schemas, .empty⟩ } where
  collapsed _ member := by contradiction
  intact entry listed _ := by
    have taken := Dict.contains_of_mem listed
    exact ⟨(flat.tiers taken (.inl rfl)).1, (flat.tiers taken (.inr (.inl rfl))).1,
      (flat.tiers taken (.inr (.inr rfl))).1, fun _ _ => rfl⟩
  filters _ member := by contradiction
  covered _ _ found := .inl (flat.covered (Dict.contains_iff.mpr ⟨_, found⟩))
  renames _ _ := rfl
  paths _ _ found := by contradiction
  offered _ member := by contradiction

/-- A resource that is not done yet has its update tier, so that its paths are made. -/
theorem addKey_eq (progress : Progress s settings tables done y)
    (listed : entry ∈ tables.resources.entries) (fresh : entry ∉ done) :
    Synthesis.addKey s settings tables y entry =
      y.addResource settings (s.view settings tables entry)
        (tables.schema (updateKey entry.1)) (tables.identifyingProperties entry.1) := by
  have update := (progress.intact entry listed fresh).update
  rw [Synthesis.addKey]
  simp only [update]
  rfl

theorem added (progress : Progress s settings tables done y)
    (listed : entry ∈ tables.resources.entries) (fresh : entry ∉ done)
    (ran : Synthesis.addKey s settings tables y entry = .ok z) :
    tables.Adds s settings entry y z := by
  rw [progress.addKey_eq listed fresh] at ran
  exact Synthesis.added_of_addResource ran

theorem step (flat : FlatTables s tables) (progress : Progress s settings tables done y)
    (before : ∀ other ∈ done, other ∈ tables.resources.entries)
    (listed : entry ∈ tables.resources.entries) (fresh : entry ∉ done)
    (ran : Synthesis.addKey s settings tables y entry = .ok z) :
    Progress s settings tables (done ++ [entry]) z := by
  have added := progress.added listed fresh ran
  have other_of_done : ∀ other ∈ done, other ≠ entry := fun other earlier same =>
    fresh (same ▸ earlier)
  constructor
  case collapsed =>
    intro other member
    rcases List.mem_append.mp member with earlier | last
    · exact (progress.collapsed other earlier).agree
        (added.agree flat listed (before other earlier) (other_of_done other earlier))
    · obtain rfl := List.mem_singleton.mp last
      have intact := (progress.intact other listed fresh).agree
        (flat.withFilter_agree settings listed listed y)
      rw [added.tiers]
      exact intact.collapsed
  case intact =>
    intro other inside absent
    simp only [List.mem_append, List.mem_singleton, not_or] at absent
    exact (progress.intact other inside absent.1).agree
      (added.agree flat listed inside absent.2)
  case filters =>
    intro other member allowed
    rcases List.mem_append.mp member with earlier | last
    · rw [added.get?_whereKey flat listed (before other earlier) (other_of_done other earlier)]
      exact progress.filters other earlier allowed
    · obtain rfl := List.mem_singleton.mp last
      have taken := Dict.contains_of_mem listed
      have off_tier : ¬IsTierOf other.1 (whereKey other.1) :=
        flat.apart.not_isTierOf_whereKey taken taken
      exact (added.frame off_tier).1.trans (if_pos ⟨allowed, rfl⟩)
  case covered =>
    intro key schema found
    by_cases of_entry : IsTierOf entry.1 key
    · exact .inl ⟨entry.1, Dict.contains_of_mem listed, of_entry⟩
    · rw [(added.frame of_entry).1] at found
      split at found
      · rename_i both
        exact .inr ⟨entry, List.mem_append_right _ (.head _), both.1, both.2⟩
      · apply (progress.covered key schema found).imp_right
        rintro ⟨other, earlier, holds⟩
        exact ⟨other, List.mem_append_left _ earlier, holds⟩
  case renames =>
    intro key off
    rw [(added.frame (off _ (Dict.contains_of_mem listed))).2]
    exact progress.renames key off
  case paths =>
    intro path item found
    rcases added.paths found with earlier | own
    · obtain ⟨other, member, offers⟩ := progress.paths path item earlier
      exact ⟨other, List.mem_append_left _ member, offers⟩
    · exact ⟨entry, List.mem_append_right _ (.head _), own⟩
  case offered =>
    intro other member path item offered
    rcases List.mem_append.mp member with earlier | last
    · exact added.keeps (progress.offered other earlier path item offered)
    · obtain rfl := List.mem_singleton.mp last
      exact added.offers offered

/-- What a run over the first resources leaves. -/
theorem of_run (flat : FlatTables s tables) {before after : List (String × Resource)}
    (split : tables.resources.entries = before ++ after)
    (ran : before.foldlM (Synthesis.addKey s settings tables)
      { tiers := ⟨tables.schemas, .empty⟩ } = .ok y) :
    Progress s settings tables before y := by
  suffices onward : ∀ (list done : List (String × Resource)) (y : Synthesis),
      (∃ rest, tables.resources.entries = done ++ list ++ rest) →
      Progress s settings tables done y →
      ∀ z, list.foldlM (Synthesis.addKey s settings tables) y = .ok z →
        Progress s settings tables (done ++ list) z from
    onward before [] _ ⟨after, split⟩ (start flat) y ran
  intro list
  induction list with
  | nil =>
    rintro done y _ progress z ran
    cases ran
    rwa [List.append_nil]
  | cons entry list ih =>
    rintro done y ⟨rest, split⟩ progress z ran
    rw [List.foldlM_cons] at ran
    obtain ⟨middle, added, ran⟩ := bind_eq_ok_iff.mp ran
    have listed : entry ∈ tables.resources.entries := by rw [split]; simp
    have fresh : entry ∉ done :=
      BuiltTables.not_mem_of_split (split.trans (List.append_assoc done (entry :: list) rest))
    have next := progress.step flat (fun other member => by rw [split]; simp [member]) listed fresh
      added
    have result := ih (done ++ [entry]) middle ⟨rest, by simpa using split⟩ next z ran
    simpa using result

/-- A run over all resources ends with all of them done. -/
theorem of_ofTables (flat : FlatTables s tables)
    (ran : Synthesis.ofTables s settings tables = .ok y) :
    Progress s settings tables tables.resources.entries y :=
  of_run flat (List.append_nil _).symm ran

end Progress
end ObjectRole
