import ObjectRole.Proofs.Api.Renames
import ObjectRole.Proofs.Keys
import ObjectRole.Proofs.Schema.Names
import ObjectRole.Proofs.Tables.Nested

/-! Folding the tiers of one resource: which tiers are left, what they are, and where references to
the others lead. Tiers that are nested keep their names, and a tier is given up for being as large
as the next one only when both have the same names. -/
namespace ObjectRole

open Schema

/-- The tiers of a resource, and which of them its operations use. -/
structure TierSet where
  update : Schema
  new : Schema
  read : Schema
  patchUsed : Bool
  postUsed : Bool

namespace TierSet

variable (c : TierSet)

/-- Whether the update tier goes into the new tier. -/
def mergesUpdate : Bool := !c.patchUsed || c.update.sameShape c.new

/-- The new tier once the update tier went into it or was kept. -/
def creating : Schema := if c.mergesUpdate then c.new.overlay c.update else c.new

/-- Whether that goes into the read tier. -/
def mergesNew : Bool := !c.postUsed || c.creating.sameShape c.read

/-- The read tier in the end. -/
def reading : Schema := if c.mergesNew then c.read.overlay c.creating else c.read

/-- The tier that creation refers to in the end. -/
def posting : Schema := if c.mergesNew then c.reading else c.creating

/-- The tier that updates refer to in the end. -/
def patching : Schema := if c.mergesUpdate then c.posting else c.update

/-- The tiers are flat and nested. -/
structure Flat (b : BuiltTables) (c : TierSet) : Prop where
  nested : Nested c.update c.new c.read
  update : FlatTier b c.update
  new : FlatTier b c.new
  read : FlatTier b c.read

end TierSet

namespace Tiers

variable {t : Tiers} {key finer coarser other : String} {fine coarse : Schema} {used : Bool}
  {c : TierSet}

theorem fold_frame (t : Tiers) (finer coarser : String) (used : Bool) (off_finer : other ≠ finer) :
    (other ≠ coarser → (t.fold finer coarser used).schemas.get? other = t.schemas.get? other) ∧
      (t.fold finer coarser used).renames.byKey.get? other = t.renames.byKey.get? other := by
  unfold fold
  split
  · split
    · constructor
      · intro off_coarser
        rw [Dict.get?_insert, if_neg off_coarser, Dict.get?_erase, if_neg off_coarser,
          Dict.get?_erase, if_neg off_finer]
      · rw [Renames.record, Dict.get?_insert, if_neg off_finer]
    · exact ⟨fun _ => rfl, rfl⟩
  · exact ⟨fun _ => rfl, rfl⟩

/-- What becomes of the two tiers of a fold, and of the name of the finer one. -/
theorem fold_tiers (used : Bool) (fine_found : t.schemas.get? finer = some fine)
    (coarse_found : t.schemas.get? coarser = some coarse) (distinct : finer ≠ coarser) :
    let merges := !used || fine.sameShape coarse
    (t.fold finer coarser used).schemas.get? finer = (if merges then none else some fine) ∧
    (t.fold finer coarser used).schemas.get? coarser =
      some (if merges then coarse.overlay fine else coarse) ∧
    (t.fold finer coarser used).renames.byKey.get? finer =
      if merges then some coarser else t.renames.byKey.get? finer := by
  intro merges
  rw [fold, fine_found, coarse_found]
  dsimp only
  by_cases merged : merges = true
  · rw [if_pos merged, if_pos merged, if_pos merged, if_pos merged]
    refine ⟨?_, ?_, ?_⟩
    · rw [Dict.get?_insert, if_neg distinct, Dict.get?_erase, if_neg distinct, Dict.get?_erase,
        if_pos rfl]
    · rw [Dict.get?_insert, if_pos rfl]
    · rw [Renames.record, Dict.get?_insert, if_pos rfl]
  · rw [if_neg merged, if_neg merged, if_neg merged, if_neg merged]
    exact ⟨fine_found, coarse_found, rfl⟩

/-- The tiers of a resource before they are folded. -/
structure Intact (t : Tiers) (key : String) (c : TierSet) : Prop where
  update : t.schemas.get? (updateKey key) = some c.update
  new : t.schemas.get? (newKey key) = some c.new
  read : t.schemas.get? key = some c.read
  unrenamed : ∀ tier, IsTierOf key tier → t.renames.byKey.get? tier = none

/-- The tiers of a resource after they were folded. -/
structure Collapsed (t : Tiers) (key : String) (c : TierSet) : Prop where
  update : t.schemas.get? (updateKey key) = if c.mergesUpdate then none else some c.update
  new : t.schemas.get? (newKey key) = if c.mergesNew then none else some c.creating
  read : t.schemas.get? key = some c.reading
  update_renamed : t.renames.byKey.get? (updateKey key) =
    if c.mergesUpdate then some (newKey key) else none
  new_renamed : t.renames.byKey.get? (newKey key) = if c.mergesNew then some key else none
  read_unrenamed : t.renames.byKey.get? key = none

/-- What the second fold of a resource finds. -/
theorem Intact.folded (intact : Intact t key c) :
    (t.fold (updateKey key) (newKey key) c.patchUsed).schemas.get? (newKey key) = some c.creating ∧
      (t.fold (updateKey key) (newKey key) c.patchUsed).schemas.get? key = some c.read := by
  obtain ⟨_, new_left, _⟩ := fold_tiers c.patchUsed intact.update intact.new updateKey_ne_newKey
  have read_left := (fold_frame t (updateKey key) (newKey key) c.patchUsed
    updateKey_ne_self.symm).1 newKey_ne_self.symm
  exact ⟨new_left, read_left.trans intact.read⟩

theorem Intact.collapsed (intact : Intact t key c) :
    Collapsed (t.collapse key c.patchUsed c.postUsed) key c := by
  have unrenamed := intact.unrenamed
  obtain ⟨new_left, read_left⟩ := intact.folded
  obtain ⟨update_left, _, update_renamed⟩ :=
    fold_tiers c.patchUsed intact.update intact.new updateKey_ne_newKey
  obtain ⟨new_end, read_end, new_renamed⟩ :=
    fold_tiers c.postUsed new_left read_left newKey_ne_self
  have read_first := fold_frame t (updateKey key) (newKey key) c.patchUsed updateKey_ne_self.symm
  have update_second := fold_frame (t.fold (updateKey key) (newKey key) c.patchUsed) (newKey key)
    key c.postUsed (updateKey_ne_newKey : updateKey key ≠ newKey key)
  have new_first := fold_frame t (updateKey key) (newKey key) c.patchUsed
    (newKey_ne_updateKey : newKey key ≠ updateKey key)
  have read_second := fold_frame (t.fold (updateKey key) (newKey key) c.patchUsed) (newKey key) key
    c.postUsed newKey_ne_self.symm
  refine ⟨(update_second.1 updateKey_ne_self).trans update_left, new_end, read_end, ?_, ?_, ?_⟩
  · rw [unrenamed _ (.inl rfl)] at update_renamed
    exact update_second.2.trans update_renamed
  · rw [new_first.2, unrenamed _ (.inr (.inl rfl))] at new_renamed
    exact new_renamed
  · exact read_second.2.trans (read_first.2.trans (unrenamed _ (.inr (.inr rfl))))

/-- Folding the tiers of a resource leaves all others alone. -/
theorem collapse_frame (t : Tiers) (patchUsed postUsed : Bool) (other_key : ¬IsTierOf key other) :
    (t.collapse key patchUsed postUsed).schemas.get? other = t.schemas.get? other ∧
      (t.collapse key patchUsed postUsed).renames.byKey.get? other =
        t.renames.byKey.get? other := by
  simp only [IsTierOf, not_or] at other_key
  obtain ⟨off_update, off_new, off_read⟩ := other_key
  have first := fold_frame t (updateKey key) (newKey key) patchUsed off_update
  have second := fold_frame (t.fold (updateKey key) (newKey key) patchUsed) (newKey key) key
    postUsed off_new
  exact ⟨(second.1 off_read).trans (first.1 off_new), second.2.trans first.2⟩

namespace Collapsed

variable (collapsed : Collapsed t key c)
include collapsed

theorem resolve_read : t.renames.resolve key = key :=
  Renames.resolve_of_none collapsed.read_unrenamed

theorem resolve_new : t.renames.resolve (newKey key) = if c.mergesNew then key else newKey key := by
  have renamed := collapsed.new_renamed
  split
  · rename_i merges
    rw [if_pos merges] at renamed
    exact Renames.resolve_of_one renamed collapsed.read_unrenamed
  · rename_i keeps
    rw [if_neg keeps] at renamed
    exact Renames.resolve_of_none renamed

theorem resolve_update : t.renames.resolve (updateKey key) =
    if c.mergesUpdate then t.renames.resolve (newKey key) else updateKey key := by
  have renamed := collapsed.update_renamed
  split
  · rename_i merges
    rw [if_pos merges] at renamed
    have next := collapsed.new_renamed
    rw [collapsed.resolve_new]
    split
    · rename_i merges_new
      rw [if_pos merges_new] at next
      exact Renames.resolve_of_two renamed next collapsed.read_unrenamed
    · rename_i keeps
      rw [if_neg keeps] at next
      exact Renames.resolve_of_one renamed next
  · rename_i keeps
    rw [if_neg keeps] at renamed
    exact Renames.resolve_of_none renamed

theorem get?_posting : t.schemas.get? (t.renames.resolve (newKey key)) = some c.posting := by
  rw [collapsed.resolve_new, TierSet.posting]
  split
  · exact collapsed.read
  · rename_i keeps
    rw [collapsed.new, if_neg keeps]

theorem get?_patching : t.schemas.get? (t.renames.resolve (updateKey key)) = some c.patching := by
  rw [collapsed.resolve_update, TierSet.patching]
  split
  · exact collapsed.get?_posting
  · rename_i keeps
    rw [collapsed.update, if_neg keeps]

/-- What is left under the key of a tier. -/
theorem tier_cases {tier : String} {schema : Schema} (is_tier : IsTierOf key tier)
    (found : t.schemas.get? tier = some schema) :
    schema = c.update ∨ schema = c.creating ∨ schema = c.reading := by
  rcases is_tier with rfl | rfl | rfl
  · rw [collapsed.update] at found
    split at found
    · contradiction
    · exact .inl (Option.some.inj found).symm
  · rw [collapsed.new] at found
    split at found
    · contradiction
    · exact .inr (.inl (Option.some.inj found).symm)
  · rw [collapsed.read] at found
    exact .inr (.inr (Option.some.inj found).symm)

end Collapsed
end Tiers

/-- A tier stays flat when one within it is folded in. -/
theorem FlatTier.overlay {b : BuiltTables} {fine coarse : Schema} (flat : FlatTier b coarse)
    (within : Within fine coarse) (none : fine.allOf = none) :
    FlatTier b (coarse.overlay fine) := by
  obtain ⟨properties, required, same_fields, same_required, same⟩ := within.overlay_eq none
  have fields : (coarse.overlay fine).fields = coarse.fields := by rw [same]; exact same_fields
  have requires : (coarse.overlay fine).requiredNames = coarse.requiredNames := by
    rw [same]
    exact same_required
  have plain : (coarse.overlay fine).Plain := by
    rw [same]
    exact ⟨flat.plain.reference, flat.plain.items, flat.plain.oneOf⟩
  have inherits : (coarse.overlay fine).allOf = Option.none := by
    rw [same]
    exact flat.allOf
  exact ⟨⟨fields ▸ flat.tidy.fields, requires ▸ flat.tidy.required⟩, plain, inherits,
    fields ▸ flat.coherent, fields ▸ flat.knows⟩

namespace TierSet.Flat

variable {b : BuiltTables} {c : TierSet} (flat : c.Flat b)
include flat

theorem creating_sameNames : SameNames c.creating c.new := by
  rw [creating]
  split
  · exact flat.nested.update_new.overlay_sameNames flat.update.allOf
  · exact .refl _

theorem creating_flat : FlatTier b c.creating := by
  rw [creating]
  split
  · exact flat.new.overlay flat.nested.update_new flat.update.allOf
  · exact flat.new

theorem creating_read : Within c.creating c.read :=
  flat.creating_sameNames.within.trans flat.nested.new_read

theorem reading_sameNames : SameNames c.reading c.read := by
  rw [reading]
  split
  · exact flat.creating_read.overlay_sameNames flat.creating_flat.allOf
  · exact .refl _

theorem reading_flat : FlatTier b c.reading := by
  rw [reading]
  split
  · exact flat.read.overlay flat.creating_read flat.creating_flat.allOf
  · exact flat.read

theorem mergesUpdate_iff : c.mergesUpdate = true ↔
    c.patchUsed = false ∨ c.new.requiredNames = [] := by
  rw [mergesUpdate, Bool.or_eq_true, Bool.not_eq_true',
    flat.nested.update_new.sameShape_iff flat.update.tidy flat.new.tidy]
  apply or_congr_right
  constructor
  · intro same
    exact same.symm.requires_nothing flat.nested.update_requires
  · intro none
    refine ⟨flat.nested.update_new.properties, ?_⟩
    rw [none, flat.nested.update_requires]
    exact fun _ => .rfl

theorem mergesNew_iff : c.mergesNew = true ↔
    c.postUsed = false ∨ c.read.requiredNames ⊆ c.new.requiredNames := by
  rw [mergesNew, Bool.or_eq_true, Bool.not_eq_true',
    flat.creating_read.sameShape_iff flat.creating_flat.tidy flat.read.tidy]
  apply or_congr_right
  constructor
  · intro same name listed
    exact (flat.creating_sameNames.required name).mp ((same.required name).mpr listed)
  · intro inside
    apply flat.creating_sameNames.trans
    refine ⟨flat.nested.new_read.properties, ?_⟩
    intro name
    exact ⟨fun listed => flat.nested.new_read.required listed, fun listed => inside listed⟩

/-- Where updates are used, their tier goes into the new tier only when that requires nothing. -/
theorem new_requires_nothing (used : c.patchUsed = true) (merges : c.mergesUpdate = true) :
    c.new.requiredNames = [] := by
  rcases flat.mergesUpdate_iff.mp merges with unused | none
  · rw [used] at unused
    contradiction
  · exact none

/-- Where creation is used, the new tier goes into the read tier only when it requires as much. -/
theorem new_requires_read (used : c.postUsed = true) (merges : c.mergesNew = true) :
    c.read.requiredNames ⊆ c.new.requiredNames := by
  rcases flat.mergesNew_iff.mp merges with unused | inside
  · rw [used] at unused
    contradiction
  · exact inside

/-- Where creation is used, it refers to the names of the new tier. -/
theorem posting_sameNames (used : c.postUsed = true) : SameNames c.posting c.new := by
  rw [posting]
  split
  · rename_i merges
    have inside := flat.new_requires_read used merges
    apply flat.reading_sameNames.trans
    constructor
    · intro name
      exact (flat.nested.new_read.properties name).symm
    · intro name
      exact ⟨fun listed => inside listed, fun listed => flat.nested.new_read.required listed⟩
  · exact flat.creating_sameNames

/-- The properties that updates refer to are those of the update tier. -/
theorem patching_properties (name : String) :
    name ∈ c.patching.propertyNames ↔ name ∈ c.update.propertyNames := by
  have update_new := flat.nested.update_new.properties name
  have new_read := flat.nested.new_read.properties name
  rw [patching, posting]
  split
  · split
    · rw [flat.reading_sameNames.properties, update_new, new_read]
    · rw [flat.creating_sameNames.properties, update_new]
  · rfl

/-- Updates demand at most `id`. -/
theorem patching_requires (used : c.patchUsed = true) :
    ∀ name ∈ c.patching.requiredNames, name = "id" := by
  intro name listed
  rw [patching] at listed
  split at listed
  · rename_i merges
    have none := flat.new_requires_nothing used merges
    have read : name ∈ c.read.requiredNames := by
      rw [posting] at listed
      split at listed
      · exact (flat.reading_sameNames.required name).mp listed
      · exact flat.creating_read.required listed
    rcases flat.nested.read_requires name read with new | id
    · rw [none] at new
      contradiction
    · exact id
  · rw [flat.nested.update_requires] at listed
    contradiction

theorem patching_sameNames_iff_nothing :
    SameNames c.patching c.update ↔ c.patching.requiredNames = [] := by
  constructor
  · intro same
    exact same.requires_nothing flat.nested.update_requires
  · intro none
    refine ⟨flat.patching_properties, ?_⟩
    rw [none, flat.nested.update_requires]
    exact fun _ => .rfl

/-- What creation refers to requires nothing, where nothing is required of new ones, if it is used
or nothing is required of those that are read either. -/
theorem posting_requires_nothing_iff (none : c.new.requiredNames = []) :
    c.posting.requiredNames = [] ↔ c.postUsed = true ∨ c.read.requiredNames = [] := by
  rw [posting]
  split
  · rename_i merges
    rw [flat.reading_sameNames.requires_nothing_iff]
    constructor
    · intro empty
      exact .inr empty
    · rintro (used | empty)
      · exact List.subset_nil.mp (none ▸ flat.new_requires_read used merges)
      · exact empty
  · rename_i keeps
    have used : c.postUsed = true := by
      by_contra unused
      exact keeps (flat.mergesNew_iff.mpr (.inl (Bool.not_eq_true _ ▸ unused)))
    constructor
    · intro _
      exact .inl used
    · intro _
      exact flat.creating_sameNames.requires_nothing none

/-- Where updates are used, what they demand is what the update tier does, unless creation is
unused, nothing is required of new ones and something is of those that are read. -/
theorem patching_sameNames_iff (used : c.patchUsed = true) : SameNames c.patching c.update ↔
    c.postUsed = true ∨ c.new.requiredNames ≠ [] ∨ c.read.requiredNames = [] := by
  rw [flat.patching_sameNames_iff_nothing, patching]
  split
  · rename_i merges
    have none := flat.new_requires_nothing used merges
    rw [flat.posting_requires_nothing_iff none]
    constructor
    · rintro (post | empty)
      · exact .inl post
      · exact .inr (.inr empty)
    · rintro (post | some | empty)
      · exact .inl post
      · exact absurd none some
      · exact .inr empty
  · rename_i keeps
    have some : c.new.requiredNames ≠ [] := by
      intro none
      exact keeps (flat.mergesUpdate_iff.mpr (.inr none))
    constructor
    · intro _
      exact .inr (.inl some)
    · intro _
      exact flat.nested.update_requires

end TierSet.Flat
end ObjectRole
