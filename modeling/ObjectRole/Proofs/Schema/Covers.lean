import ObjectRole.Proofs.Schema.Equality
import ObjectRole.Proofs.Schema.Names

/-! A tier that another one is folded into has all that either had: properties, required names and
entries of `allOf`. Entries are the same if they are equal as values. -/
namespace ObjectRole.Schema

variable {whole middle part coarse fine : Schema} {name : String} {entry : Schema}

/-- All names and entries of a schema are there in another one, too. -/
structure Covers (whole part : Schema) : Prop where
  properties : part.propertyNames ⊆ whole.propertyNames
  required : part.requiredNames ⊆ whole.requiredNames
  parents : ∀ entry ∈ part.parents, ∃ kept ∈ whole.parents, kept.same entry = true

theorem Covers.refl (s : Schema) : Covers s s :=
  ⟨List.Subset.refl _, List.Subset.refl _, fun entry listed => ⟨entry, listed, entry.same_refl⟩⟩

theorem Covers.trans (first : Covers whole middle) (second : Covers middle part) :
    Covers whole part where
  properties := List.Subset.trans second.properties first.properties
  required := List.Subset.trans second.required first.required
  parents entry listed := by
    obtain ⟨kept, there, equal⟩ := second.parents entry listed
    obtain ⟨last, remains, also⟩ := first.parents kept there
    exact ⟨last, remains, same_trans _ _ _ also equal⟩

theorem mem_propertyNames_withNewProperty {s p : Schema} {other : String} :
    name ∈ (s.withNewProperty other p).propertyNames ↔ name = other ∨ name ∈ s.propertyNames := by
  unfold withNewProperty
  split
  · rename_i there
    refine ⟨.inr, ?_⟩
    rintro (rfl | listed)
    · exact Entries.contains_iff.mp there
    · exact listed
  · exact mem_propertyNames_withProperty

theorem mem_propertyNames_withFields {s : Schema} {properties : Option (List (String × Schema))} :
    name ∈ (s.withFields properties).propertyNames ↔
      name ∈ s.propertyNames ∨ name ∈ (properties.getD []).map (·.1) := by
  cases properties with
  | none => simp [withFields]
  | some entries =>
    change name ∈ (entries.foldl (fun (s : Schema) entry => s.withNewProperty entry.1 entry.2)
      { s with properties := some s.fields }).propertyNames ↔
        name ∈ ({ s with properties := some s.fields } : Schema).propertyNames ∨ _
    generalize { s with properties := some s.fields } = start
    rw [Option.getD_some]
    induction entries generalizing start with
    | nil => simp
    | cons entry rest ih =>
      rw [List.foldl_cons, ih, mem_propertyNames_withNewProperty, List.map_cons, List.mem_cons]
      exact ⟨by tauto, by tauto⟩

/-- Adding properties leaves all else as it was. -/
theorem withFields_frame (s : Schema) (properties : Option (List (String × Schema))) :
    (s.withFields properties).requiredNames = s.requiredNames ∧
      (s.withFields properties).parents = s.parents := by
  cases properties with
  | none => exact ⟨rfl, rfl⟩
  | some entries =>
    refine foldl_keeps (P := fun c : Schema => c.requiredNames = s.requiredNames ∧
      c.parents = s.parents) (fun c kept entry => ?_) entries ⟨rfl, rfl⟩
    unfold withNewProperty
    split <;> exact kept

theorem mem_requiredNames_foldl_require {s : Schema} {names : List String} :
    name ∈ (names.foldl require s).requiredNames ↔ name ∈ s.requiredNames ∨ name ∈ names := by
  induction names generalizing s with
  | nil => simp
  | cons other rest ih =>
    rw [List.foldl_cons, ih, mem_requiredNames_require, List.mem_cons, or_assoc]

/-- Requiring names leaves all else as it was. -/
theorem foldl_require_frame (s : Schema) (names : List String) :
    (names.foldl require s).propertyNames = s.propertyNames ∧
      (names.foldl require s).parents = s.parents := by
  refine foldl_keeps (P := fun c : Schema => c.propertyNames = s.propertyNames ∧
    c.parents = s.parents) ?_ names ⟨rfl, rfl⟩
  exact fun _ kept _ => kept

theorem mem_appendNew {parents : List Schema} {other : Schema} (listed : entry ∈ parents) :
    entry ∈ appendNew parents other := by
  unfold appendNew
  split
  · exact listed
  · exact List.mem_append_left _ listed

theorem exists_mem_appendNew (parents : List Schema) (entry : Schema) :
    ∃ kept ∈ appendNew parents entry, kept.same entry = true := by
  unfold appendNew
  split
  · rename_i there
    exact List.any_eq_true.mp there
  · exact ⟨entry, List.mem_append_right _ (.head _), entry.same_refl⟩

theorem foldl_appendNew {parents entries : List Schema} :
    parents ⊆ entries.foldl appendNew parents ∧
      ∀ entry ∈ entries, ∃ kept ∈ entries.foldl appendNew parents, kept.same entry = true := by
  induction entries generalizing parents with
  | nil => exact ⟨List.Subset.refl _, nofun⟩
  | cons first rest ih =>
    obtain ⟨keeps, appended⟩ := @ih (appendNew parents first)
    refine ⟨fun entry listed => keeps (mem_appendNew listed), ?_⟩
    intro entry listed
    rcases List.mem_cons.mp listed with rfl | later
    · obtain ⟨kept, there, equal⟩ := exists_mem_appendNew parents entry
      exact ⟨kept, keeps there, equal⟩
    · exact appended entry later

theorem withParents_parents (s : Schema) (entries : Option (List Schema)) :
    s.parents ⊆ (s.withParents entries).parents ∧ ∀ entry ∈ entries.getD [],
      ∃ kept ∈ (s.withParents entries).parents, kept.same entry = true := by
  cases entries with
  | none => exact ⟨List.Subset.refl _, nofun⟩
  | some entries => exact foldl_appendNew

theorem withParents_frame (s : Schema) (entries : Option (List Schema)) :
    (s.withParents entries).propertyNames = s.propertyNames ∧
      (s.withParents entries).requiredNames = s.requiredNames := by
  cases entries <;> exact ⟨rfl, rfl⟩

/-- The properties of two folded tiers are those of both. -/
theorem mem_propertyNames_overlay : name ∈ (coarse.overlay fine).propertyNames ↔
    name ∈ coarse.propertyNames ∨ name ∈ fine.propertyNames := by
  change name ∈ (withParents (fine.requiredNames.foldl require
    (coarse.withFields fine.properties)) fine.allOf).propertyNames ↔ _
  rw [(withParents_frame ..).1, (foldl_require_frame ..).1, mem_propertyNames_withFields]
  rfl

theorem mem_requiredNames_overlay : name ∈ (coarse.overlay fine).requiredNames ↔
    name ∈ coarse.requiredNames ∨ name ∈ fine.requiredNames := by
  change name ∈ (withParents (fine.requiredNames.foldl require
    (coarse.withFields fine.properties)) fine.allOf).requiredNames ↔ _
  rw [(withParents_frame ..).2, mem_requiredNames_foldl_require, (withFields_frame ..).1]

theorem parents_overlay (coarse fine : Schema) : coarse.parents ⊆ (coarse.overlay fine).parents ∧
    ∀ entry ∈ fine.parents, ∃ kept ∈ (coarse.overlay fine).parents, kept.same entry = true := by
  have both := withParents_parents (fine.requiredNames.foldl require
    (coarse.withFields fine.properties)) fine.allOf
  rwa [(foldl_require_frame ..).2, (withFields_frame ..).2] at both

theorem covers_overlay_coarse (coarse fine : Schema) : Covers (coarse.overlay fine) coarse where
  properties _ listed := mem_propertyNames_overlay.mpr (.inl listed)
  required _ listed := mem_requiredNames_overlay.mpr (.inl listed)
  parents entry listed := ⟨entry, (parents_overlay coarse fine).1 listed, entry.same_refl⟩

theorem covers_overlay_fine (coarse fine : Schema) : Covers (coarse.overlay fine) fine where
  properties _ listed := mem_propertyNames_overlay.mpr (.inr listed)
  required _ listed := mem_requiredNames_overlay.mpr (.inr listed)
  parents := (parents_overlay coarse fine).2

end ObjectRole.Schema
