import ObjectRole.Api.Operations

/-! Keys of tiers. Tiers of different resources have different keys as long as no resource key is a
tier key of another. In key order the new tier of a resource and its supertypes' tiers may come
before or behind the read tier; which of these orders exclude each other is said here. -/
namespace ObjectRole

variable {a b k : String}

@[simp] theorem newKey_inj : newKey a = newKey b ↔ a = b := String.append_right_inj _

@[simp] theorem updateKey_inj : updateKey a = updateKey b ↔ a = b := String.append_right_inj _

@[simp] theorem whereKey_inj : whereKey a = whereKey b ↔ a = b := String.append_right_inj _

@[simp] theorem newKey_ne_updateKey : newKey a ≠ updateKey b := fun h => by
  simpa [newKey, updateKey] using congrArg String.toList h

@[simp] theorem updateKey_ne_newKey : updateKey a ≠ newKey b := newKey_ne_updateKey.symm

@[simp] theorem whereKey_ne_newKey : whereKey a ≠ newKey b := fun h => by
  simpa [newKey, whereKey] using congrArg String.toList h

@[simp] theorem whereKey_ne_updateKey : whereKey a ≠ updateKey b := fun h => by
  simpa [updateKey, whereKey] using congrArg String.toList h

@[simp] theorem newKey_ne_self : newKey k ≠ k := fun h => by
  have := congrArg (fun s => s.toList.length) h
  simp only [newKey, String.toList_append, List.length_append] at this
  have : "New".toList.length = 3 := rfl
  omega

@[simp] theorem updateKey_ne_self : updateKey k ≠ k := fun h => by
  have := congrArg (fun s => s.toList.length) h
  simp only [updateKey, String.toList_append, List.length_append] at this
  have : "Update".toList.length = 6 := rfl
  omega

/-- The models that every document has are no tiers and no filters. -/
theorem reserved_ne {reserved : String} (is_reserved : reserved = listModelKey ∨
    reserved = errorModelKey) : reserved ≠ newKey a ∧ reserved ≠ updateKey a ∧
      reserved ≠ whereKey a := by
  rcases is_reserved with rfl | rfl <;>
    exact ⟨fun h => by simpa [newKey, listModelKey, errorModelKey] using congrArg String.toList h,
      fun h => by simpa [updateKey, listModelKey, errorModelKey] using congrArg String.toList h,
      fun h => by simpa [whereKey, listModelKey, errorModelKey] using congrArg String.toList h⟩

theorem toList_newKey (a : String) : (newKey a).toList = 'N' :: 'e' :: 'w' :: a.toList :=
  String.toList_append

theorem newKey_lt_newKey : newKey a < newKey b ↔ a < b := by
  rw [String.lt_iff, String.lt_iff, toList_newKey, toList_newKey, List.cons_lt_cons_self,
    List.cons_lt_cons_self, List.cons_lt_cons_self]

theorem newKey_lt_updateKey : newKey a < updateKey b := by
  have first : 'N' < 'U' := by decide
  rw [String.lt_iff, toList_newKey, updateKey, String.toList_append]
  exact List.cons_lt_cons_iff.mpr (.inl first)

/-- What lies between two texts of one beginning has that beginning. -/
theorem eq_append_of_between (start low mid high : List Char) (above : start ++ low < mid)
    (below : mid < start ++ high) : ∃ rest, mid = start ++ rest := by
  induction start generalizing mid with
  | nil => exact ⟨mid, rfl⟩
  | cons c start ih =>
    cases mid with
    | nil => exact absurd above (List.not_lt_nil _)
    | cons d mid =>
      rcases List.cons_lt_cons_iff.mp above with before | ⟨rfl, tail_above⟩
      · rcases List.cons_lt_cons_iff.mp below with after | ⟨rfl, _⟩
        · exact absurd (Char.lt_trans before after) (Char.lt_irrefl _)
        · exact absurd before (Char.lt_irrefl _)
      · rcases List.cons_lt_cons_iff.mp below with after | ⟨_, tail_below⟩
        · exact absurd after (Char.lt_irrefl _)
        · obtain ⟨rest, rfl⟩ := ih mid tail_above tail_below
          exact ⟨rest, rfl⟩

/-- A read tier before its own new tier comes before every update tier. -/
theorem not_updateKey_lt (early : k < newKey k) : ¬updateKey a < k := fun h =>
  String.lt_asymm (String.lt_trans h early) newKey_lt_updateKey

/-- A read tier before its own new tier and before another read tier comes before the new tier of
that one. -/
theorem not_newKey_lt (early : k < newKey k) (above : k < a) : ¬newKey a < k := fun h => by
  have low : (newKey a).toList < k.toList := String.lt_iff.mp h
  have high : k.toList < (newKey k).toList := String.lt_iff.mp early
  rw [newKey, String.toList_append] at low high
  obtain ⟨rest, same⟩ := eq_append_of_between "New".toList a.toList k.toList k.toList low high
  obtain rfl : k = newKey (.ofList rest) := by
    rw [← String.ofList_toList (s := k), same, String.ofList_append, String.ofList_toList, newKey]
  have rest_above : a < .ofList rest := newKey_lt_newKey.mp h
  have rest_early : .ofList rest < newKey (.ofList rest) := newKey_lt_newKey.mp early
  exact String.lt_irrefl _ (String.lt_trans above (String.lt_trans rest_above rest_early))

end ObjectRole
