import ObjectRole.Api.Renames
import ObjectRole.Proofs.Entries

/-! Following renames. A key that was not renamed stands for itself, and recording one more rename
leads on just those chains that ended at the renamed key. -/
namespace ObjectRole.Renames

variable {r : Renames} {key next last old new : String} {steps : Nat}

theorem resolve_of_none (ends : r.byKey.get? key = none) : r.resolve key = key := by
  rw [resolve, follow, ends]

theorem follow_of_none (ends : r.byKey.get? key = none) : ∀ steps, r.follow steps key = key
  | 0 => rfl
  | steps + 1 => by rw [follow, ends]

theorem resolve_of_one (first : r.byKey.get? key = some next) (ends : r.byKey.get? next = none) :
    r.resolve key = next := by
  rw [resolve, follow, first]
  exact follow_of_none ends _

theorem resolve_of_two (first : r.byKey.get? key = some next)
    (second : r.byKey.get? next = some last) (ends : r.byKey.get? last = none) :
    r.resolve key = last := by
  have some_rename : 0 < r.size :=
    List.length_pos_of_mem (Dict.get?_eq_some_iff.mp first)
  obtain ⟨steps, size⟩ := Nat.exists_eq_succ_of_ne_zero (Nat.ne_of_gt some_rename)
  rw [resolve, follow, first, size]
  dsimp only
  rw [follow, second]
  exact follow_of_none ends _

theorem get?_record (r : Renames) (old new key : String) :
    (r.record old new).byKey.get? key = if key = old then some new else r.byKey.get? key :=
  Dict.get?_insert ..

/-- A chain that comes to its end goes one step further if its end is renamed. -/
theorem follow_record (fresh : r.byKey.get? old = none) (ends : r.byKey.get? new = none)
    (distinct : old ≠ new) (ended : r.byKey.get? (r.follow steps key) = none) :
    (r.record old new).follow (steps + 1) key =
      if r.follow steps key = old then new else r.follow steps key := by
  have new_ends : (r.record old new).byKey.get? new = none := by
    rw [get?_record, if_neg distinct.symm, ends]
  have here {key : String} (steps : Nat) (stops : r.byKey.get? key = none) :
      (r.record old new).follow (steps + 1) key = if key = old then new else key := by
    rw [follow, get?_record]
    by_cases renamed : key = old
    · rw [if_pos renamed, if_pos renamed]
      exact follow_of_none new_ends steps
    · rw [if_neg renamed, if_neg renamed, stops]
  induction steps generalizing key with
  | zero => exact here 0 ended
  | succ steps ih =>
    cases renamed : r.byKey.get? key with
    | none =>
      rw [follow_of_none renamed]
      exact here (steps + 1) renamed
    | some next =>
      have other : key ≠ old := by
        rintro rfl
        rw [renamed] at fresh
        contradiction
      have onward : r.follow (steps + 1) key = r.follow steps next := by rw [follow, renamed]
      rw [onward] at ended ⊢
      rw [follow, get?_record, if_neg other, renamed]
      exact ih ended

/-- What a key stands for once the rename of another is recorded. -/
theorem resolve_record (fresh : r.byKey.get? old = none) (ends : r.byKey.get? new = none)
    (distinct : old ≠ new) (ended : r.byKey.get? (r.resolve key) = none) :
    (r.record old new).resolve key = if r.resolve key = old then new else r.resolve key := by
  have size : (r.record old new).size = r.size + 1 := Dict.size_insert fresh new
  rw [resolve, size]
  exact follow_record fresh ends distinct ended

end ObjectRole.Renames
