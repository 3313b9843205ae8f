import ObjectRole.Model.Snapshot
import Mathlib.Data.List.Sort

/-! The order in which fact types are taken. It is a linear one, so that the fact types alone decide
about it, and not the order in which they are listed. -/
namespace ObjectRole.Snapshot

variable {s : Snapshot}

/-- A fact type comes before another one by its rank, or else by its number. -/
def Before (s : Snapshot) (a b : FactTypeId) : Prop := s.factTypeBefore a b = true

instance (s : Snapshot) : DecidableRel s.Before := fun _ _ => inferInstanceAs (Decidable (_ = _))

theorem before_iff {a b : FactTypeId} : s.Before a b ↔ (s.rank a).toInt < (s.rank b).toInt ∨
    (s.rank a).toInt = (s.rank b).toInt ∧ a.number.toNat ≤ b.number.toNat := by
  rw [Before, factTypeBefore, Bool.or_eq_true, Bool.and_eq_true, decide_eq_true_eq,
    decide_eq_true_eq, beq_iff_eq, Int64.lt_iff_toInt_lt, UInt32.le_iff_toNat_le,
    ← Int64.toInt_inj]

instance (s : Snapshot) : Std.Total s.Before where
  total a b := by
    rw [before_iff, before_iff]
    omega

instance (s : Snapshot) : IsTrans FactTypeId s.Before where
  trans a b c first second := by
    rw [before_iff] at first second ⊢
    omega

instance (s : Snapshot) : Std.Antisymm s.Before where
  antisymm a b before behind := by
    rw [before_iff] at before behind
    have same : a.number.toNat = b.number.toNat := by omega
    exact congrArg FactTypeId.mk (UInt32.toNat_inj.mp same)

/-- Placing fact types one after the other sorts them. -/
theorem orderedFactTypes_eq (s : Snapshot) :
    s.orderedFactTypes = (s.factTypes.map (·.id)).insertionSort s.Before := by
  have place (id : FactTypeId) (list : List FactTypeId) :
      s.placeFactType id list = list.orderedInsert s.Before id := by
    induction list with
    | nil => rfl
    | cons first rest ih =>
      rw [placeFactType, List.orderedInsert_cons, ih]
      rfl
  rw [orderedFactTypes, List.insertionSort, funext₂ place]

/-- Any two lists of the same fact types are sorted alike. -/
theorem insertionSort_eq_of_perm {ids others : List FactTypeId} (perm : ids.Perm others) :
    ids.insertionSort s.Before = others.insertionSort s.Before :=
  List.Perm.eq_of_pairwise' (List.pairwise_insertionSort _ _) (List.pairwise_insertionSort _ _)
    ((List.perm_insertionSort _ _).trans (perm.trans (List.perm_insertionSort _ _).symm))

end ObjectRole.Snapshot
