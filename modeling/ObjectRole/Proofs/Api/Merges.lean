import ObjectRole.Proofs.Api.Renames
import ObjectRole.Proofs.Keys
import ObjectRole.Proofs.Schema.Covers

/-! Folding tiers any number of times, of whatever keys. A key is there or renamed, never both.
Chains of renames end at keys that are there, and the schema there has all that the schemas had
which were folded into it. -/
namespace ObjectRole.Tiers

open Schema

variable {m : SchemaMap} {t : Tiers} {key finer coarser : String} {s : Schema}

/-- A fold changes nothing, or joins two schemas that are there under the key of the coarser one. -/
theorem fold_cases (t : Tiers) (finer coarser : String) (used : Bool) :
    t.fold finer coarser used = t ∨ ∃ fine coarse, t.schemas.get? finer = some fine ∧
      t.schemas.get? coarser = some coarse ∧ t.fold finer coarser used =
        { schemas := ((t.schemas.erase finer).erase coarser).insert coarser (coarse.overlay fine)
          renames := t.renames.record finer coarser } := by
  unfold fold
  split
  · rename_i fine coarse fine_found coarse_found
    split
    · exact .inr ⟨fine, coarse, fine_found, coarse_found, rfl⟩
    · exact .inl rfl
  · exact .inl rfl

theorem get?_joined (m : SchemaMap) (finer coarser : String) (s : Schema) (key : String) :
    (((m.erase finer).erase coarser).insert coarser s).get? key =
      if key = coarser then some s else if key = finer then none else m.get? key := by
  rw [Dict.get?_insert]
  split
  · rfl
  · rename_i other
    rw [Dict.get?_erase, if_neg other, Dict.get?_erase]

/-- What came of a map of schemas whose tiers were folded. -/
structure Folded (m : SchemaMap) (t : Tiers) : Prop where
  /-- What is there is not renamed. -/
  apart : ∀ {key}, t.schemas.contains key → t.renames.byKey.get? key = none
  keys : ∀ key, m.contains key ↔ t.schemas.contains key ∨ t.renames.byKey.contains key
  covers : ∀ {key s}, m.get? key = some s →
    ∃ whole, t.schemas.get? (t.renames.resolve key) = some whole ∧ Covers whole s

theorem folded_start (m : SchemaMap) : Folded m ⟨m, .empty⟩ where
  apart _ := rfl
  keys _ := (or_iff_left Bool.false_ne_true).symm
  covers found := ⟨_, found, .refl _⟩

/-- A fold of two keys leaves what came before as it should be. -/
theorem Folded.fold (folded : Folded m t) (distinct : finer ≠ coarser) (used : Bool) :
    Folded m (t.fold finer coarser used) := by
  rcases fold_cases t finer coarser used with same | ⟨fine, coarse, fine_found, coarse_found, same⟩
  · rw [same]
    exact folded
  rw [same]
  have fresh := folded.apart (Dict.contains_iff.mpr ⟨fine, fine_found⟩)
  have ends := folded.apart (Dict.contains_iff.mpr ⟨coarse, coarse_found⟩)
  have joined := get?_joined t.schemas finer coarser (coarse.overlay fine)
  refine ⟨?_, ?_, ?_⟩
  · intro key there
    rw [Dict.contains_eq_isSome, joined] at there
    rw [Renames.get?_record]
    split at there
    · rename_i at_coarser
      rw [at_coarser, if_neg distinct.symm, ends]
    · split at there
      · contradiction
      · rename_i off_finer
        rw [if_neg off_finer, folded.apart there]
  · intro key
    rw [folded.keys, Dict.contains_eq_isSome, Dict.contains_eq_isSome, Dict.contains_eq_isSome,
      Dict.contains_eq_isSome, joined, Renames.get?_record]
    by_cases at_coarser : key = coarser
    · simp [at_coarser, coarse_found]
    · by_cases at_finer : key = finer
      · simp [at_finer, distinct, fine_found]
      · rw [if_neg at_coarser, if_neg at_finer, if_neg at_finer]
  · intro key s found
    obtain ⟨whole, there, covers⟩ := folded.covers found
    have ended := folded.apart (Dict.contains_iff.mpr ⟨whole, there⟩)
    rw [Renames.resolve_record fresh ends distinct ended]
    -- The schema that a key led to is the finer one, the coarser one or neither.
    split
    · rename_i at_finer
      rw [at_finer, fine_found] at there
      cases there
      exact ⟨coarse.overlay fine, by rw [joined, if_pos rfl],
        (covers_overlay_fine coarse fine).trans covers⟩
    · rename_i off_finer
      by_cases at_coarser : t.renames.resolve key = coarser
      · rw [at_coarser, coarse_found] at there
        cases there
        exact ⟨coarse.overlay fine, by rw [joined, if_pos at_coarser],
          (covers_overlay_coarse coarse fine).trans covers⟩
      · exact ⟨whole, by rw [joined, if_neg at_coarser, if_neg off_finer, there], covers⟩

theorem Folded.collapse (folded : Folded m t) (key : String) (patchUsed postUsed : Bool) :
    Folded m (t.collapse key patchUsed postUsed) :=
  (folded.fold updateKey_ne_newKey patchUsed).fold newKey_ne_self postUsed

/-- A key whose tiers are to be folded, and which of them are used. -/
structure Request where
  key : String
  patchUsed : Bool
  postUsed : Bool

/-- Folds the tiers of some keys, one key after the other. -/
def collapseAll (t : Tiers) (requests : List Request) : Tiers :=
  requests.foldl (fun t request => t.collapse request.key request.patchUsed request.postUsed) t

theorem Folded.collapseAll (folded : Folded m t) (requests : List Request) :
    Folded m (t.collapseAll requests) := by
  induction requests generalizing t with
  | nil => exact folded
  | cons request rest ih => exact ih (folded.collapse _ _ _)

/-- However tiers are folded, the keys that are there and those that were renamed are apart and make
up the keys there were. Each of these leads to one that is there, a key that is there to itself, and
the schema at the end has all that the schema of the key had. -/
theorem collapseAll_keeps (m : SchemaMap) (requests : List Request) :
    let t := collapseAll ⟨m, .empty⟩ requests
    (∀ key, ¬(t.schemas.contains key ∧ t.renames.byKey.contains key)) ∧
    (∀ key, m.contains key ↔ t.schemas.contains key ∨ t.renames.byKey.contains key) ∧
    (∀ key, t.schemas.contains key → t.renames.resolve key = key) ∧
    ∀ key s, m.get? key = some s →
      ∃ whole, t.schemas.get? (t.renames.resolve key) = some whole ∧ Covers whole s := by
  intro t
  have folded : Folded m t := (folded_start m).collapseAll requests
  refine ⟨?_, folded.keys, ?_, fun _ _ => folded.covers⟩
  · rintro key ⟨there, renamed⟩
    rw [Dict.contains_eq_isSome, folded.apart there] at renamed
    contradiction
  · exact fun key there => Renames.resolve_of_none (folded.apart there)

/-- The tiers of a ledger, and a tier that only takes the new tier for a key of its own. -/
def ledgers : SchemaMap := .ofList [
  ("Ledger", Schema.empty.withProperty "owner" (.typed "string")),
  ("NewLedger", Schema.empty.require "owner"),
  ("NewNewLedger", { allOf := some [{ minimum := some (.double 0) }] }),
  ("UpdateLedger", { allOf := some [{ minimum := some (.double 0x8000000000000000) }] })]

theorem collapseAll_keeps_ledgers :
    let t := collapseAll ⟨ledgers, .empty⟩ [⟨"NewLedger", true, false⟩, ⟨"Ledger", false, false⟩]
    t.schemas.keys = ["Ledger"] ∧ t.schemas.contains "Ledger" ∧
      t.renames.resolve "Ledger" = "Ledger" ∧ ∃ s whole,
        ledgers.get? "NewNewLedger" = some s ∧ t.renames.resolve "NewNewLedger" = "Ledger" ∧
          t.schemas.get? "Ledger" = some whole ∧ Covers whole s := by
  intro t
  have keys : t.schemas.keys = ["Ledger"] := by decide +kernel
  have there : t.schemas.contains "Ledger" := by decide +kernel
  have leads : t.renames.resolve "NewNewLedger" = "Ledger" := by decide +kernel
  have known : ledgers.contains "NewNewLedger" := by decide +kernel
  obtain ⟨s, found⟩ := Dict.contains_iff.mp known
  obtain ⟨_, _, stays, covered⟩ :=
    collapseAll_keeps ledgers [⟨"NewLedger", true, false⟩, ⟨"Ledger", false, false⟩]
  obtain ⟨whole, reached, covers⟩ := covered "NewNewLedger" s found
  exact ⟨keys, there, stays "Ledger" there, s, whole, found, leads, leads ▸ reached, covers⟩

end ObjectRole.Tiers
