import ObjectRole.Proofs.Model.Consistent
import Mathlib.Algebra.BigOperators.Group.List.Basic

/-! Documents that declare the same in another order. They mean the same, and so they resolve if one
of them does. -/
namespace ObjectRole.Document

open NounPattern

variable {d other : Document} {name : String} {f : FactTypeDeclaration}

/-- The other document declares the same. Nouns may come in any order, and fact types, too, if each
of them has an order of its own. -/
structure Reorders (d other : Document) : Prop where
  nouns : other.nouns.Perm d.nouns
  factTypes : other.factTypes.Perm d.factTypes
  ordered : other.factTypes = d.factTypes ∨
    (∀ f ∈ d.factTypes, f.order.isSome) ∧ (d.factTypes.map (·.order)).Nodup
  constraints : other.constraints = d.constraints
  examples : other.examples = d.examples
  jsonExamples : other.jsonExamples = d.jsonExamples

namespace Reorders

variable (reorders : d.Reorders other)
include reorders

theorem mem_names : name ∈ other.nouns.map (·.name) ↔ name ∈ d.nouns.map (·.name) :=
  (reorders.nouns.map _).mem_iff

theorem mem_titles : name ∈ other.factTypes.map (·.title) ↔ name ∈ d.factTypes.map (·.title) :=
  (reorders.factTypes.map _).mem_iff

theorem mem_factTypes : f ∈ other.factTypes ↔ f ∈ d.factTypes := reorders.factTypes.mem_iff

/-! ## The meaning of names -/

theorem tokenize (text : String) : other.pattern.tokenize text = d.pattern.tokenize text := by
  refine tokenize_congr (fun name => ?_) text
  rw [List.mem_append, List.mem_append, reorders.mem_names,
    (reorders.factTypes.filterMap _).mem_iff]

theorem roleNames (f : FactTypeDeclaration) : other.roleNames f = d.roleNames f := by
  simp only [Document.roleNames, reorders.tokenize]

theorem referent? (name : String) : other.referent? name = d.referent? name := by
  simp only [Document.referent?, reorders.mem_names, reorders.mem_titles]

theorem referents (f : FactTypeDeclaration) : other.referents f = d.referents f := by
  rw [Document.referents, Document.referents, reorders.roleNames, funext reorders.referent?]

theorem picks (f : FactTypeDeclaration) (position : RolePosition) :
    other.Picks f position ↔ d.Picks f position := by
  cases position with
  | index place => rw [Picks, Picks, reorders.roleNames]
  | player name => rw [Picks, Picks, reorders.referents]

theorem edge {a b : Referent} (edge : other.Edge a b) : d.Edge a b := by
  cases edge with
  | superType declared above => exact .superType (reorders.nouns.mem_iff.mp declared) above
  | scheme declared listed => exact .scheme (reorders.nouns.mem_iff.mp declared) listed
  | player declared plays =>
    exact .player (reorders.mem_factTypes.mp declared) (reorders.referents _ ▸ plays)

theorem nounClear (n : NounDeclaration) : other.NounClear n ↔ d.NounClear n := by
  simp only [NounClear, reorders.mem_names]

theorem factTypeClear (f : FactTypeDeclaration) : other.FactTypeClear f ↔ d.FactTypeClear f := by
  simp only [FactTypeClear, ReadingsClear, reorders.referent?, reorders.tokenize,
    reorders.referents]

theorem constraintClear (c : ConstraintDeclaration) :
    other.ConstraintClear c ↔ d.ConstraintClear c := by
  simp only [ConstraintClear, reorders.mem_factTypes, reorders.picks]

/-! ## Counts -/

theorem roleCount : other.roleCount other.factTypes = d.roleCount d.factTypes := by
  rw [Document.roleCount, Document.roleCount, ← funext reorders.roleNames]
  exact (reorders.factTypes.map _).sum_eq

theorem numberable (numberable : d.Numberable) : other.Numberable where
  nouns := reorders.nouns.length_eq ▸ numberable.nouns
  factTypes := reorders.factTypes.length_eq ▸ numberable.factTypes
  roles := reorders.roleCount ▸ numberable.roles

theorem ruleCount : other.ruleCount = d.ruleCount := by
  rw [Document.ruleCount, Document.ruleCount, reorders.constraints,
    (reorders.factTypes.map _).sum_eq]

theorem checkNames : other.checkNames = .ok () ↔ d.checkNames = .ok () := by
  rw [checkNames_eq_ok_iff, checkNames_eq_ok_iff, (reorders.nouns.map _).nodup_iff,
    (reorders.factTypes.map _).nodup_iff]

/-- What resolves in one order resolves in another. -/
theorem exists_resolve (numberable : d.Numberable) {s : Snapshot} (resolved : d.resolve = .ok s) :
    ∃ t, other.resolve = .ok t := by
  have other_numberable := reorders.numberable numberable
  obtain ⟨names_clear, parts, made, related, rules, examples, jsonExamples, acyclic⟩ :=
    exists_resolve_iff.mp ⟨s, resolved⟩
  obtain ⟨names, titles⟩ := checkNames_eq_ok_iff.mp names_clear
  have other_clear := reorders.checkNames.mpr names_clear
  obtain ⟨other_names, other_titles⟩ := checkNames_eq_ok_iff.mp other_clear
  obtain ⟨nouns, factTypes⟩ := (exists_resolveParts_iff numberable).mp ⟨parts, made⟩
  obtain ⟨other_parts, other_made⟩ := (exists_resolveParts_iff other_numberable).mpr
    ⟨fun n declared => (reorders.nounClear n).mpr (nouns n (reorders.nouns.mem_iff.mp declared)),
      fun f declared => (reorders.factTypeClear f).mpr
        (factTypes f (reorders.mem_factTypes.mp declared))⟩
  have numbers := numbers_of_resolveParts numberable made
  have other_numbers := numbers_of_resolveParts other_numberable other_made
  have formed := wellFormed_of_resolveParts numberable names_clear made
  have other_formed := wellFormed_of_resolveParts other_numberable other_clear other_made
  refine exists_resolve_iff.mpr ⟨other_clear, other_parts, other_made, ?_, ?_, ?_, ?_, ?_⟩
  · refine (forall_checkRelationship_iff other_numbers).mpr fun f declared binary => ?_
    rw [reorders.roleNames]
    exact (forall_checkRelationship_iff numbers).mp related f
      (reorders.mem_factTypes.mp declared) binary
  · refine (exists_resolveRules_iff other_numberable other_numbers other_titles).mpr ?_
    rw [reorders.constraints]
    exact fun c listed => (reorders.constraintClear c).mpr
      ((exists_resolveRules_iff numberable numbers titles).mp rules c listed)
  · intro e listed
    rw [reorders.examples] at listed
    obtain ⟨f, declared, fits⟩ :=
      (exists_resolveExample_iff numberable numbers titles).mp (examples e listed)
    rw [exists_resolveExample_iff other_numberable other_numbers other_titles]
    exact ⟨f, reorders.mem_factTypes.mpr declared, reorders.roleNames f ▸ fits⟩
  · intro e listed
    rw [exists_resolveJsonExample_iff, reorders.referent?]
    exact exists_resolveJsonExample_iff.mp (jsonExamples e (reorders.jsonExamples ▸ listed))
  · refine (checkAcyclic_iff other_numberable other_numbers other_formed other_names
      other_titles).mpr fun r loop => ?_
    exact (checkAcyclic_iff numberable numbers formed names titles).mp acyclic r
      (loop.lift id fun _ _ => reorders.edge)

end Reorders
end ObjectRole.Document
