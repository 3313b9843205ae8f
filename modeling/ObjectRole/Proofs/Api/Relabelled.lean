import ObjectRole.Proofs.Api.Variants

/-! Relabelling and checking meet the same references. After relabelling every reference to a
component leads to the key that took the place of its own, at any depth of any schema, and
nothing else of a document has changed. The references that the check meets are all that there are:
they pin down the relabelled document among all that differ from the first in references only. The
check refuses the first reference to a component that is not there. -/
namespace ObjectRole

open Schema

/-- A reference and what relabelling makes of it: one to a component leads to the key that took its
place, any other stays. -/
inductive Renames.Leads (r : Renames) : String → String → Prop
  | component (key : String) :
    Leads r (componentReference key) (componentReference (r.resolve key))
  | other {reference : String} (foreign : ∀ key, reference ≠ componentReference key) :
    Leads r reference reference

/-- A reference is led to one other. -/
theorem Renames.leads_rightUnique (r : Renames) : Relator.RightUnique r.Leads := by
  intro reference first second leads also
  cases leads with
  | component key =>
    generalize same : componentReference key = reference at also
    cases also with
    | component other =>
      rw [(String.append_right_inj _).mp same]
    | other foreign => exact absurd same.symm (foreign key)
  | other foreign =>
    cases also with
    | component key => exact absurd rfl (foreign key)
    | other => rfl

/-- Relabelling changes the reference only. -/
theorem Keywords.relabel_leads (r : Renames) : LeadsOn r.Leads (·.relabel r) := by
  intro k
  dsimp only
  rw [relabel]
  cases found : k.target? with
  | none =>
    refine ⟨?_, rfl⟩
    cases at_reference : k.reference with
    | none => exact .none
    | some reference =>
      refine .some (.other fun key same => ?_)
      rw [target?_eq_some_iff.mpr (same ▸ at_reference)] at found
      contradiction
  | some key =>
    dsimp only
    have at_reference := target?_eq_some_iff.mp found
    split
    · rename_i same
      refine ⟨?_, rfl⟩
      have leads := Renames.Leads.component (r := r) key
      rw [same] at leads
      rw [at_reference]
      exact .some leads
    · refine ⟨?_, rfl⟩
      rw [at_reference]
      exact .some (.component key)

/-- What leads each reference to a related one leads it to some reference. -/
theorem Keywords.LeadsOn.weaken {R : String → String → Prop} {f : Keywords → Keywords}
    (leads : LeadsOn R f) : LeadsOn (fun _ _ => True) f := by
  intro k
  obtain ⟨reference, others⟩ := leads k
  refine ⟨?_, others⟩
  generalize k.reference = old, (f k).reference = new at reference
  cases reference with
  | none => exact .none
  | some => exact .some trivial

/-- The references of a schema and of the relabelled one, in order. -/
theorem Schema.references_led (r : Renames) (s : Schema) :
    List.Forall₂ r.Leads s.references (s.mapKeywords (·.relabel r)).references := by
  rw [references, references, nested_mapKeywords]
  refine List.rel_filterMap (R := fun old new => old.mapKeywords (·.relabel r) = new) ?_
    (forall₂_map (fun _ => rfl) _)
  rintro old _ rfl
  have leads : Option.Rel r.Leads old.reference (old.toKeywords.relabel r).reference :=
    (Keywords.relabel_leads r old.toKeywords).1
  rw [← toKeywords_mapKeywords (·.relabel r)] at leads
  exact leads

namespace ApiDocument

/-- The references of a document and of the relabelled one, in order and with their places. -/
theorem references_led (r : Renames) (d : ApiDocument) :
    List.Forall₂ (fun old new => new.1 = old.1 ∧ r.Leads old.2 new.2)
      d.references (d.relabel r).references := by
  rw [references, references, relabel, placedSchemas_mapSchemas]
  refine List.rel_flatMap (R := fun old new => (old.1, old.2.mapKeywords (·.relabel r)) = new)
    (forall₂_map (fun _ => rfl) _) ?_
  rintro ⟨place, s⟩ _ rfl
  refine List.forall₂_map_left_iff.mpr (List.forall₂_map_right_iff.mpr ?_)
  exact (Schema.references_led r s).imp fun _ _ leads => ⟨rfl, leads⟩

/-- Documents that differ from one in references only are told apart by their references. -/
theorem eq_of_references {R : String → String → Prop} {d e other : ApiDocument}
    (variant : d.Rel (Schema.Led R) e) (also : d.Rel (Schema.Led R) other)
    (same : e.references = other.references) : e = other := by
  have pinned : ∀ (place : String) (s : Schema),
      Pinned (Schema.Led R) (fun s => s.references.map (place, ·)) s :=
    fun place => Schema.pinned_references fun _ _ same => (Prod.mk.inj same).2
  have all := congrArg (· ++ []) same
  exact (ApiDocument.pinned pinned d variant also all).1

/-- Relabelling leads the references of a document, one for one and each in its place, to the keys
that took the place of theirs, at all depths, and changes nothing else in it. It gives the only
document of which this holds: no reference stands outside the sequence. The check passes exactly if
all components that are referred to are there; otherwise it refuses the first that is not, with its
place. -/
theorem relabel_and_check (d : ApiDocument) (r : Renames) :
    List.Forall₂ (fun old new => new.1 = old.1 ∧ r.Leads old.2 new.2)
      d.references (d.relabel r).references ∧
    d.Rel (Schema.Led r.Leads) (d.relabel r) ∧
    (∀ e : ApiDocument, d.Rel (Schema.Led fun _ _ => True) e →
      List.Forall₂ (fun old new => new.1 = old.1 ∧ r.Leads old.2 new.2)
        d.references e.references → e = d.relabel r) ∧
    (d.checkReferences = .ok () ↔ ∀ placed ∈ d.references, d.Finds placed.2) ∧
    ∀ error, d.checkReferences = .error error ↔
      ∃ front place key back, d.references = front ++ (place, componentReference key) :: back ∧
        (∀ placed ∈ front, d.Finds placed.2) ∧ d.schemas.contains key = false ∧
        error = .danglingReference (componentReference key) place := by
  have leads := Keywords.relabel_leads r
  have unique : Relator.RightUnique fun (old new : String × String) =>
      new.1 = old.1 ∧ r.Leads old.2 new.2 := by
    rintro _ ⟨_, _⟩ ⟨_, _⟩ ⟨place, led⟩ ⟨other_place, also_led⟩
    exact Prod.ext (place.trans other_place.symm) (r.leads_rightUnique led also_led)
  refine ⟨references_led r d, rel_mapSchemas (Schema.led_mapKeywords leads) d, ?_,
    checkReferences_eq_ok_iff, fun _ => checkReferences_eq_error_iff⟩
  intro e variant led
  refine eq_of_references variant (rel_mapSchemas (Schema.led_mapKeywords leads.weaken) d) ?_
  exact List.right_unique_forall₂' unique led (references_led r d)

end ApiDocument
end ObjectRole
