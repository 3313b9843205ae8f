import ObjectRole.Proofs.Model.Declared

/-! The constraints on a role of a resolved model: first those that are declared, in their order,
and then those that the relationship of its own fact type stands for. -/
namespace ObjectRole

/-- Where all other members of a list give nothing, one gives all. -/
theorem flatMap_eq_of_getElem? {α β : Type} {list : List α} {f : α → List β} {i : Nat} {a : α}
    (there : list[i]? = some a)
    (others : ∀ j b, list[j]? = some b → j ≠ i → f b = []) : list.flatMap f = f a := by
  induction list generalizing i with
  | nil => contradiction
  | cons head rest ih =>
    rw [List.flatMap_cons]
    cases i with
    | zero =>
      cases there
      rw [List.flatMap_eq_nil_iff.mpr, List.append_nil]
      intro b listed
      obtain ⟨j, found⟩ := List.mem_iff_getElem?.mp listed
      exact others (j + 1) b found (Nat.succ_ne_zero j)
    | succ i =>
      rw [others 0 head rfl (Nat.succ_ne_zero i).symm, List.nil_append]
      exact ih there fun j b found distinct =>
        others (j + 1) b found (fun same => distinct (Nat.succ.inj same))

/-- A constraint of that kind on that role. -/
def Rule.concerns (kind : ConstraintKind) (role : RoleId) (rule : Rule) : Bool :=
  rule.kind == kind && rule.roles.contains role

namespace Document

variable {d : Document} {s : Snapshot} {rules declared : List Rule} {role : RoleId}

theorem constraint_withRules (bound : rules.length ≤ UInt32.size) {place : Nat} {rule : Rule}
    (there : rules[place]? = some rule) :
    ((withRules s rules).constraint (.ofNat place)).kind = rule.kind := by
  have small := Nat.lt_of_lt_of_le (List.getElem?_eq_some_iff.mp there).1 bound
  rw [Snapshot.constraint, Snapshot.constraint?, ConstraintId.place_ofNat small, withRules,
    List.getElem?_mapIdx, there]
  rfl

/-- The spans on a role are those of the constraints on it. -/
theorem spansOfKind_withRules (bound : rules.length ≤ UInt32.size) (kind : ConstraintKind)
    (role : RoleId) : ((withRules s rules).spansOfKind kind role).map (·.roles) =
      (rules.filter (·.concerns kind role)).map (·.roles) := by
  have same : ∀ entry ∈ rules.zipIdx,
      (((withRules s rules).constraint (.ofNat entry.2)).kind == kind &&
        entry.1.roles.contains role) = entry.1.concerns kind role := by
    intro entry listed
    rw [constraint_withRules bound (List.mem_zipIdx_iff_getElem?.mp listed), Rule.concerns]
  have spans : (withRules s rules).spans =
      rules.zipIdx.map fun entry => ⟨.ofNat entry.2, entry.1.roles⟩ := List.mapIdx_eq_zipIdx_map
  rw [Snapshot.spansOfKind, Snapshot.spansOnRole, List.filter_filter, spans, List.filter_map,
    List.map_map]
  simp only [Function.comp_def]
  rw [List.filter_congr same]
  conv_rhs => rw [← List.zipIdx_map_fst 0 rules, List.filter_map, List.map_map]
  rfl

/-- A relationship stands for constraints on the roles of its own fact type only. -/
theorem Numbers.place_of_expand (numbers : d.Numbers s) (numberable : d.Numberable)
    {i j : Nat} {own other : FactType} (found : s.factTypes[i]? = some own)
    (listed : role ∈ own.roles) (other_found : s.factTypes[j]? = some other)
    {f : FactTypeDeclaration} {rule : Rule} (expanded : rule ∈ expand declared f other)
    (about : role ∈ rule.roles) : j = i := by
  obtain ⟨_, inside⟩ := mem_expand expanded
  obtain ⟨_, at_role, _⟩ := numbers.role_listed numberable (List.mem_of_getElem? found) listed
  obtain ⟨_, also_at_role, _⟩ := numbers.role_listed numberable
    (List.mem_of_getElem? other_found) (inside about)
  have same := congrArg Role.factType (Option.some.inj (also_at_role.symm.trans at_role))
  rw [← numbers.factType_place numberable other_found, show other.id = own.id from same,
    numbers.factType_place numberable found]

/-- The constraints that relationships put on a role come from that of its own fact type. -/
theorem Resolved.filter_expansions (resolved : d.Resolved s) (numberable : d.Numberable)
    {id : FactTypeId} {f : FactTypeDeclaration} (there : d.factTypes[id.place]? = some f)
    (listed : role ∈ (s.factType id).roles) (kind : ConstraintKind) :
    ((d.factTypes.zip s.factTypes).flatMap fun entry =>
        expand declared entry.1 entry.2).filter (·.concerns kind role) =
      (expand declared f (s.factType id)).filter (·.concerns kind role) := by
  obtain ⟨own, found, denotes⟩ := resolved.numbers.factType_at there
  have own_eq : s.factType id = own := by
    rw [Snapshot.factType, Snapshot.factType?, found, Option.getD_some]
  rw [own_eq] at listed ⊢
  rw [List.filter_flatMap]
  refine flatMap_eq_of_getElem? (a := (f, own)) (i := id.place)
    (List.getElem?_zip_eq_some.mpr ⟨there, found⟩) ?_
  rintro place ⟨g, others⟩ paired distinct
  obtain ⟨_, others_found⟩ := List.getElem?_zip_eq_some.mp paired
  refine List.filter_eq_nil_iff.mpr fun rule expanded about => distinct ?_
  rw [Rule.concerns, Bool.and_eq_true, List.contains_iff_mem] at about
  exact resolved.numbers.place_of_expand numberable found listed others_found expanded about.2

end Document
end ObjectRole
