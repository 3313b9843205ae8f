import ObjectRole.Proofs.Model.Rules
import ObjectRole.Shape

/-! Relationships in a resolved model. Behind the declared constraints stand those that the
relationships mean whose roles no declared constraint makes unique, and they give each of these fact
types its shape. Expansions of other relationships make no difference to that. -/
namespace ObjectRole

/-- No constraint of the list makes one of the roles unique, alone or with others. -/
def Free (rules : List Rule) (roles : List RoleId) : Prop :=
  ∀ rule ∈ rules, rule.kind = .uniqueness → ∀ role ∈ roles, role ∉ rule.roles

/-- What the relationship of a fact type adds to the declared constraints. -/
inductive Expands (declared : List Rule) (f : FactTypeDeclaration) (resolved : FactType) :
    List Rule → Prop
  | nothing (decided : f.relationship = none ∨ ¬Free declared resolved.roles) :
      Expands declared f resolved []
  | rules {relationship : Relationship} {first second : RoleId}
      (related : f.relationship = some relationship) (roles : resolved.roles = [first, second])
      (free : Free declared resolved.roles) :
      Expands declared f resolved (relationship.rules first second)

namespace Snapshot

/-- Adds a constraint under the next number. -/
def addRule (s : Snapshot) (rule : Rule) : Snapshot :=
  let id := ConstraintId.ofNat s.constraints.length
  { s with
    constraints := s.constraints ++ [⟨id, rule.kind, rule.modality⟩]
    spans := s.spans ++ [⟨id, rule.roles⟩] }

/-- Adds what a relationship means to the constraints that are there so far, unless one of them,
declared or added, makes a role of the fact type unique. -/
def relate (s : Snapshot) (f : FactTypeDeclaration) (resolved : FactType) : Snapshot :=
  match f.relationship, resolved.roles with
  | some relationship, [first, second] =>
    if s.roleHas .uniqueness first || s.roleHas .uniqueness second then s
    else (relationship.rules first second).foldl addRule s
  | _, _ => s

/-- The shape that a relationship is meant to give a fact type of two roles. -/
def ShapedBy (s : Snapshot) (id : FactTypeId) (first second : RoleId) : Relationship → Prop
  | .manyToOne | .oneToOne => s.shapeOf id = .ok (.functional first second)
  | .oneToMany => s.shapeOf id = .ok (.functional second first)
  | .manyToMany =>
    ((∀ role ∈ s.roles, role.player ≠ .factType id) →
      s.shapeOf id = .ok (.arrayValued first second)) ∧
    ((∃ role ∈ s.roles, role.player = .factType id) →
      s.shapeOf id = .ok (.association [first, second]))

variable {s : Snapshot} {id : FactTypeId} {first second : RoleId}

/-- The roles of the uniqueness constraints on a role tell whether it is unique on its own. -/
theorem isUnique_eq (s : Snapshot) (role : RoleId) : s.isUnique role =
    ((s.spansOfKind .uniqueness role).map (·.roles)).any (·.length == 1) := by
  rw [isUnique, List.any_map]
  rfl

theorem compoundSpan_eq (s : Snapshot) (f : FactType) : s.compoundSpan f =
    f.roles.findSome? fun role => ((s.spansOfKind .uniqueness role).map (·.roles)).find?
      fun roles => 1 < roles.length && roles.all f.roles.contains := by
  simp only [compoundSpan, List.find?_map]
  rfl

/-- Where no other constraint is on the two roles of a fact type, its relationship tells its
shape. -/
theorem shapedBy_of_spans {relationship : Relationship}
    (roles : (s.factType id).roles = [first, second]) (distinct : first ≠ second)
    (spans : ∀ role ∈ [first, second], (s.spansOfKind .uniqueness role).map (·.roles) =
      ((relationship.rules first second).filter (·.concerns .uniqueness role)).map (·.roles)) :
    s.ShapedBy id first second relationship := by
  have shape : s.shapeOf id = .ok (s.binaryShape id first second) := by
    rw [shapeOf]
    simp only [roles]
  have unique_first := s.isUnique_eq first
  have unique_second := s.isUnique_eq second
  have span := s.compoundSpan_eq (s.factType id)
  rw [spans first (by simp)] at unique_first
  rw [spans second (by simp)] at unique_second
  simp only [roles, List.findSome?_cons, List.findSome?_nil, spans first (by simp),
    spans second (by simp)] at span
  rw [binaryShape] at shape
  cases relationship with
  | manyToOne =>
    have unique : s.isUnique first = true := by
      simpa [Relationship.rules, Rule.unique, Rule.concerns] using unique_first
    rwa [if_pos unique] at shape
  | oneToOne =>
    have unique : s.isUnique first = true := by
      simpa [Relationship.rules, Rule.unique, Rule.concerns, distinct] using unique_first
    rwa [if_pos unique] at shape
  | oneToMany =>
    have not_unique : ¬s.isUnique first = true := by
      simpa [Relationship.rules, Rule.unique, Rule.concerns, distinct] using unique_first
    have unique : s.isUnique second = true := by
      simpa [Relationship.rules, Rule.unique, Rule.concerns] using unique_second
    rwa [if_neg not_unique, if_pos unique] at shape
  | manyToMany =>
    have not_first : ¬s.isUnique first = true := by
      simpa [Relationship.rules, Rule.unique, Rule.concerns] using unique_first
    have not_second : ¬s.isUnique second = true := by
      simpa [Relationship.rules, Rule.unique, Rule.concerns] using unique_second
    have compound : s.compoundSpan (s.factType id) = some [first, second] := by
      simpa [Relationship.rules, Rule.unique, Rule.concerns] using span
    rw [if_neg not_first, if_neg not_second, compound] at shape
    refine ⟨fun alone => ?_, fun plays => ?_⟩
    · have unplayed : s.isObjectified id = false := by
        rw [Bool.eq_false_iff, ne_eq, isObjectified_eq_true_iff]
        rintro ⟨role, inside, plays⟩
        exact alone role inside plays
      simpa [unplayed] using shape
    · have played : s.isObjectified id = true := isObjectified_eq_true_iff.mpr plays
      simpa [played] using shape

end Snapshot

namespace Document

variable {d : Document} {s parts : Snapshot} {declared rules : List Rule} {role : RoleId}
  {f : FactTypeDeclaration} {resolved : FactType}

/-- A declared constraint is resolved to what it says, about the roles that its selectors pick. -/
structure Constrains (d : Document) (s : Snapshot) (c : ConstraintDeclaration) (rule : Rule) :
    Prop where
  kind : rule.kind = c.kind
  modality : rule.modality = c.modality
  roles : List.Forall₂ (fun selector role => d.selectRole s selector = .ok role) c.roles rule.roles

theorem free_iff_not_any {roles : List RoleId} : Free rules roles ↔
    ∀ role ∈ roles, rules.any (·.concerns .uniqueness role) = false := by
  simp only [Free, Rule.concerns, List.any_eq_false, Bool.and_eq_true, beq_iff_eq,
    List.contains_iff_mem, not_and]
  exact ⟨fun free role listed rule inside unique => free rule inside unique role listed,
    fun none rule inside unique role listed => none role listed rule inside unique⟩

theorem expand_of_related {relationship : Relationship} {first second : RoleId}
    (related : f.relationship = some relationship) (roles : resolved.roles = [first, second]) :
    expand declared f resolved =
      if declared.any (·.concerns .uniqueness first) || declared.any (·.concerns .uniqueness second)
      then [] else relationship.rules first second := by
  rw [expand]
  simp only [related, roles]
  rfl

theorem expand_of_free {relationship : Relationship} {first second : RoleId}
    (related : f.relationship = some relationship) (roles : resolved.roles = [first, second])
    (free : Free declared resolved.roles) :
    expand declared f resolved = relationship.rules first second := by
  rw [free_iff_not_any, roles] at free
  rw [expand_of_related related roles, free first (by simp), free second (by simp)]
  rfl

theorem expands_expand (passed : checkRelationship f resolved = .ok ()) :
    Expands declared f resolved (expand declared f resolved) := by
  rw [checkRelationship_eq_ok_iff] at passed
  cases related : f.relationship with
  | none =>
    have nothing : expand declared f resolved = [] := by
      rw [expand, related]
    exact nothing ▸ .nothing (.inl related)
  | some relationship =>
    obtain ⟨first, second, roles⟩ := List.length_eq_two.mp (passed (related ▸ rfl))
    by_cases free : Free declared resolved.roles
    · rw [expand_of_free related roles free]
      exact .rules related roles free
    · have claimed := free
      rw [free_iff_not_any, roles] at claimed
      have nothing : expand declared f resolved = [] := by
        rw [expand_of_related related roles, if_pos]
        rw [Bool.or_eq_true]
        by_contra neither
        simp only [not_or, Bool.not_eq_true] at neither
        exact claimed (by simpa using neither)
      exact nothing ▸ .nothing (.inr free)

/-! ## One relationship after the other -/

theorem addRule_withRules (s : Snapshot) (rules : List Rule) (rule : Rule) :
    (withRules s rules).addRule rule = withRules s (rules ++ [rule]) := by
  simp only [Snapshot.addRule, withRules, List.length_mapIdx, List.mapIdx_concat]

theorem foldl_addRule_withRules (s : Snapshot) (rules added : List Rule) :
    added.foldl Snapshot.addRule (withRules s rules) = withRules s (rules ++ added) := by
  induction added generalizing rules with
  | nil => rw [List.foldl_nil, List.append_nil]
  | cons rule rest ih =>
    rw [List.foldl_cons, addRule_withRules, ih, List.append_assoc, List.singleton_append]

theorem roleHas_withRules (bound : rules.length ≤ UInt32.size) (kind : ConstraintKind)
    (role : RoleId) :
    (withRules s rules).roleHas kind role = rules.any (·.concerns kind role) := by
  have spans := congrArg (! List.isEmpty ·) (spansOfKind_withRules (s := s) bound kind role)
  simp only [List.isEmpty_map] at spans
  rw [Snapshot.roleHas, spans, Bool.eq_iff_iff, Bool.not_eq_true', List.any_eq_true,
    List.isEmpty_eq_false_iff_exists_mem]
  simp only [List.mem_filter]

/-- What was added for other roles makes no difference to a relationship. -/
theorem relate_withRules {added : List Rule} (bound : (declared ++ added).length ≤ UInt32.size)
    (apart : ∀ role ∈ resolved.roles, added.any (·.concerns .uniqueness role) = false) :
    (withRules s (declared ++ added)).relate f resolved =
      withRules s (declared ++ added ++ expand declared f resolved) := by
  rw [Snapshot.relate]
  split
  · rename_i relationship first second related roles
    rw [roles] at apart
    rw [roleHas_withRules bound, roleHas_withRules bound, List.any_append, List.any_append,
      apart first (by simp), apart second (by simp), Bool.or_false, Bool.or_false,
      expand_of_related related roles]
    split
    · rw [List.append_nil]
    · rw [foldl_addRule_withRules]
  · rename_i unrelated
    have nothing : expand declared f resolved = [] := by
      rw [expand]
      split
      · rename_i relationship first second related roles
        exact absurd roles (unrelated relationship first second related)
      · rfl
    rw [nothing, List.append_nil]

/-- What relationships of other fact types are expanded to does not concern the roles of a fact
type. -/
theorem Numbers.apart_of_earlier (numbers : d.Numbers s) (numberable : d.Numberable)
    {before after : List (FactTypeDeclaration × FactType)} {entry : FactTypeDeclaration × FactType}
    (split : d.factTypes.zip s.factTypes = before ++ entry :: after) :
    ∀ role ∈ entry.2.roles, (before.flatMap fun entry => expand declared entry.1 entry.2).any
      (·.concerns .uniqueness role) = false := by
  intro role listed
  rw [List.any_eq_false]
  intro rule expanded about
  obtain ⟨other, earlier, expanded⟩ := List.mem_flatMap.mp expanded
  obtain ⟨i, found⟩ := List.mem_iff_getElem?.mp earlier
  have inside := (List.getElem?_eq_some_iff.mp found).1
  have place : (d.factTypes.zip s.factTypes)[before.length]? = some entry := by
    rw [split]
    simp
  have other_place : (d.factTypes.zip s.factTypes)[i]? = some other := by
    rw [split, List.getElem?_append_left inside, found]
  rw [Rule.concerns, Bool.and_eq_true, List.contains_iff_mem] at about
  have same := numbers.place_of_expand numberable (List.getElem?_zip_eq_some.mp place).2 listed
    (List.getElem?_zip_eq_some.mp other_place).2 expanded about.2
  omega

/-- Expanding one relationship after the other comes to the same as expanding each for itself. -/
theorem Numbers.foldl_relate (numbers : d.Numbers s) (numberable : d.Numberable)
    (bound : (declared ++ (d.factTypes.zip s.factTypes).flatMap fun entry =>
      expand declared entry.1 entry.2).length ≤ UInt32.size) :
    (d.factTypes.zip s.factTypes).foldl (fun t entry => t.relate entry.1 entry.2)
        (withRules s declared) =
      withRules s (declared ++ (d.factTypes.zip s.factTypes).flatMap fun entry =>
        expand declared entry.1 entry.2) := by
  generalize entries_eq : d.factTypes.zip s.factTypes = entries at bound ⊢
  suffices onward : ∀ after before, entries = before ++ after →
      after.foldl (fun t entry => t.relate entry.1 entry.2) (withRules s (declared ++
        before.flatMap fun entry => expand declared entry.1 entry.2)) =
      withRules s (declared ++ entries.flatMap fun entry => expand declared entry.1 entry.2) by
    simpa using onward entries [] rfl
  intro after
  induction after with
  | nil =>
    rintro before rfl
    rw [List.append_nil, List.foldl_nil]
  | cons entry rest ih =>
    intro before split
    have small : (declared ++ before.flatMap fun entry =>
        expand declared entry.1 entry.2).length ≤ UInt32.size := by
      rw [split, List.flatMap_append] at bound
      simp only [List.length_append] at bound ⊢
      omega
    rw [List.foldl_cons,
      relate_withRules small (numbers.apart_of_earlier numberable (entries_eq.trans split))]
    have next := ih (before ++ [entry]) (by rw [split, List.append_assoc, List.singleton_append])
    rwa [List.flatMap_append, List.flatMap_singleton, ← List.append_assoc] at next

/-! ## Shapes -/

/-- Every role is listed once. -/
theorem Numbers.nodup_roles (numbers : d.Numbers s) (numberable : d.Numberable) {f : FactType}
    (there : f ∈ s.factTypes) : f.roles.Nodup := by
  have places := numbers.role_places numberable
  rw [← Function.comp_def, ← List.map_map, ← numbers.listed] at places
  have all : (s.factTypes.flatMap (·.roles)).Nodup :=
    List.Nodup.of_map RoleId.place (places ▸ List.nodup_range)
  exact (List.nodup_flatMap.mp all).1 f there

/-- Where no declared constraint makes its roles unique, a relationship gives its fact type its
shape. -/
theorem Resolved.shapedBy (resolved : d.Resolved s) (numberable : d.Numberable)
    (bound : rules.length ≤ UInt32.size) (ruled : s = withRules s rules)
    (rules_eq : rules = declared ++ (d.factTypes.zip s.factTypes).flatMap fun entry =>
      expand declared entry.1 entry.2) {own : FactType}
    (listed : (f, own) ∈ d.factTypes.zip s.factTypes) {relationship : Relationship}
    {first second : RoleId} (related : f.relationship = some relationship)
    (roles : own.roles = [first, second]) (free : Free declared own.roles) :
    s.ShapedBy own.id first second relationship := by
  obtain ⟨place, found⟩ := List.mem_iff_getElem?.mp listed
  obtain ⟨there, own_found⟩ := List.getElem?_zip_eq_some.mp found
  have own_place := resolved.numbers.factType_place numberable own_found
  have own_eq : s.factType own.id = own := by
    rw [Snapshot.factType, Snapshot.factType?, own_place, own_found, Option.getD_some]
  have distinct : first ≠ second := by
    have nodup := resolved.numbers.nodup_roles numberable (List.mem_of_getElem? own_found)
    rw [roles] at nodup
    simpa using nodup
  refine Snapshot.shapedBy_of_spans (own_eq.symm ▸ roles) distinct fun role inside => ?_
  have role_listed : role ∈ (s.factType own.id).roles := by rwa [own_eq, roles]
  have undeclared : declared.filter (·.concerns .uniqueness role) = [] :=
    List.filter_eq_nil_iff.mpr (List.any_eq_false.mp
      (free_iff_not_any.mp free role (roles ▸ inside)))
  have spans := spansOfKind_withRules (s := s) bound .uniqueness role
  rw [← ruled] at spans
  rw [spans, rules_eq, List.filter_append, undeclared, List.nil_append,
    resolved.filter_expansions numberable (own_place.symm ▸ there) role_listed, own_eq,
    expand_of_free related roles free]

/-- The constraints of a resolved model: those that are declared, and behind them those that
relationships add, fact type by fact type. -/
structure Constrained (d : Document) (s : Snapshot) (declared : List Rule)
    (added : List (List Rule)) : Prop where
  constrains : List.Forall₂ (d.Constrains s) d.constraints declared
  /-- No fact type is passed over. -/
  factTypes : s.factTypes.length = d.factTypes.length
  expands : List.Forall₂ (fun entry => Expands declared entry.1 entry.2)
    (d.factTypes.zip s.factTypes) added
  constraints : s.constraints = (declared ++ added.flatten).mapIdx fun place rule =>
    ⟨.ofNat place, rule.kind, rule.modality⟩
  spans : s.spans = (declared ++ added.flatten).mapIdx fun place rule => ⟨.ofNat place, rule.roles⟩

theorem constrained_of_resolve (resolved : d.resolve = .ok s) : ∃ declared,
    d.resolveRules s = .ok (declared ++ (d.factTypes.zip s.factTypes).flatMap fun entry =>
      expand declared entry.1 entry.2) ∧
    d.Constrained s declared ((d.factTypes.zip s.factTypes).map fun entry =>
      expand declared entry.1 entry.2) := by
  obtain ⟨_, parts, made, related, rules, rules_made, examples, _, jsonExamples, _, rfl, _⟩ :=
    resolve_eq_ok_iff.mp resolved
  obtain ⟨declared, each, rfl⟩ := resolveRules_eq_ok_iff.mp rules_made
  refine ⟨declared, rules_made, ?constrains, ?factTypes, ?expands, ?constraints, ?spans⟩
  case constrains =>
    have resolves := each.imp fun entry rule resolved => resolveConstraint_eq_ok_iff.mp resolved
    rw [← List.zipIdx_map_fst 0 d.constraints, List.forall₂_map_left_iff]
    refine resolves.imp ?_
    rintro entry rule ⟨_, roles, selected, rfl⟩
    exact ⟨rfl, rfl, selected⟩
  case factTypes =>
    rw [resolveParts] at made
    obtain ⟨_, _, made⟩ := bind_eq_ok_iff.mp made
    obtain ⟨players, named, made⟩ := bind_eq_ok_iff.mp made
    cases made
    have length := (mapM_eq_ok_iff.mp named).length_eq
    have numbered := (number_spells 0 0 (d.factTypes.zip players)).length_eq
    rw [List.length_zip, ← length, Nat.min_self] at numbered
    exact numbered.symm
  case expands =>
    rw [List.forall₂_map_right_iff, List.forall₂_same]
    exact fun entry listed => expands_expand (related entry listed)
  case constraints => rw [← List.flatMap_def]; rfl
  case spans => rw [← List.flatMap_def]; rfl

/-- The constraints of a resolved model are those that are declared, in their order, and behind them
what the relationships mean whose roles no declared one makes unique, in the order of fact types; it
makes no difference to a relationship what others before it have added. Each of these fact types
gets the shape that its relationship is meant for. Shapes depend on numbers, of which there have to
be enough. -/
theorem relationships_expand (resolved : d.resolve = .ok s) : ∃ declared added,
    d.Constrained s declared added ∧ (d.Numberable → d.ruleCount ≤ UInt32.size →
      s = (d.factTypes.zip s.factTypes).foldl (fun t entry => t.relate entry.1 entry.2)
        (withRules s declared) ∧
      ∀ entry ∈ d.factTypes.zip s.factTypes, ∀ relationship,
        entry.1.relationship = some relationship → Free declared entry.2.roles →
          ∃ first second, entry.2.roles = [first, second] ∧
            s.ShapedBy entry.2.id first second relationship) := by
  obtain ⟨declared, rules_made, constrained⟩ := constrained_of_resolve resolved
  refine ⟨declared, _, constrained, fun numberable rules_bound => ?_⟩
  have whole := resolved_of_resolve numberable resolved
  have bound := Nat.le_trans (length_rules_le rules_made) rules_bound
  obtain ⟨rules, also_made, ruled⟩ := whole.rules
  cases rules_made.symm.trans also_made
  refine ⟨ruled.trans (whole.numbers.foldl_relate numberable bound).symm, ?_⟩
  intro entry listed relationship related free
  obtain ⟨i, found⟩ := List.mem_iff_getElem?.mp listed
  obtain ⟨added, _, expands⟩ := exists_getElem?_of_forall₂ constrained.expands found
  cases expands with
  | nothing decided =>
    rcases decided with unrelated | taken
    · rw [related] at unrelated
      contradiction
    · contradiction
  | @rules own first second own_related roles _ =>
    cases related.symm.trans own_related
    exact ⟨first, second, roles,
      whole.shapedBy numberable bound ruled rfl listed related roles free⟩

/-- Members of a library have one card each, write reviews, wish for books and keep them on loan,
which may be overdue. They live in a city, and a declared constraint is on those who do. -/
def libraries : Document where
  nouns := [{ name := "Member" }, { name := "Card" }, { name := "Review" }, { name := "Book" },
    { name := "City" }]
  factTypes := [
    { readings := [.text "Member owns Card"], relationship := some .oneToOne },
    { readings := [.text "Member lives in City"], relationship := some .manyToOne },
    { readings := [.text "Member wrote Review"], relationship := some .oneToMany },
    { readings := [.text "Member wants Book"], relationship := some .manyToMany },
    { name := some "Loan", readings := [.text "Member keeps Book"],
      relationship := some .manyToMany },
    { readings := [.text "Loan is overdue"] }]
  constraints := [
    { kind := .mandatory, roles := [⟨"Member owns Card", .index 0⟩] },
    { kind := .uniqueness,
      roles := [⟨"Member lives in City", .player "Member"⟩, ⟨"Member lives in City", .index 1⟩] }]

theorem relationships_expand_of_libraries : ∃ s declared added, libraries.resolve = .ok s ∧
    libraries.Numberable ∧ libraries.ruleCount ≤ UInt32.size ∧
    s.spans.map (·.roles.map (·.place)) = [[0], [2, 3], [0], [1], [5], [6, 7], [8, 9]] ∧
    libraries.Constrained s declared added ∧
    s = (libraries.factTypes.zip s.factTypes).foldl (fun t entry => t.relate entry.1 entry.2)
      (withRules s declared) ∧
    ∀ entry ∈ libraries.factTypes.zip s.factTypes, ∀ relationship,
      entry.1.relationship = some relationship → Free declared entry.2.roles →
        ∃ first second, entry.2.roles = [first, second] ∧
          s.ShapedBy entry.2.id first second relationship := by
  have passed : libraries.resolvesAnd fun s => s.spans.map (·.roles.map (·.place)) ==
      [[0], [2, 3], [0], [1], [5], [6, 7], [8, 9]] := by decide +kernel
  obtain ⟨s, resolved, spans⟩ := exists_of_resolvesAnd passed
  have numberable : libraries.Numberable := ⟨by decide, by decide, by decide +kernel⟩
  have rules_bound : libraries.ruleCount ≤ UInt32.size := by decide
  obtain ⟨declared, added, constrained, expands⟩ := relationships_expand resolved
  obtain ⟨related, shaped⟩ := expands numberable rules_bound
  exact ⟨s, declared, added, resolved, numberable, rules_bound, beq_iff_eq.mp spans, constrained,
    related, shaped⟩

end Document
end ObjectRole
