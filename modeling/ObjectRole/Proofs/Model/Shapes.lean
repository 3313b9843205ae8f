import ObjectRole.Proofs.Model.Relationships
import Mathlib.Data.Finset.Card

/-! The table of shapes, read with sets of roles. A shape goes by how many roles a uniqueness
constraint lists, so the table holds of a fact type as long as no constraint within it lists a role
twice. A role that is listed alone, but twice, does not count as unique on its own. -/
namespace ObjectRole

theorem RoleId.ofNat_succ_ne (n : Nat) : RoleId.ofNat n ≠ RoleId.ofNat (n + 1) := by
  intro same
  have numbers := congrArg RoleId.place same
  simp only [RoleId.place, RoleId.ofNat, UInt32.toNat_ofNat'] at numbers
  omega

namespace Snapshot

variable {s : Snapshot} {id : FactTypeId} {f : FactType} {role first second : RoleId}
  {listed span : List RoleId}

/-- There is a uniqueness constraint that lists these roles. -/
def ListsUnique (s : Snapshot) (roles : List RoleId) : Prop :=
  ∃ span ∈ s.spans, (s.constraint span.constraint).kind = .uniqueness ∧ span.roles = roles

/-- There is a uniqueness constraint on this set of roles, however it lists them. -/
def UniqueSet (s : Snapshot) (roles : Finset RoleId) : Prop :=
  ∃ listed, s.ListsUnique listed ∧ listed.toFinset = roles

/-- Uniqueness constraints within a fact type list no role twice. -/
def ListsOnce (s : Snapshot) (f : FactType) : Prop :=
  ∀ span ∈ s.spans, (s.constraint span.constraint).kind = .uniqueness →
    span.roles ⊆ f.roles → span.roles.Nodup

/-- Some role of a fact type is unique on its own. -/
def UniqueAlone (s : Snapshot) (f : FactType) : Prop := ∃ role ∈ f.roles, s.UniqueSet {role}

/-- Several roles of a fact type are unique together. -/
def UniqueTogether (s : Snapshot) (f : FactType) : Prop :=
  ∃ roles, s.UniqueSet roles ∧ 2 ≤ roles.card ∧ roles ⊆ f.roles.toFinset

/-- A fact type that plays a role. -/
def Plays (s : Snapshot) (id : FactTypeId) : Prop := ∃ role ∈ s.roles, role.player = .factType id

/-- The rows of the table for two roles. -/
structure TableOfTwo (s : Snapshot) (id : FactTypeId) (first second : RoleId)
    (shape : Except CompileError Shape) : Prop where
  functional : ∀ owner value, shape = .ok (.functional owner value) ↔
    s.UniqueSet {first} ∧ owner = first ∧ value = second ∨
      ¬s.UniqueSet {first} ∧ s.UniqueSet {second} ∧ owner = second ∧ value = first
  arrayValued : ∀ owner item, shape = .ok (.arrayValued owner item) ↔
    ¬s.UniqueAlone (s.factType id) ∧ s.UniqueSet {first, second} ∧ ¬s.Plays id ∧
      owner = first ∧ item = second
  association : (∃ span, shape = .ok (.association span)) ↔
    ¬s.UniqueAlone (s.factType id) ∧ s.UniqueSet {first, second} ∧ s.Plays id
  independent : shape = .ok .independent ↔
    ¬s.UniqueAlone (s.factType id) ∧ ¬s.UniqueSet {first, second}

/-- The rows of the table for three roles and more. -/
structure TableOfMany (s : Snapshot) (id : FactTypeId) (shape : Except CompileError Shape) :
    Prop where
  undecided : (∃ e, shape = .error e) ↔ s.UniqueAlone (s.factType id)
  association : (∃ span, shape = .ok (.association span)) ↔
    ¬s.UniqueAlone (s.factType id) ∧ s.UniqueTogether (s.factType id)
  independent : shape = .ok .independent ↔
    ¬s.UniqueAlone (s.factType id) ∧ ¬s.UniqueTogether (s.factType id)

/-- The shape that the table gives to a fact type, by its number of roles. -/
structure FollowsTable (s : Snapshot) (id : FactTypeId) (shape : Except CompileError Shape) :
    Prop where
  none : (s.factType id).roles = [] → ∃ e, shape = .error e
  one : ∀ role, (s.factType id).roles = [role] → shape = .ok (.unary role)
  two : ∀ first second, (s.factType id).roles = [first, second] →
    s.TableOfTwo id first second shape
  many : 3 ≤ (s.factType id).roles.length → s.TableOfMany id shape

theorem isUnique_iff : s.isUnique role = true ↔ s.ListsUnique [role] := by
  simp only [isUnique, spansOfKind, spansOnRole, List.any_filter, List.any_eq_true,
    Bool.and_eq_true, List.contains_iff_mem, beq_iff_eq]
  constructor
  · rintro ⟨span, there, about, unique, single⟩
    obtain ⟨only, alone⟩ := List.length_eq_one_iff.mp single
    rw [alone, List.mem_singleton] at about
    exact ⟨span, there, unique, about ▸ alone⟩
  · rintro ⟨span, there, unique, alone⟩
    exact ⟨span, there, by simp [alone], unique, by simp [alone]⟩

/-- The first of the spans that are within a fact type. -/
theorem of_compoundSpan (found : s.compoundSpan f = some span) :
    s.ListsUnique span ∧ 1 < span.length ∧ span ⊆ f.roles := by
  rw [compoundSpan] at found
  obtain ⟨role, _, found⟩ := List.exists_of_findSome?_eq_some found
  obtain ⟨own, first, rfl⟩ := Option.map_eq_some_iff.mp found
  have there := List.mem_of_find?_eq_some first
  simp only [spansOfKind, spansOnRole, List.mem_filter, beq_iff_eq] at there
  have within := List.find?_some first
  simp only [Bool.and_eq_true, decide_eq_true_eq, List.all_eq_true, List.contains_iff_mem]
    at within
  exact ⟨⟨own, there.1.1, there.2, rfl⟩, within⟩

theorem isSome_compoundSpan_iff : (s.compoundSpan f).isSome ↔
    ∃ listed, s.ListsUnique listed ∧ 1 < listed.length ∧ listed ⊆ f.roles := by
  constructor
  · intro some
    obtain ⟨span, found⟩ := Option.isSome_iff_exists.mp some
    exact ⟨span, of_compoundSpan found⟩
  · rintro ⟨_, ⟨span, there, unique, rfl⟩, several, within⟩
    obtain ⟨role, about⟩ := List.exists_mem_of_length_pos (Nat.zero_lt_of_lt several)
    have on_role : span ∈ s.spansOfKind .uniqueness role := by
      simp only [spansOfKind, spansOnRole, List.mem_filter, beq_iff_eq, List.contains_iff_mem]
      exact ⟨⟨there, about⟩, unique⟩
    by_contra none_found
    rw [Bool.not_eq_true, Option.isSome_eq_false_iff, Option.isNone_iff_eq_none, compoundSpan,
      List.findSome?_eq_none_iff] at none_found
    have nothing := Option.map_eq_none_iff.mp (none_found role (within about))
    refine List.find?_eq_none.mp nothing span on_role ?_
    simp only [Bool.and_eq_true, decide_eq_true_eq, List.all_eq_true, List.contains_iff_mem]
    exact ⟨several, within⟩

/-! ## Lists without repetition -/

section Once

variable (once : s.ListsOnce f)
include once

theorem ListsOnce.nodup (unique : s.ListsUnique listed) (within : listed ⊆ f.roles) :
    listed.Nodup := by
  obtain ⟨span, there, kind, rfl⟩ := unique
  exact once span there kind within

theorem uniqueSet_singleton_iff (own : role ∈ f.roles) :
    s.UniqueSet {role} ↔ s.ListsUnique [role] := by
  constructor
  · rintro ⟨listed, unique, same⟩
    have inside (other : RoleId) (there : other ∈ listed) : other = role := by
      rw [← List.mem_toFinset, same, Finset.mem_singleton] at there
      exact there
    have nodup := once.nodup unique fun other there => inside other there ▸ own
    have single : listed.length = 1 := by
      rw [← List.toFinset_card_of_nodup nodup, same, Finset.card_singleton]
    obtain ⟨only, rfl⟩ := List.length_eq_one_iff.mp single
    exact inside only (.head _) ▸ unique
  · exact fun unique => ⟨[role], unique, rfl⟩

theorem uniqueAlone_iff : s.UniqueAlone f ↔ f.roles.any s.isUnique = true := by
  simp only [UniqueAlone, List.any_eq_true, isUnique_iff]
  exact exists_congr fun role => and_congr_right fun own => uniqueSet_singleton_iff once own

theorem uniqueTogether_iff : s.UniqueTogether f ↔ (s.compoundSpan f).isSome := by
  rw [isSome_compoundSpan_iff]
  constructor
  · rintro ⟨_, ⟨listed, unique, rfl⟩, several, within⟩
    refine ⟨listed, unique, several.trans listed.toFinset_card_le, fun role there => ?_⟩
    exact List.mem_toFinset.mp (within (List.mem_toFinset.mpr there))
  · rintro ⟨listed, unique, several, within⟩
    refine ⟨listed.toFinset, ⟨listed, unique, rfl⟩, ?_, fun role there => ?_⟩
    · rwa [List.toFinset_card_of_nodup (once.nodup unique within)]
    · exact List.mem_toFinset.mpr (within (List.mem_toFinset.mp there))

theorem length_compoundSpan (roles : f.roles = [first, second])
    (found : s.compoundSpan f = some span) : span.length = 2 := by
  obtain ⟨unique, several, within⟩ := of_compoundSpan found
  have most := ((once.nodup unique within).subperm within).length_le
  rw [roles] at most
  exact Nat.le_antisymm most several

end Once

/-- Of two roles, several are both. -/
theorem uniqueSet_pair_iff (roles : f.roles = [first, second]) (distinct : first ≠ second) :
    s.UniqueSet {first, second} ↔ s.UniqueTogether f := by
  have both : ({first, second} : Finset RoleId).card = 2 := Finset.card_pair distinct
  have all : f.roles.toFinset = {first, second} := by simp [roles]
  constructor
  · exact fun unique => ⟨_, unique, both.ge, all.ge⟩
  · rintro ⟨set, unique, several, within⟩
    rw [all] at within
    exact Finset.eq_of_subset_of_card_le within (both.trans_le several) ▸ unique

theorem shapeOf_two (roles : (s.factType id).roles = [first, second]) :
    s.shapeOf id = .ok (s.binaryShape id first second) := by
  rw [shapeOf]
  simp only [roles]

theorem shapeOf_many (several : 3 ≤ (s.factType id).roles.length) :
    s.shapeOf id = if (s.factType id).roles.any s.isUnique then
      .error (.unclassified (s.factType id).title
        "a single-role uniqueness constraint cannot own an n-ary fact")
    else match s.compoundSpan (s.factType id) with
      | some span => .ok (.association span)
      | none => .ok .independent := by
  rw [shapeOf]
  split
  case h_1 roles | h_2 roles | h_3 roles => simp [roles] at several
  case h_4 => rfl

section Table

variable (once : s.ListsOnce (s.factType id))
include once

theorem tableOfTwo (roles : (s.factType id).roles = [first, second]) (distinct : first ≠ second) :
    s.TableOfTwo id first second (s.shapeOf id) := by
  have unique_first : s.UniqueSet {first} ↔ s.isUnique first = true :=
    (uniqueSet_singleton_iff once (by simp [roles])).trans isUnique_iff.symm
  have unique_second : s.UniqueSet {second} ↔ s.isUnique second = true :=
    (uniqueSet_singleton_iff once (by simp [roles])).trans isUnique_iff.symm
  have alone : s.UniqueAlone (s.factType id) ↔
      s.isUnique first = true ∨ s.isUnique second = true := by
    rw [uniqueAlone_iff once, roles]
    simp
  have both := (uniqueSet_pair_iff roles distinct).trans (uniqueTogether_iff once)
  have plays : s.Plays id ↔ s.isObjectified id = true := isObjectified_eq_true_iff.symm
  rw [shapeOf_two roles, binaryShape]
  by_cases first_alone : s.isUnique first = true
  · rw [if_pos first_alone]
    constructor <;> grind
  by_cases second_alone : s.isUnique second = true
  · rw [if_neg first_alone, if_pos second_alone]
    constructor <;> grind
  rw [if_neg first_alone, if_neg second_alone]
  cases found : s.compoundSpan (s.factType id) with
  | none => constructor <;> grind
  | some span =>
    have two := length_compoundSpan once roles found
    dsimp only
    by_cases played : s.isObjectified id = true
    · rw [if_neg (by simp [played])]
      constructor <;> grind
    · rw [if_pos (by simp [two, played])]
      constructor <;> grind

theorem tableOfMany (several : 3 ≤ (s.factType id).roles.length) :
    s.TableOfMany id (s.shapeOf id) := by
  have alone := uniqueAlone_iff once
  have together := uniqueTogether_iff once
  rw [shapeOf_many several]
  split
  · rename_i unique
    constructor <;> simp [alone, unique]
  · rename_i none_unique
    cases found : s.compoundSpan (s.factType id) <;>
      constructor <;> simp [alone, none_unique, together, found]

end Table

/-- What a fact type with two roles is goes by which of them is listed alone. -/
theorem functional_iff (roles : (s.factType id).roles = [first, second]) :
    (∃ owner value, s.shapeOf id = .ok (.functional owner value)) ↔
      s.ListsUnique [first] ∨ s.ListsUnique [second] := by
  rw [← isUnique_iff, ← isUnique_iff, shapeOf_two roles, binaryShape]
  by_cases first_alone : s.isUnique first = true
  · simp [first_alone]
  by_cases second_alone : s.isUnique second = true
  · simp [second_alone, first_alone]
  rw [if_neg first_alone, if_neg second_alone]
  split
  · split <;> simp [first_alone, second_alone]
  · simp [first_alone, second_alone]

theorem undecided_iff (several : 3 ≤ (s.factType id).roles.length) :
    (∃ e, s.shapeOf id = .error e) ↔ ∃ role ∈ (s.factType id).roles, s.ListsUnique [role] := by
  simp only [← isUnique_iff, ← List.any_eq_true]
  rw [shapeOf_many several]
  split
  · rename_i unique
    simp [unique]
  · rename_i none_unique
    split <;> simp [none_unique]

end Snapshot

namespace Document

variable {d : Document} {s : Snapshot} {id : FactTypeId} {f : FactType}

/-- The roles of a fact type are numbered one after the other. -/
theorem number_consecutive (factType role : Nat) (list : List (FactTypeDeclaration × List Player))
    (there : f ∈ (number factType role list).1) :
    ∃ start count, f.roles = (List.range' start count).map .ofNat := by
  induction list generalizing factType role with
  | nil => contradiction
  | cons entry rest ih =>
    rw [number] at there
    rcases List.mem_cons.mp there with rfl | later
    · refine ⟨role, entry.2.length, ?_⟩
      apply List.ext_getElem <;> simp
    · exact ih _ _ later

theorem roles_distinct_of_resolve (resolved : d.resolve = .ok s) {first second : RoleId}
    (roles : (s.factType id).roles = [first, second]) : first ≠ second := by
  obtain ⟨parts, made, _, same, _, _⟩ := exists_parts_of_resolve resolved
  rw [resolveParts] at made
  obtain ⟨_, _, made⟩ := bind_eq_ok_iff.mp made
  obtain ⟨_, _, made⟩ := bind_eq_ok_iff.mp made
  cases made
  have there : s.factType id ∈ s.factTypes := by
    rw [Snapshot.factType] at roles ⊢
    cases found : s.factType? id with
    | none =>
      rw [found] at roles
      contradiction
    | some f => exact List.mem_of_getElem? found
  rw [same] at there
  obtain ⟨start, count, consecutive⟩ := number_consecutive _ _ _ there
  rw [roles] at consecutive
  obtain rfl : count = 2 := by simpa using (congrArg List.length consecutive).symm
  obtain ⟨rfl, rfl⟩ : first = .ofNat start ∧ second = .ofNat (start + 1) := by
    simpa [List.range'] using consecutive
  exact RoleId.ofNat_succ_ne start

/-- Where no uniqueness constraint within a fact type lists a role twice, the shape of the fact type
follows the table, read with sets of roles. In any case a role is its owner, or one too many, only
if a constraint lists it alone and once. -/
theorem shapes_follow_table (resolved : d.resolve = .ok s) (id : FactTypeId) :
    (s.ListsOnce (s.factType id) → s.FollowsTable id (s.shapeOf id)) ∧
      (∀ first second, (s.factType id).roles = [first, second] →
        ((∃ owner value, s.shapeOf id = .ok (.functional owner value)) ↔
          s.ListsUnique [first] ∨ s.ListsUnique [second])) ∧
      (3 ≤ (s.factType id).roles.length → ((∃ e, s.shapeOf id = .error e) ↔
        ∃ role ∈ (s.factType id).roles, s.ListsUnique [role])) := by
  refine ⟨fun once => ?_, fun _ _ => Snapshot.functional_iff, Snapshot.undecided_iff⟩
  constructor
  case none =>
    intro roles
    rw [Snapshot.shapeOf]
    simp only [roles]
    exact ⟨_, rfl⟩
  case one =>
    intro role roles
    rw [Snapshot.shapeOf]
    simp only [roles]
  case two =>
    intro first second roles
    exact Snapshot.tableOfTwo once roles (roles_distinct_of_resolve resolved roles)
  case many => exact Snapshot.tableOfMany once

/-- Suppliers send parts to projects, of each part to one project only, and stock parts. -/
def shipments : Document where
  nouns := [{ name := "Supplier" }, { name := "Part" }, { name := "Project" }]
  factTypes := [
    { readings := [.text "Supplier sends Part to Project"] },
    { readings := [.text "Supplier stocks Part"], relationship := some .manyToMany }]
  constraints := [
    { kind := .uniqueness, roles := [⟨"Supplier sends Part to Project", .player "Part"⟩,
      ⟨"Supplier sends Part to Project", .player "Supplier"⟩] }]

theorem shapes_follow_table_of_shipments : ∃ s, shipments.resolve = .ok s ∧
    s.ListsOnce (s.factType (.ofNat 0)) ∧ 3 ≤ (s.factType (.ofNat 0)).roles.length ∧
    s.FollowsTable (.ofNat 0) (s.shapeOf (.ofNat 0)) ∧
    ((∃ e, s.shapeOf (.ofNat 0) = .error e) ↔
      ∃ role ∈ (s.factType (.ofNat 0)).roles, s.ListsUnique [role]) ∧
    (s.factType (.ofNat 1)).roles = [.ofNat 3, .ofNat 4] ∧
    ((∃ owner value, s.shapeOf (.ofNat 1) = .ok (.functional owner value)) ↔
      s.ListsUnique [.ofNat 3] ∨ s.ListsUnique [.ofNat 4]) := by
  have passed : shipments.resolvesAnd fun s => decide <|
      (∀ span ∈ s.spans, (s.constraint span.constraint).kind = .uniqueness →
        span.roles ⊆ (s.factType (.ofNat 0)).roles → span.roles.Nodup) ∧
      3 ≤ (s.factType (.ofNat 0)).roles.length ∧
      (s.factType (.ofNat 1)).roles = [.ofNat 3, .ofNat 4] := by decide +kernel
  obtain ⟨s, resolved, checked⟩ := exists_of_resolvesAnd passed
  obtain ⟨once, several, roles⟩ := of_decide_eq_true checked
  obtain ⟨follows, _, undecided⟩ := shapes_follow_table resolved (.ofNat 0)
  obtain ⟨_, functional, _⟩ := shapes_follow_table resolved (.ofNat 1)
  exact ⟨s, resolved, once, several, follows once, undecided several, roles,
    functional _ _ roles⟩

/-- Persons have an age, and that is declared unique for the person twice in one constraint. -/
def ages : Document where
  nouns := [{ name := "Person" }, { name := "Age", objectType := .value }]
  factTypes := [{ readings := [.text "Person has Age"] }]
  constraints := [
    { kind := .uniqueness, roles := [⟨"Person has Age", .index 0⟩, ⟨"Person has Age", .index 0⟩] }]

/-- The set of roles that is unique is that of the person alone, but the age is an array. -/
theorem ages_off_table : ∃ s, ages.resolve = .ok s ∧ s.UniqueSet {.ofNat 0} ∧
    s.shapeOf (.ofNat 0) = .ok (.arrayValued (.ofNat 0) (.ofNat 1)) ∧
    ¬s.FollowsTable (.ofNat 0) (s.shapeOf (.ofNat 0)) := by
  have passed : ages.resolvesAnd fun s => decide <|
      (s.factType (.ofNat 0)).roles = [.ofNat 0, .ofNat 1] ∧
      (∃ span ∈ s.spans, (s.constraint span.constraint).kind = .uniqueness ∧
        span.roles = [.ofNat 0, .ofNat 0]) ∧
      (s.shapeOf (.ofNat 0)).toOption = some (.arrayValued (.ofNat 0) (.ofNat 1)) := by
    decide +kernel
  obtain ⟨s, resolved, checked⟩ := exists_of_resolvesAnd passed
  obtain ⟨roles, listed, shape⟩ := of_decide_eq_true checked
  have shape := eq_ok_of_toOption shape
  have unique : s.UniqueSet {.ofNat 0} := ⟨_, listed, by simp⟩
  refine ⟨s, resolved, unique, shape, fun follows => ?_⟩
  have functional := ((follows.two _ _ roles).functional _ _).mpr (.inl ⟨unique, rfl, rfl⟩)
  rw [shape] at functional
  contradiction

end Document
end ObjectRole
