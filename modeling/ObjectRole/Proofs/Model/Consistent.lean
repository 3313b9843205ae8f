import ObjectRole.Proofs.Model.WellFormed

/-! The documents that resolve are the consistent ones. Consistency is a matter of names alone: what
a document declares, what it refers to, and what identifies or generalizes what. -/
namespace ObjectRole

/-- What a name stands for. -/
inductive Referent where
  | noun (name : String)
  | factType (title : String)
deriving DecidableEq, Repr

def Referent.name : Referent → String
  | noun name => name
  | factType title => title

namespace Document

variable {d : Document} {s parts : Snapshot} {name : String} {f : FactTypeDeclaration}

/-- A noun hides a fact type of its name. -/
def referent? (d : Document) (name : String) : Option Referent :=
  if name ∈ d.nouns.map (·.name) then some (.noun name)
  else if name ∈ d.factTypes.map (·.title) then some (.factType name)
  else none

/-- What plays the roles of a fact type. -/
def referents (d : Document) (f : FactTypeDeclaration) : List Referent :=
  (d.roleNames f).filterMap d.referent?

/-- The supertype and the reference scheme of a noun, and the players of a fact type. -/
inductive Edge (d : Document) : Referent → Referent → Prop where
  | superType {n : NounDeclaration} {name : String} (declared : n ∈ d.nouns)
      (above : n.superType = some name) : Edge d (.noun n.name) (.noun name)
  | scheme {n : NounDeclaration} {name : String} (declared : n ∈ d.nouns)
      (listed : name ∈ n.referenceScheme) : Edge d (.noun n.name) (.noun name)
  | player {f : FactTypeDeclaration} {r : Referent} (declared : f ∈ d.factTypes)
      (plays : r ∈ d.referents f) : Edge d (.factType f.title) r

/-- A fact type has a role in that position, or a role played by what is called so. -/
def Picks (d : Document) (f : FactTypeDeclaration) : RolePosition → Prop
  | .index place => place.toNat < (d.roleNames f).length
  | .player name => ∃ r ∈ d.referents f, r.name = name

/-- A constraint is about some roles, each of which is there. -/
def ConstraintClear (d : Document) (c : ConstraintDeclaration) : Prop :=
  c.roles ≠ [] ∧ ∀ selector ∈ c.roles,
    ∃ f ∈ d.factTypes, f.title = selector.factType ∧ d.Picks f selector.role

/-- Names are clear, everything that is referred to is declared, and nothing leads back to itself
by supertypes, reference schemes and players. -/
structure Consistent (d : Document) : Prop where
  names : (d.nouns.map (·.name)).Nodup
  titles : (d.factTypes.map (·.title)).Nodup
  schemes : ∀ n ∈ d.nouns, ∀ name ∈ n.referenceScheme, name ∈ d.nouns.map (·.name)
  superTypes : ∀ n ∈ d.nouns, ∀ name ∈ n.superType, name ∈ d.nouns.map (·.name)
  roles : ∀ f ∈ d.factTypes, ∀ names ∈ f.roles, ∀ name ∈ names, (d.referent? name).isSome
  readings : ∀ f ∈ d.factTypes, ∀ text ∈ f.texts, ∀ noun ∈ (d.pattern.tokenize text).nouns,
    ∃ r ∈ d.referents f, d.referent? noun = some r
  relationships : ∀ f ∈ d.factTypes, f.relationship.isSome → (d.roleNames f).length = 2
  constraints : ∀ c ∈ d.constraints, c.roles ≠ [] ∧ ∀ selector ∈ c.roles,
    ∃ f ∈ d.factTypes, f.title = selector.factType ∧ d.Picks f selector.role
  examples : ∀ e ∈ d.examples,
    ∃ f ∈ d.factTypes, f.title = e.factType ∧ e.values.length = (d.roleNames f).length
  jsonExamples : ∀ e ∈ d.jsonExamples, (d.referent? e.noun).isSome
  acyclic : ∀ r, ¬Relation.TransGen d.Edge r r

/-! ## Names and numbers -/

theorem exists_nounId?_iff : (∃ id, d.nounId? name = some id) ↔ name ∈ d.nouns.map (·.name) := by
  rw [← exists_findIdx?_iff]
  simp only [nounId?, Option.map_eq_some_iff]
  exact ⟨fun ⟨_, place, found, _⟩ => ⟨place, found⟩, fun ⟨place, found⟩ => ⟨_, place, found, rfl⟩⟩

theorem exists_factTypeId?_iff :
    (∃ id, d.factTypeId? name = some id) ↔ name ∈ d.factTypes.map (·.title) := by
  rw [← exists_findIdx?_iff]
  simp only [factTypeId?, Option.map_eq_some_iff]
  exact ⟨fun ⟨_, place, found, _⟩ => ⟨place, found⟩, fun ⟨place, found⟩ => ⟨_, place, found, rfl⟩⟩

/-- The number of what a name stands for. -/
def playerOf (d : Document) : Referent → Player
  | .noun name => .noun ((d.nounId? name).getD default)
  | .factType title => .factType ((d.factTypeId? title).getD default)

/-- What has a number. -/
def referentOf (d : Document) : Player → Referent
  | .noun id => .noun ((d.nouns[id.place]?).elim "" (·.name))
  | .factType id => .factType ((d.factTypes[id.place]?).elim "" (·.title))

theorem player?_eq (name : String) : d.player? name = (d.referent? name).map d.playerOf := by
  rw [player?, referent?]
  split
  · rename_i declared
    obtain ⟨id, named⟩ := exists_nounId?_iff.mpr declared
    simp [named, playerOf]
  · rename_i undeclared
    have no_noun : d.nounId? name = none :=
      Option.eq_none_iff_forall_ne_some.mpr fun id named =>
        undeclared (exists_nounId?_iff.mp ⟨id, named⟩)
    split
    · rename_i declared
      obtain ⟨id, named⟩ := exists_factTypeId?_iff.mpr declared
      simp [no_noun, named, playerOf]
    · rename_i undeclared
      have no_factType : d.factTypeId? name = none :=
        Option.eq_none_iff_forall_ne_some.mpr fun id named =>
          undeclared (exists_factTypeId?_iff.mp ⟨id, named⟩)
      simp [no_noun, no_factType]

theorem player?_eq_some_iff {player : Player} :
    d.player? name = some player ↔ ∃ r, d.referent? name = some r ∧ d.playerOf r = player := by
  rw [player?_eq, Option.map_eq_some_iff]

theorem exists_player?_iff :
    (∃ player, d.player? name = some player) ↔ (d.referent? name).isSome := by
  rw [← Option.isSome_iff_exists, player?_eq, Option.isSome_map]

/-- A name that stands for something stands for what is called so. -/
theorem referent?_cases {r : Referent} (named : d.referent? name = some r) :
    (r = .noun name ∧ ∃ id, d.nounId? name = some id) ∨
      (r = .factType name ∧ ∃ id, d.factTypeId? name = some id) := by
  rw [referent?] at named
  split at named
  · rename_i declared
    cases named
    exact .inl ⟨rfl, exists_nounId?_iff.mpr declared⟩
  · split at named
    · rename_i declared
      cases named
      exact .inr ⟨rfl, exists_factTypeId?_iff.mpr declared⟩
    · cases named

theorem name_of_referent? {r : Referent} (named : d.referent? name = some r) : r.name = name := by
  rcases referent?_cases named with ⟨rfl, _⟩ | ⟨rfl, _⟩ <;> rfl

theorem mem_referents {r : Referent} :
    r ∈ d.referents f ↔ ∃ name ∈ d.roleNames f, d.referent? name = some r :=
  List.mem_filterMap

/-- Different things have different numbers. -/
theorem Numberable.referentOf_playerOf (numberable : d.Numberable) {r : Referent}
    (named : d.referent? name = some r) : d.referentOf (d.playerOf r) = r := by
  rcases referent?_cases named with ⟨rfl, id, numbered⟩ | ⟨rfl, id, numbered⟩
  · obtain ⟨declared, there, same⟩ := numberable.nounId?_some numbered
    rw [playerOf, numbered, Option.getD_some, referentOf, there, Option.elim_some, same]
  · obtain ⟨declared, there, same⟩ := numberable.factTypeId?_some numbered
    rw [playerOf, numbered, Option.getD_some, referentOf, there, Option.elim_some, same]

/-! ## Nouns and fact types -/

/-- The nouns that a noun refers to are declared. -/
def NounClear (d : Document) (n : NounDeclaration) : Prop :=
  (∀ name ∈ n.referenceScheme, name ∈ d.nouns.map (·.name)) ∧
    ∀ name ∈ n.superType, name ∈ d.nouns.map (·.name)

/-- What a reading mentions plays a role of its fact type. -/
def ReadingsClear (d : Document) (f : FactTypeDeclaration) : Prop :=
  ∀ text ∈ f.texts, ∀ noun ∈ (d.pattern.tokenize text).nouns,
    ∃ r ∈ d.referents f, d.referent? noun = some r

/-- The roles and the readings of a fact type are about what is declared. -/
def FactTypeClear (d : Document) (f : FactTypeDeclaration) : Prop :=
  (∀ names ∈ f.roles, ∀ name ∈ names, (d.referent? name).isSome) ∧ d.ReadingsClear f

theorem exists_resolvePlayers_iff (numberable : d.Numberable) :
    (∃ players, d.resolvePlayers d.pattern f = .ok players) ↔
      (∀ name ∈ d.roleNames f, (d.referent? name).isSome) ∧ d.ReadingsClear f := by
  simp only [resolvePlayers_eq_ok_iff]
  constructor
  · rintro ⟨players, named, checked⟩
    refine ⟨fun name listed => ?_, fun text inside noun found => ?_⟩
    · obtain ⟨player, _, numbered⟩ := exists_of_forall₂ named listed
      exact exists_player?_iff.mp ⟨player, numbered⟩
    · obtain ⟨player, among, numbered⟩ := checked text inside noun found
      obtain ⟨name, listed, same⟩ := exists_of_forall₂ named.flip among
      obtain ⟨r, stands, rfl⟩ := player?_eq_some_iff.mp numbered
      obtain ⟨other, other_stands, same⟩ := player?_eq_some_iff.mp same
      have equal : other = r := by
        rw [← numberable.referentOf_playerOf other_stands, same,
          numberable.referentOf_playerOf stands]
      exact ⟨r, mem_referents.mpr ⟨name, listed, equal ▸ other_stands⟩, stands⟩
  · rintro ⟨declared, checked⟩
    obtain ⟨players, named⟩ := exists_forall₂_iff.mpr fun name listed =>
      exists_player?_iff.mpr (declared name listed)
    refine ⟨players, named, fun text inside noun found => ?_⟩
    obtain ⟨r, among, stands⟩ := checked text inside noun found
    obtain ⟨name, listed, same⟩ := mem_referents.mp among
    obtain ⟨player, among, numbered⟩ := exists_of_forall₂ named listed
    refine ⟨player, among, ?_⟩
    rw [← numbered, player?_eq, player?_eq, stands, same]

/-- Where its readings are clear, the roles of a fact type are clear if the declared ones are. -/
theorem forall_roleNames_iff (readings : d.ReadingsClear f) :
    (∀ name ∈ d.roleNames f, (d.referent? name).isSome) ↔
      ∀ names ∈ f.roles, ∀ name ∈ names, (d.referent? name).isSome := by
  rw [roleNames]
  cases f.roles with
  | some names => simp
  | none =>
    simp only [Option.mem_def, reduceCtorEq, false_imp_iff, implies_true, iff_true]
    cases texts : f.texts with
    | nil => exact fun _ listed => absurd listed List.not_mem_nil
    | cons text rest =>
      intro noun found
      obtain ⟨r, _, stands⟩ := readings text (texts ▸ List.mem_cons_self) noun found
      rw [stands]
      rfl

theorem exists_resolveNoun_iff {n : NounDeclaration} {place : Nat} :
    (∃ noun, d.resolveNoun n place = .ok noun) ↔ d.NounClear n := by
  simp only [resolveNoun, bind_eq_ok_iff, pure_eq_ok_iff, mapM_eq_ok_iff, option_mapM_eq_ok_iff,
    noun_eq_ok_iff, NounClear, ← exists_nounId?_iff, ← exists_forall₂_iff, ← exists_rel_iff]
  constructor
  · rintro ⟨_, scheme, scheme_named, superType, superType_named, _⟩
    exact ⟨⟨scheme, scheme_named⟩, ⟨superType, superType_named⟩⟩
  · rintro ⟨⟨scheme, scheme_named⟩, ⟨superType, superType_named⟩⟩
    exact ⟨_, scheme, scheme_named, superType, superType_named, rfl⟩

theorem exists_resolveParts_iff (numberable : d.Numberable) :
    (∃ parts, d.resolveParts = .ok parts) ↔
      (∀ n ∈ d.nouns, d.NounClear n) ∧ ∀ f ∈ d.factTypes, d.FactTypeClear f := by
  have nouns : (∃ nouns, (d.nouns.zipIdx).mapM (fun entry => d.resolveNoun entry.1 entry.2) =
      .ok nouns) ↔ ∀ n ∈ d.nouns, d.NounClear n := by
    simp only [exists_mapM_eq_ok_iff, exists_resolveNoun_iff]
    exact forall_mem_zipIdx_fst (P := d.NounClear)
  have players : (∃ players, d.factTypes.mapM (d.resolvePlayers d.pattern) = .ok players) ↔
      ∀ f ∈ d.factTypes, d.FactTypeClear f := by
    simp only [exists_mapM_eq_ok_iff, exists_resolvePlayers_iff numberable]
    exact forall₂_congr fun f _ => and_congr_left forall_roleNames_iff
  rw [← nouns, ← players]
  simp only [resolveParts, bind_eq_ok_iff, pure_eq_ok_iff]
  constructor
  · rintro ⟨_, nouns, nouns_made, players, players_made, _⟩
    exact ⟨⟨nouns, nouns_made⟩, ⟨players, players_made⟩⟩
  · rintro ⟨⟨nouns, nouns_made⟩, ⟨players, players_made⟩⟩
    exact ⟨_, nouns, nouns_made, players, players_made, rfl⟩

/-! ## What refers to fact types -/

namespace Numbers

variable (numberable : d.Numberable) (numbers : d.Numbers s)
include numberable numbers

theorem noun_of_nounId? {id : NounId} (named : d.nounId? name = some id) :
    ∃ n ∈ d.nouns, n.name = name ∧ ∃ place, d.DenotesNoun (n, place) (s.noun id) := by
  obtain ⟨n, there, same⟩ := numberable.nounId?_some named
  obtain ⟨noun, found, denotes⟩ := numbers.noun_at there
  refine ⟨n, List.mem_of_getElem? there, same, id.place, ?_⟩
  rw [Snapshot.noun, Snapshot.noun?, found]
  exact denotes

theorem factType_of_factTypeId? {id : FactTypeId} (named : d.factTypeId? name = some id) :
    ∃ f ∈ d.factTypes, f.title = name ∧
      ∃ place, d.DenotesFactType s.roles (f, place) (s.factType id) := by
  obtain ⟨f, there, same⟩ := numberable.factTypeId?_some named
  obtain ⟨resolved, found, denotes⟩ := numbers.factType_at there
  refine ⟨f, List.mem_of_getElem? there, same, id.place, ?_⟩
  rw [Snapshot.factType, Snapshot.factType?, found]
  exact denotes

/-- A declared fact type has a number, which leads to what it resolves to. -/
theorem exists_factTypeId? (titles : (d.factTypes.map (·.title)).Nodup)
    (declared : f ∈ d.factTypes) : ∃ id, d.factTypeId? f.title = some id ∧
      ∃ place, d.DenotesFactType s.roles (f, place) (s.factType id) := by
  obtain ⟨id, named⟩ := exists_factTypeId?_iff.mpr (List.mem_map_of_mem declared)
  obtain ⟨other, there, same, denotes⟩ := numbers.factType_of_factTypeId? numberable named
  cases List.inj_on_of_nodup_map titles there declared same
  exact ⟨id, named, denotes⟩

theorem exists_nounId? (names : (d.nouns.map (·.name)).Nodup) {n : NounDeclaration}
    (declared : n ∈ d.nouns) : ∃ id, d.nounId? n.name = some id ∧
      ∃ place, d.DenotesNoun (n, place) (s.noun id) := by
  obtain ⟨id, named⟩ := exists_nounId?_iff.mpr (List.mem_map_of_mem declared)
  obtain ⟨other, there, same, denotes⟩ := numbers.noun_of_nounId? numberable named
  cases List.inj_on_of_nodup_map names there declared same
  exact ⟨id, named, denotes⟩

/-- What refers to a fact type by its title refers to the declared one. -/
theorem exists_factTypeId?_and_iff (titles : (d.factTypes.map (·.title)).Nodup)
    {P : FactTypeDeclaration → Prop} {Q : FactType → Prop}
    (same : ∀ {f place resolved}, f ∈ d.factTypes →
      d.DenotesFactType s.roles (f, place) resolved → (P f ↔ Q resolved)) :
    (∃ id, d.factTypeId? name = some id ∧ Q (s.factType id)) ↔
      ∃ f ∈ d.factTypes, f.title = name ∧ P f := by
  constructor
  · rintro ⟨id, named, holds⟩
    obtain ⟨f, declared, title, _, denotes⟩ := numbers.factType_of_factTypeId? numberable named
    exact ⟨f, declared, title, (same declared denotes).mpr holds⟩
  · rintro ⟨f, declared, rfl, holds⟩
    obtain ⟨id, named, _, denotes⟩ := numbers.exists_factTypeId? numberable titles declared
    exact ⟨id, named, (same declared denotes).mp holds⟩

theorem nameOf_playerOf {r : Referent} (stands : d.referent? name = some r) :
    s.nameOf (d.playerOf r) = name := by
  rcases referent?_cases stands with ⟨rfl, id, numbered⟩ | ⟨rfl, id, numbered⟩
  · obtain ⟨n, _, same, _, denotes⟩ := numbers.noun_of_nounId? numberable numbered
    rw [playerOf, numbered, Option.getD_some, Snapshot.nameOf, denotes.name, same]
  · obtain ⟨f, _, same, _, denotes⟩ := numbers.factType_of_factTypeId? numberable numbered
    rw [playerOf, numbered, Option.getD_some, Snapshot.nameOf, denotes.title, same]

end Numbers

/-- The roles of a fact type are played by what their names stand for. -/
theorem DenotesFactType.players {resolved : FactType} {place : Nat}
    (denotes : d.DenotesFactType s.roles (f, place) resolved) :
    List.Forall₂ (fun name id => ∃ r, d.referent? name = some r ∧ s.playerOf id = d.playerOf r)
      (d.roleNames f) resolved.roles := by
  refine denotes.roles.imp fun name id related => ?_
  obtain ⟨player, named, found⟩ := related
  obtain ⟨r, stands, rfl⟩ := player?_eq_some_iff.mp named
  refine ⟨r, stands, ?_⟩
  rw [Snapshot.playerOf, Snapshot.role, Snapshot.role?, found]
  rfl

section Roles

variable (numberable : d.Numberable) (numbers : d.Numbers s)
include numberable numbers

theorem picks_iff {resolved : FactType} {place : Nat} {position : RolePosition}
    (denotes : d.DenotesFactType s.roles (f, place) resolved) :
    d.Picks f position ↔ ∃ role, selected? s resolved position = some role := by
  have players := denotes.players
  rw [← Option.isSome_iff_exists]
  cases position with
  | index place => rw [Picks, players.length_eq, selected?, isSome_getElem?]
  | player name =>
    rw [Picks, selected?, List.find?_isSome]
    constructor
    · rintro ⟨r, among, rfl⟩
      obtain ⟨name, listed, stands⟩ := mem_referents.mp among
      obtain ⟨id, id_listed, other, other_stands, plays⟩ := exists_of_forall₂ players listed
      refine ⟨id, id_listed, beq_iff_eq.mpr ?_⟩
      rw [plays, numbers.nameOf_playerOf numberable other_stands, name_of_referent? stands]
    · rintro ⟨id, listed, called⟩
      obtain ⟨own, own_listed, r, stands, plays⟩ := exists_of_forall₂ players.flip listed
      rw [plays, numbers.nameOf_playerOf numberable stands, beq_iff_eq] at called
      exact ⟨r, mem_referents.mpr ⟨own, own_listed, stands⟩, called ▸ name_of_referent? stands⟩

variable (titles : (d.factTypes.map (·.title)).Nodup)
include titles

theorem exists_selectRole_iff {selector : RoleSelector} :
    (∃ role, d.selectRole s selector = .ok role) ↔
      ∃ f ∈ d.factTypes, f.title = selector.factType ∧ d.Picks f selector.role := by
  rw [← numbers.exists_factTypeId?_and_iff numberable titles
    fun _ denotes => picks_iff numberable numbers denotes]
  simp only [selectRole_eq_ok_iff]
  exact ⟨fun ⟨role, id, named, selected⟩ => ⟨id, named, role, selected⟩,
    fun ⟨id, named, role, selected⟩ => ⟨role, id, named, selected⟩⟩

theorem exists_resolveConstraint_iff {c : ConstraintDeclaration} {index : Nat} :
    (∃ rule, d.resolveConstraint s c index = .ok rule) ↔ d.ConstraintClear c := by
  simp only [resolveConstraint_eq_ok_iff, ConstraintClear,
    ← exists_selectRole_iff numberable numbers titles, ← exists_forall₂_iff]
  exact ⟨fun ⟨_, spanned, roles, selected, _⟩ => ⟨spanned, roles, selected⟩,
    fun ⟨spanned, roles, selected⟩ => ⟨_, spanned, roles, selected, rfl⟩⟩

theorem exists_resolveRules_iff :
    (∃ rules, d.resolveRules s = .ok rules) ↔ ∀ c ∈ d.constraints, d.ConstraintClear c := by
  have declared : (∃ declared, List.Forall₂ (fun entry rule =>
      d.resolveConstraint s entry.1 entry.2 = .ok rule) d.constraints.zipIdx declared) ↔
        ∀ c ∈ d.constraints, d.ConstraintClear c := by
    rw [exists_forall₂_iff, ← forall_mem_zipIdx_fst (P := d.ConstraintClear)]
    exact forall₂_congr fun entry _ => exists_resolveConstraint_iff numberable numbers titles
  rw [← declared]
  simp only [resolveRules_eq_ok_iff]
  exact ⟨fun ⟨_, rules, made, _⟩ => ⟨rules, made⟩, fun ⟨rules, made⟩ => ⟨_, rules, made, rfl⟩⟩

theorem exists_resolveExample_iff {e : ExampleDeclaration} :
    (∃ resolved, d.resolveExample s e = .ok resolved) ↔
      ∃ f ∈ d.factTypes, f.title = e.factType ∧ e.values.length = (d.roleNames f).length := by
  have same {f : FactTypeDeclaration} {place : Nat} {resolved : FactType}
      (_ : f ∈ d.factTypes) (denotes : d.DenotesFactType s.roles (f, place) resolved) :
      e.values.length = (d.roleNames f).length ↔ e.values.length = resolved.arity := by
    rw [FactType.arity, denotes.roles.length_eq]
  rw [← numbers.exists_factTypeId?_and_iff numberable titles same]
  simp only [resolveExample_eq_ok_iff]
  exact ⟨fun ⟨_, id, named, fits, _⟩ => ⟨id, named, fits⟩,
    fun ⟨id, named, fits⟩ => ⟨_, id, named, fits, rfl⟩⟩

omit numberable titles in
theorem forall_checkRelationship_iff :
    (∀ entry ∈ d.factTypes.zip s.factTypes, checkRelationship entry.1 entry.2 = .ok ()) ↔
      ∀ f ∈ d.factTypes, f.relationship.isSome → (d.roleNames f).length = 2 := by
  simp only [checkRelationship_eq_ok_iff]
  constructor
  · intro checked f declared related
    obtain ⟨place, there⟩ := List.mem_iff_getElem?.mp declared
    obtain ⟨resolved, found, denotes⟩ := numbers.factType_at there
    have paired : (f, resolved) ∈ d.factTypes.zip s.factTypes :=
      List.mem_iff_getElem?.mpr ⟨place, List.getElem?_zip_eq_some.mpr ⟨there, found⟩⟩
    rw [denotes.roles.length_eq]
    exact checked (f, resolved) paired related
  · rintro checked ⟨f, resolved⟩ paired related
    obtain ⟨place, paired⟩ := List.mem_iff_getElem?.mp paired
    obtain ⟨there, found⟩ := List.getElem?_zip_eq_some.mp paired
    obtain ⟨other, other_found, denotes⟩ := numbers.factType_at there
    cases found.symm.trans other_found
    rw [FactType.arity, ← denotes.roles.length_eq]
    exact checked f (List.mem_of_getElem? there) related

end Roles

/-! ## What leads where -/

section Edges

variable (numberable : d.Numberable) (numbers : d.Numbers s)
include numberable numbers

theorem edge_of_noun {id : NounId} {next : Player} (edge : next ∈ s.inheritedEdges (.noun id)) :
    d.Edge (d.referentOf (.noun id)) (d.referentOf next) := by
  have referentOf_noun {name : String} {other : NounId} (named : d.nounId? name = some other) :
      d.referentOf (.noun other) = .noun name := by
    obtain ⟨n, there, same⟩ := numberable.nounId?_some named
    rw [referentOf, there, Option.elim_some, same]
  cases found : s.noun? id with
  | none =>
    rw [Snapshot.inheritedEdges, Snapshot.identifyingPlayers, Snapshot.superTypeEdges,
      Snapshot.superTypeOf, Snapshot.noun, found] at edge
    exact absurd edge List.not_mem_nil
  | some noun =>
    obtain ⟨n, there, denotes⟩ := numbers.noun_declared found
    have declared := List.mem_of_getElem? there
    have own : d.referentOf (.noun id) = .noun n.name := by
      rw [referentOf, there, Option.elim_some]
    rw [Snapshot.inheritedEdges, Snapshot.identifyingPlayers, Snapshot.superTypeEdges,
      Snapshot.superTypeOf, Snapshot.noun, found, Option.getD_some, List.mem_append, List.mem_map,
      Option.mem_toList] at edge
    rcases edge with ⟨other, listed, rfl⟩ | above
    · obtain ⟨name, name_listed, named⟩ := exists_of_forall₂ denotes.scheme.flip listed
      rw [own, referentOf_noun named]
      exact .scheme declared name_listed
    · obtain ⟨other, own_above, rfl⟩ := Option.map_eq_some_iff.mp above
      obtain ⟨name, name_above, named⟩ := exists_of_rel_some (own_above ▸ denotes.superType)
      rw [own, referentOf_noun named]
      exact .superType declared name_above

theorem edge_of_factType {id : FactTypeId} {next : Player} (edge : next ∈ s.players id) :
    d.Edge (d.referentOf (.factType id)) (d.referentOf next) := by
  cases found : s.factType? id with
  | none =>
    rw [Snapshot.players, Snapshot.factType, found] at edge
    exact absurd edge List.not_mem_nil
  | some resolved =>
    obtain ⟨f, there, denotes⟩ := numbers.factType_declared found
    rw [Snapshot.players, Snapshot.factType, found, Option.getD_some] at edge
    obtain ⟨role, listed, rfl⟩ := List.mem_map.mp edge
    obtain ⟨name, name_listed, r, stands, plays⟩ := exists_of_forall₂ denotes.players.flip listed
    rw [plays, numberable.referentOf_playerOf stands, referentOf, there, Option.elim_some]
    exact .player (List.mem_of_getElem? there) (mem_referents.mpr ⟨name, name_listed, stands⟩)

/-- What the search for cycles follows is an edge of the document. -/
theorem edge_of_inheritedEdges {player next : Player} (edge : next ∈ s.inheritedEdges player) :
    d.Edge (d.referentOf player) (d.referentOf next) := by
  cases player with
  | noun id => exact edge_of_noun numberable numbers edge
  | factType id =>
    rw [Snapshot.inheritedEdges, Snapshot.superTypeEdges, Snapshot.superTypeOf, Option.toList_none,
      List.append_nil] at edge
    exact edge_of_factType numberable numbers edge

/-- The search for cycles follows every edge of the document. -/
theorem inheritedEdges_of_edge (names : (d.nouns.map (·.name)).Nodup)
    (titles : (d.factTypes.map (·.title)).Nodup) {a b : Referent} (edge : d.Edge a b) :
    d.playerOf b ∈ s.inheritedEdges (d.playerOf a) := by
  rw [Snapshot.inheritedEdges, List.mem_append]
  cases edge with
  | @superType n name declared above =>
    obtain ⟨id, named, place, denotes⟩ := numbers.exists_nounId? numberable names declared
    obtain ⟨other, found, other_named⟩ := exists_of_some_rel (above ▸ denotes.superType)
    rw [playerOf, playerOf, named, other_named, Option.getD_some, Option.getD_some]
    right
    rw [Snapshot.superTypeEdges, Snapshot.superTypeOf, found]
    exact List.mem_singleton_self _
  | @scheme n name declared listed =>
    obtain ⟨id, named, place, denotes⟩ := numbers.exists_nounId? numberable names declared
    obtain ⟨other, found, other_named⟩ := exists_of_forall₂ denotes.scheme listed
    rw [playerOf, playerOf, named, other_named, Option.getD_some, Option.getD_some]
    exact .inl (List.mem_map_of_mem found)
  | @player f r declared plays =>
    obtain ⟨id, named, place, denotes⟩ := numbers.exists_factTypeId? numberable titles declared
    obtain ⟨name, listed, stands⟩ := mem_referents.mp plays
    obtain ⟨role, found, other, other_stands, played⟩ := exists_of_forall₂ denotes.players listed
    cases stands.symm.trans other_stands
    rw [playerOf, named, Option.getD_some, ← played]
    exact .inl (List.mem_map_of_mem found)

/-- The search for cycles succeeds if nothing leads back to itself. -/
theorem checkAcyclic_iff (formed : s.WellFormed) (names : (d.nouns.map (·.name)).Nodup)
    (titles : (d.factTypes.map (·.title)).Nodup) :
    s.checkAcyclic = .ok () ↔ ∀ r, ¬Relation.TransGen d.Edge r r := by
  rw [Snapshot.checkAcyclic_eq_ok_iff formed.inPlace.edges_subset]
  constructor
  · exact fun acyclic r loop => acyclic _ (loop.lift d.playerOf fun _ _ edge =>
      inheritedEdges_of_edge numberable numbers names titles edge)
  · exact fun acyclic player loop => acyclic _ (loop.lift d.referentOf fun _ _ edge =>
      edge_of_inheritedEdges numberable numbers edge)

end Edges

theorem exists_resolveJsonExample_iff {e : JsonExampleDeclaration} :
    (∃ resolved, d.resolveJsonExample e = .ok resolved) ↔ (d.referent? e.noun).isSome := by
  simp only [resolveJsonExample_eq_ok_iff, ← exists_player?_iff]
  exact ⟨fun ⟨_, player, named, _⟩ => ⟨player, named⟩, fun ⟨_, named⟩ => ⟨_, _, named, rfl⟩⟩

/-- Resolution accepts just the consistent documents, as long as there are enough numbers for the
nouns, fact types and roles. -/
theorem resolves_iff_consistent (numberable : d.Numberable) :
    (∃ s, d.resolve = .ok s) ↔ d.Consistent := by
  rw [exists_resolve_iff, checkNames_eq_ok_iff]
  simp only [exists_resolveJsonExample_iff]
  constructor
  · rintro ⟨⟨names, titles⟩, parts, made, related, rules, examples, jsonExamples, acyclic⟩
    have numbers := numbers_of_resolveParts numberable made
    have formed :=
      wellFormed_of_resolveParts numberable (checkNames_eq_ok_iff.mpr ⟨names, titles⟩) made
    obtain ⟨nouns, factTypes⟩ := (exists_resolveParts_iff numberable).mp ⟨parts, made⟩
    exact {
      names, titles, jsonExamples
      schemes := fun n declared => (nouns n declared).1
      superTypes := fun n declared => (nouns n declared).2
      roles := fun f declared => (factTypes f declared).1
      readings := fun f declared => (factTypes f declared).2
      relationships := (forall_checkRelationship_iff numbers).mp related
      constraints := (exists_resolveRules_iff numberable numbers titles).mp rules
      examples := fun e declared =>
        (exists_resolveExample_iff numberable numbers titles).mp (examples e declared)
      acyclic := (checkAcyclic_iff numberable numbers formed names titles).mp acyclic }
  · intro consistent
    obtain ⟨names, titles⟩ := And.intro consistent.names consistent.titles
    have nouns (n : NounDeclaration) (declared : n ∈ d.nouns) : d.NounClear n :=
      ⟨consistent.schemes n declared, consistent.superTypes n declared⟩
    have factTypes (f : FactTypeDeclaration) (declared : f ∈ d.factTypes) : d.FactTypeClear f :=
      ⟨consistent.roles f declared, consistent.readings f declared⟩
    obtain ⟨parts, made⟩ := (exists_resolveParts_iff numberable).mpr ⟨nouns, factTypes⟩
    have numbers := numbers_of_resolveParts numberable made
    have formed :=
      wellFormed_of_resolveParts numberable (checkNames_eq_ok_iff.mpr ⟨names, titles⟩) made
    refine ⟨⟨names, titles⟩, parts, made, ?_, ?_, ?_, consistent.jsonExamples, ?_⟩
    · exact (forall_checkRelationship_iff numbers).mpr consistent.relationships
    · exact (exists_resolveRules_iff numberable numbers titles).mpr consistent.constraints
    · exact fun e declared =>
        (exists_resolveExample_iff numberable numbers titles).mpr (consistent.examples e declared)
    · exact (checkAcyclic_iff numberable numbers formed names titles).mpr consistent.acyclic

theorem residences_consistent : residences.Numberable ∧ residences.Consistent :=
  ⟨numberable_residences,
    (resolves_iff_consistent numberable_residences).mp exists_resolve_residences⟩

end Document
end ObjectRole
