import ObjectRole.Model.Resolution
import ObjectRole.Proofs.Except
import Mathlib.Data.List.Nodup

/-! What each step of resolution asks of a document. Each is opened once here: it goes through if
and only if what it checks holds, and then the result is the one that is given. -/
namespace ObjectRole

/-- The first that bears a name bears it. -/
theorem key_of_findIdx? {α : Type} {list : List α} {key : α → String} {name : String} {place : Nat}
    (found : list.findIdx? (key · == name) = some place) :
    ∃ entry, list[place]? = some entry ∧ key entry = name := by
  obtain ⟨bound, same, _⟩ := List.findIdx?_eq_some_iff_getElem.mp found
  exact ⟨list[place], List.getElem?_eq_getElem bound, beq_iff_eq.mp same⟩

theorem exists_findIdx?_iff {α : Type} {list : List α} {key : α → String} {name : String} :
    (∃ place, list.findIdx? (key · == name) = some place) ↔ name ∈ list.map key := by
  rw [← Option.isSome_iff_exists, List.findIdx?_isSome, List.any_eq_true, List.mem_map]
  simp only [beq_iff_eq]

namespace Document

variable {d : Document} {s : Snapshot} {name : String} {mention : Mention}

theorem noun_eq_ok_iff {id : NounId} : d.noun mention name = .ok id ↔ d.nounId? name = some id := by
  rw [noun]
  cases d.nounId? name <;> simp

theorem factType_eq_ok_iff {id : FactTypeId} :
    d.factType mention name = .ok id ↔ d.factTypeId? name = some id := by
  rw [factType]
  cases d.factTypeId? name <;> simp

theorem player_eq_ok_iff {player : Player} :
    d.player mention name = .ok player ↔ d.player? name = some player := by
  rw [Document.player]
  cases d.player? name <;> simp

/-- The names of the players of a fact type: those declared, or else the nouns of its first
reading. -/
def roleNames (d : Document) (f : FactTypeDeclaration) : List String :=
  match f.roles, f.texts with
  | some names, _ => names
  | none, text :: _ => (d.pattern.tokenize text).nouns
  | none, [] => []

theorem declaredPlayers_eq_ok_iff {f : FactTypeDeclaration} {players : List Player} :
    d.declaredPlayers d.pattern f = .ok players ↔
      List.Forall₂ (fun name player => d.player? name = some player) (d.roleNames f) players := by
  rw [declaredPlayers, roleNames]
  cases f.roles with
  | some names => simp only [mapM_eq_ok_iff, player_eq_ok_iff]
  | none =>
    cases f.texts with
    | nil => simp only [List.forall₂_nil_left_iff, Except.ok.injEq, eq_comm]
    | cons text _ => simp only [mapM_eq_ok_iff, player_eq_ok_iff]

theorem checkReading_eq_ok_iff {pattern : NounPattern} {f : FactTypeDeclaration}
    {players : List Player} {text : String} : d.checkReading pattern f players text = .ok () ↔
      ∀ noun ∈ (pattern.tokenize text).nouns, ∃ player ∈ players, d.player? noun = some player := by
  rw [checkReading, forM_eq_ok_iff]
  refine forall₂_congr fun noun _ => ?_
  rw [bind_eq_ok_iff]
  refine exists_congr fun player => ?_
  rw [player_eq_ok_iff, and_comm, ← List.contains_iff_mem]
  refine and_congr_left fun _ => ?_
  cases players.contains player <;> simp

theorem resolvePlayers_eq_ok_iff {f : FactTypeDeclaration} {players : List Player} :
    d.resolvePlayers d.pattern f = .ok players ↔
      List.Forall₂ (fun name player => d.player? name = some player) (d.roleNames f) players ∧
        ∀ text ∈ f.texts, ∀ noun ∈ (d.pattern.tokenize text).nouns,
          ∃ player ∈ players, d.player? noun = some player := by
  simp only [resolvePlayers, bind_eq_ok_iff, declaredPlayers_eq_ok_iff]
  constructor
  · rintro ⟨_, named, _, checked, same⟩
    cases same
    exact ⟨named, fun text inside =>
      checkReading_eq_ok_iff.mp (forM_eq_ok_iff.mp checked text inside)⟩
  · rintro ⟨named, checked⟩
    exact ⟨players, named, (), forM_eq_ok_iff.mpr fun text inside =>
      checkReading_eq_ok_iff.mpr (checked text inside), rfl⟩

theorem repeated?_eq_none_iff {seen names : List String} :
    repeated? seen names = none ↔ names.Nodup ∧ ∀ name ∈ names, name ∉ seen := by
  induction names generalizing seen with
  | nil => simp [repeated?]
  | cons name rest ih =>
    rw [repeated?, List.forall_mem_cons, List.nodup_cons]
    split
    · rename_i contained
      simp [List.contains_iff_mem.mp contained]
    · rename_i fresh
      rw [ih]
      simp only [List.contains_iff_mem] at fresh
      constructor
      · rintro ⟨nodup, apart⟩
        exact ⟨⟨fun later => apart name later List.mem_cons_self, nodup⟩, fresh,
          fun other later seen => apart other later (.tail _ seen)⟩
      · rintro ⟨⟨once, nodup⟩, _, apart⟩
        refine ⟨nodup, fun other later inside => ?_⟩
        rcases List.mem_cons.mp inside with rfl | seen
        · exact once later
        · exact apart other later seen

/-- Names are checked by going through them once. -/
theorem checkNames_eq_ok_iff : d.checkNames = .ok () ↔
    (d.nouns.map (·.name)).Nodup ∧ (d.factTypes.map (·.title)).Nodup := by
  have unseen (names : List String) : repeated? [] names = none ↔ names.Nodup := by
    simp [repeated?_eq_none_iff]
  rw [checkNames, ← unseen, ← unseen]
  cases repeated? [] (d.nouns.map (·.name)) <;>
    cases repeated? [] (d.factTypes.map (·.title)) <;> simp [bind, Except.bind, pure, Except.pure]

theorem checkRelationship_eq_ok_iff {f : FactTypeDeclaration} {resolved : FactType} :
    checkRelationship f resolved = .ok () ↔ (f.relationship.isSome → resolved.arity = 2) := by
  rw [checkRelationship]
  cases f.relationship with
  | none => simp
  | some relationship => by_cases binary : resolved.arity = 2 <;> simp [binary]

/-- The role that a constraint picks from a fact type. -/
def selected? (s : Snapshot) (f : FactType) : RolePosition → Option RoleId
  | .index place => f.roles[place.toNat]?
  | .player name => f.roles.find? fun role => s.nameOf (s.playerOf role) == name

theorem selectRole_eq_ok_iff {selector : RoleSelector} {role : RoleId} :
    d.selectRole s selector = .ok role ↔ ∃ id, d.factTypeId? selector.factType = some id ∧
      selected? s (s.factType id) selector.role = some role := by
  rw [selectRole, bind_eq_ok_iff]
  refine exists_congr fun id => ?_
  rw [factType_eq_ok_iff]
  refine and_congr_right fun _ => ?_
  rw [selected?.eq_def]
  cases selector.role with
  | index place =>
    dsimp only
    cases (s.factType id).roles[place.toNat]? <;> simp
  | player name =>
    dsimp only
    cases (s.factType id).roles.find? fun role => s.nameOf (s.playerOf role) == name <;> simp

theorem resolveConstraint_eq_ok_iff {c : ConstraintDeclaration} {index : Nat} {rule : Rule} :
    d.resolveConstraint s c index = .ok rule ↔ c.roles ≠ [] ∧ ∃ roles,
      List.Forall₂ (fun selector role => d.selectRole s selector = .ok role) c.roles roles ∧
        rule = ⟨c.kind, c.modality, roles⟩ := by
  rw [resolveConstraint]
  cases c.roles with
  | nil => simp [bind, Except.bind]
  | cons selector rest =>
    simp only [List.isEmpty_cons, Bool.false_eq_true, if_false, bind_eq_ok_iff, mapM_eq_ok_iff,
      pure_eq_ok_iff]
    simp

theorem resolveRules_eq_ok_iff {rules : List Rule} : d.resolveRules s = .ok rules ↔ ∃ declared,
    List.Forall₂ (fun entry rule => d.resolveConstraint s entry.1 entry.2 = .ok rule)
        d.constraints.zipIdx declared ∧
      rules = declared ++ (d.factTypes.zip s.factTypes).flatMap fun entry =>
        expand declared entry.1 entry.2 := by
  simp only [resolveRules, bind_eq_ok_iff, mapM_eq_ok_iff, pure_eq_ok_iff]

theorem resolveExample_eq_ok_iff {e : ExampleDeclaration} {resolved : Example} :
    d.resolveExample s e = .ok resolved ↔ ∃ id, d.factTypeId? e.factType = some id ∧
      e.values.length = (s.factType id).arity ∧ resolved = ⟨id, e.values⟩ := by
  rw [resolveExample, bind_eq_ok_iff]
  refine exists_congr fun id => ?_
  rw [factType_eq_ok_iff]
  refine and_congr_right fun _ => ?_
  by_cases fits : e.values.length = (s.factType id).arity <;>
    simp [fits, pure_eq_ok_iff]

theorem resolveJsonExample_eq_ok_iff {e : JsonExampleDeclaration} {resolved : JsonExample} :
    d.resolveJsonExample e = .ok resolved ↔
      ∃ subject, d.player? e.noun = some subject ∧ resolved = ⟨subject, e.value⟩ := by
  rw [resolveJsonExample, map_eq_ok_iff]
  exact exists_congr fun _ => and_congr player_eq_ok_iff eq_comm

/-- Resolution is the sequence of its steps. -/
theorem resolve_eq_ok_iff : d.resolve = .ok s ↔
    d.checkNames = .ok () ∧ ∃ parts, d.resolveParts = .ok parts ∧
      (∀ entry ∈ d.factTypes.zip parts.factTypes, checkRelationship entry.1 entry.2 = .ok ()) ∧
      ∃ rules, d.resolveRules parts = .ok rules ∧
      ∃ examples, List.Forall₂ (fun e x => d.resolveExample parts e = .ok x) d.examples examples ∧
      ∃ jsonExamples,
        List.Forall₂ (fun e x => d.resolveJsonExample e = .ok x) d.jsonExamples jsonExamples ∧
      s = { withRules parts rules with examples, jsonExamples } ∧ s.checkAcyclic = .ok () := by
  simp only [resolve, bind_eq_ok_iff, mapM_eq_ok_iff, pure_eq_ok_iff]
  constructor
  · rintro ⟨_, names, parts, parts_made, _, related, rules, rules_made, examples, examples_made,
      jsonExamples, jsonExamples_made, _, acyclic, rfl⟩
    exact ⟨names, parts, parts_made, forM_eq_ok_iff.mp related, rules, rules_made, examples,
      examples_made, jsonExamples, jsonExamples_made, rfl, acyclic⟩
  · rintro ⟨names, parts, parts_made, related, rules, rules_made, examples, examples_made,
      jsonExamples, jsonExamples_made, rfl, acyclic⟩
    exact ⟨(), names, parts, parts_made, (), forM_eq_ok_iff.mpr related, rules, rules_made,
      examples, examples_made, jsonExamples, jsonExamples_made, (), acyclic, rfl⟩

/-- Whether a document resolves is decided step by step. -/
theorem exists_resolve_iff : (∃ s, d.resolve = .ok s) ↔
    d.checkNames = .ok () ∧ ∃ parts, d.resolveParts = .ok parts ∧
      (∀ entry ∈ d.factTypes.zip parts.factTypes, checkRelationship entry.1 entry.2 = .ok ()) ∧
      (∃ rules, d.resolveRules parts = .ok rules) ∧
      (∀ e ∈ d.examples, ∃ resolved, d.resolveExample parts e = .ok resolved) ∧
      (∀ e ∈ d.jsonExamples, ∃ resolved, d.resolveJsonExample e = .ok resolved) ∧
      parts.checkAcyclic = .ok () := by
  simp only [resolve_eq_ok_iff, ← exists_forall₂_iff]
  constructor
  · rintro ⟨_, names, parts, made, related, rules, rules_made, examples, examples_made,
      jsonExamples, jsonExamples_made, rfl, acyclic⟩
    exact ⟨names, parts, made, related, ⟨rules, rules_made⟩, ⟨examples, examples_made⟩,
      ⟨jsonExamples, jsonExamples_made⟩, acyclic⟩
  · rintro ⟨names, parts, made, related, ⟨rules, rules_made⟩, ⟨examples, examples_made⟩,
      ⟨jsonExamples, jsonExamples_made⟩, acyclic⟩
    exact ⟨_, names, parts, made, related, rules, rules_made, examples, examples_made,
      jsonExamples, jsonExamples_made, rfl, acyclic⟩

/-- What the declaration of a noun resolves to. -/
structure DenotesNoun (d : Document) (declared : NounDeclaration × Nat) (noun : Noun) : Prop where
  id : noun.id = .ofNat declared.2
  name : noun.name = declared.1.name
  scheme : List.Forall₂ (fun name id => d.nounId? name = some id)
    declared.1.referenceScheme noun.referenceScheme
  superType : Option.Rel (fun name id => d.nounId? name = some id)
    declared.1.superType noun.superType

theorem denotesNoun_of_resolveNoun {declared : NounDeclaration × Nat} {noun : Noun}
    (resolved : d.resolveNoun declared.1 declared.2 = .ok noun) : d.DenotesNoun declared noun := by
  rw [resolveNoun] at resolved
  obtain ⟨scheme, scheme_named, resolved⟩ := bind_eq_ok_iff.mp resolved
  obtain ⟨superType, superType_named, resolved⟩ := bind_eq_ok_iff.mp resolved
  cases resolved
  simp only [mapM_eq_ok_iff, option_mapM_eq_ok_iff, noun_eq_ok_iff] at scheme_named superType_named
  exact ⟨rfl, rfl, scheme_named, superType_named⟩

theorem nouns_of_resolveParts {parts : Snapshot} (resolved : d.resolveParts = .ok parts) :
    List.Forall₂ d.DenotesNoun d.nouns.zipIdx parts.nouns := by
  rw [resolveParts] at resolved
  obtain ⟨nouns, nouns_resolved, resolved⟩ := bind_eq_ok_iff.mp resolved
  obtain ⟨_, _, resolved⟩ := bind_eq_ok_iff.mp resolved
  cases resolved
  exact (mapM_eq_ok_iff.mp nouns_resolved).imp fun _ _ => denotesNoun_of_resolveNoun

end Document
end ObjectRole
