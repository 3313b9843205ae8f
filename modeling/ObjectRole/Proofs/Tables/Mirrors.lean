import ObjectRole.Proofs.Model.Renumbering
import ObjectRole.Proofs.Tables.Finished

/-! Building the tables of a snapshot under other numbers. The same steps are taken in the same
order, so that the tables differ in the numbers of their subjects only. -/
namespace ObjectRole

/-- Tables under other numbers. -/
def Tables.renumber (σ : Renumbering) (t : Tables) : Tables :=
  { t with subjects := t.subjects.mapValues σ.player }

theorem Tables.get?_renumber (σ : Renumbering) (t : Tables) (key : String) :
    (t.renumber σ).subjects.get? key = (t.subjects.get? key).map σ.player := Dict.get?_mapValues ..

theorem Tables.setProperty_renumber (σ : Renumbering) (t : Tables) (key subject : String)
    (p : Property) : (t.renumber σ).setProperty key subject p =
      ((t.setProperty key subject p).1, (t.setProperty key subject p).2.renumber σ) := by
  rw [setProperty, setProperty]
  cases p.required <;> cases p.sample <;> rfl

namespace Build

variable {α β γ : Type} {σ : Renumbering}

/-- The second does on renumbered tables what the first does on the tables themselves. -/
def Mirrors (σ : Renumbering) (x y : Build α) : Prop :=
  ∀ t : Tables, Id.run (y.run.run (t.renumber σ)) =
    ((Id.run (x.run.run t)).1, (Id.run (x.run.run t)).2.renumber σ)

theorem mirrors_pure (a : α) : Mirrors σ (pure a) (pure a) := fun _ => rfl

theorem mirrors_throw (e : CompileError) : Mirrors σ (throw e : Build α) (throw e) := fun _ => rfl

theorem mirrors_lift (x : Except CompileError α) :
    Mirrors σ (liftM x : Build α) (liftM x) := fun _ => rfl

theorem mirrors_modify {f g : Tables → Tables}
    (same : ∀ t, g (t.renumber σ) = (f t).renumber σ) : Mirrors σ (modify f) (modify g) := by
  intro t
  change ((.ok (), g (t.renumber σ)) : Except CompileError Unit × Tables) = _
  rw [same]
  rfl

theorem mirrors_get {f g : Tables → Build α} (each : ∀ t, Mirrors σ (f t) (g (t.renumber σ))) :
    Mirrors σ (get >>= f) (get >>= g) := fun t => each t t

theorem Mirrors.bind {x y : Build α} {f g : α → Build β} (first : Mirrors σ x y)
    (rest : ∀ a, Mirrors σ (f a) (g a)) : Mirrors σ (x >>= f) (y >>= g) := by
  intro t
  change Id.run ((ExceptT.bindCont g (Id.run (y.run.run (t.renumber σ))).1).run
      (Id.run (y.run.run (t.renumber σ))).2) =
    ((Id.run ((ExceptT.bindCont f (Id.run (x.run.run t)).1).run (Id.run (x.run.run t)).2)).1,
      (Id.run ((ExceptT.bindCont f (Id.run (x.run.run t)).1).run
        (Id.run (x.run.run t)).2)).2.renumber σ)
  rw [first t]
  rcases Id.run (x.run.run t) with ⟨error | a, u⟩
  · rfl
  · exact rest a u

theorem Mirrors.map {x y : Build α} (f : α → β) (same : Mirrors σ x y) :
    Mirrors σ (f <$> x) (f <$> y) := by
  rw [map_eq_pure_bind, map_eq_pure_bind]
  exact same.bind fun a => mirrors_pure (f a)

theorem mirrors_forM {f : α → Build Unit} {g : β → Build Unit} {m : α → β} {list : List α}
    (each : ∀ a ∈ list, Mirrors σ (f a) (g (m a))) :
    Mirrors σ (list.forM f) ((list.map m).forM g) := by
  induction list with
  | nil => exact mirrors_pure ()
  | cons a rest ih =>
    exact (each a (.head _)).bind fun _ => ih fun other later => each other (.tail _ later)

theorem mirrors_foldlM {f : γ → α → Build γ} {g : γ → β → Build γ} {m : α → β}
    (each : ∀ c a, Mirrors σ (f c a) (g c (m a))) (list : List α) (init : γ) :
    Mirrors σ (list.foldlM f init) ((list.map m).foldlM g init) := by
  induction list generalizing init with
  | nil => exact mirrors_pure init
  | cons a rest ih =>
    rw [List.map_cons, List.foldlM_cons, List.foldlM_cons]
    exact (each init a).bind ih

end Build

theorem Snapshot.phased_renumber (σ : Renumbering) (shapes : List (FactTypeId × Shape)) :
    phased (shapes.map fun entry => (σ.factType entry.1, σ.shape entry.2)) =
      (phased shapes).map fun entry => (σ.factType entry.1, σ.shape entry.2) := by
  have same (shape : Shape) : phase (σ.shape shape) = phase shape := by cases shape <;> rfl
  simp only [phased, List.filter_map, List.map_flatMap, Function.comp_def, same]

namespace Snapshot.Renumbered

open Build

variable {σ : Renumbering} {s other : Snapshot} (renumbered : Renumbered σ s other)
include renumbered

theorem identification (player : Player) : other.identification (σ.player player) =
    match s.identification player with
    | .value type => .value type
    | .players players => .players (players.map σ.player) := by
  have nearest : (fun p => !(other.identifyingPlayers (σ.player p)).isEmpty ||
      (other.valueTypeOf (σ.player p)).isSome) =
      fun p => !(s.identifyingPlayers p).isEmpty || (s.valueTypeOf p).isSome := by
    funext p
    rw [renumbered.identifyingPlayers, renumbered.valueTypeOf, List.isEmpty_map]
  simp only [Snapshot.identification, renumbered.lineage, List.find?_map, Function.comp_def,
    nearest]
  cases (s.lineage player).find? fun p =>
    !(s.identifyingPlayers p).isEmpty || (s.valueTypeOf p).isSome with
  | none =>
    rw [Option.map_none, renumbered.isValueNoun]
    cases s.isValueNoun player <;> rfl
  | some p =>
    simp only [Option.map_some, renumbered.valueTypeOf, renumbered.identifyingPlayers]
    cases s.valueTypeOf p <;> rfl

theorem valueSchema (player : Player) (type : ValueType) :
    other.valueSchema (σ.player player) type = s.valueSchema player type := by
  cases player with
  | noun id =>
    have facets : (other.noun (σ.noun id)).facets = (s.noun id).facets :=
      (congrArg Noun.facets (renumbered.noun id) :)
    simp only [Snapshot.valueSchema, Renumbering.player, facets]
  | factType id => rfl

theorem identifiers (subject : Player) : other.identifiers (σ.player subject) =
    (s.identifiers subject).map fun entry => (σ.player entry.1, entry.2) := by
  cases subject with
  | noun id =>
    have scheme := congrArg Noun.referenceScheme (renumbered.noun id)
    simp only [Snapshot.identifiers, Renumbering.player, scheme, List.map_map]
    rfl
  | factType id =>
    have span : (other.compoundSpan (other.factType (σ.factType id))).getD [] =
        ((s.compoundSpan (s.factType id)).getD []).map σ.role := by
      rw [renumbered.compoundSpan]
      cases s.compoundSpan (s.factType id) <;> rfl
    simp only [Snapshot.identifiers, Renumbering.player, span, renumbered.roles, List.map_map]
    refine List.map_congr_left fun role listed => ?_
    exact Prod.ext (renumbered.player id role listed) (σ.contains_map_role _ role)

theorem openTable (t : Tables) (subject : Player) :
    (t.renumber σ).openTable other (σ.player subject) =
      (t.openTable s subject).renumber σ := by
  have description : other.tableDescription (σ.player subject) = s.tableDescription subject := by
    cases subject with
    | noun id => exact (congrArg Noun.description (renumbered.noun id) :)
    | factType id =>
      exact (congrArg (fun f : FactType => f.description.or (f.primaryReading.map fun r =>
        .ofList (unbind r.text.toList))) (renumbered.factType id) :)
  have examples : other.tableExamples (σ.player subject) = s.tableExamples subject := by
    rw [tableExamples, tableExamples, renumbered.jsonExampleOf]
  have update : other.updateTier (σ.player subject) = s.updateTier subject := by
    rw [updateTier, updateTier, renumbered.keyOf, renumbered.nameOf, description, examples,
      renumbered.superTypeOf]
    cases s.superTypeOf subject with
    | none => rfl
    | some parent => simp only [Option.map_some, renumbered.keyOf]
  have parents (tier : String → String) : (other.superTypeOf (σ.player subject)).toList.map
      (fun p => Schema.component (tier (other.keyOf p))) =
        (s.superTypeOf subject).toList.map fun p => .component (tier (s.keyOf p)) := by
    rw [renumbered.superTypeOf, Option.toList_map, List.map_map]
    exact List.map_congr_left fun p _ => congrArg (Schema.component <| tier ·)
      (renumbered.keyOf p)
  have new : other.newTier (σ.player subject) = s.newTier subject := by
    simp only [newTier, renumbered.keyOf, examples, parents newKey]
  have read : other.readTier (σ.player subject) = s.readTier subject := by
    simp only [readTier, renumbered.keyOf, examples, parents fun key => key]
  rw [Tables.openTable, Tables.openTable, renumbered.keyOf, update, new, read]
  exact congrArg (fun subjects => Tables.mk _ subjects _) (Dict.mapValues_insert ..).symm

/-- A property that identifies a subject is called the same under other numbers. -/
theorem identifyingProperty (title : String) (object : Player) (required : Bool)
    (schema : Schema) : other.identifyingProperty title (σ.player object) required schema =
      s.identifyingProperty title object required schema := by
  rw [Snapshot.identifyingProperty, Snapshot.identifyingProperty, renumbered.nameOf]

/-- The tables that a subject needs and the schema of an object come out alike. -/
theorem mirrors (steps : Nat) :
    (∀ subject, Mirrors σ (s.ensureTable steps subject)
      (other.ensureTable steps (σ.player subject))) ∧
    ∀ object, Mirrors σ (s.createProperty steps object)
      (other.createProperty steps (σ.player object)) := by
  -- Each of the two calls makes the other with fewer steps, so one induction carries both.
  induction steps with
  | zero =>
    constructor
    · intro subject
      rw [ensureTable, ensureTable, renumbered.nameOf]
      exact mirrors_throw _
    · intro object
      rw [createProperty, createProperty, renumbered.nameOf]
      exact mirrors_throw _
  | succ steps ih =>
    obtain ⟨ensures, creates⟩ := ih
    constructor
    · intro subject
      rw [ensureTable, ensureTable, renumbered.nameOf, renumbered.keyOf]
      refine mirrors_get fun t => ?_
      rw [Tables.get?_renumber]
      cases t.subjects.get? (s.keyOf subject) with
      | some owner =>
        simp only [Option.map_some, renumbered.nameOf, Renumbering.player_inj]
        split
        · exact mirrors_pure _
        · exact mirrors_throw _
      | none =>
        rw [renumbered.identifiers, renumbered.superTypeOf]
        refine (mirrors_modify fun t => renumbered.openTable t subject).bind fun _ => ?_
        refine (mirrors_forM fun entry _ => ?_).bind fun _ => ?_
        · refine (creates entry.1).bind fun schema => mirrors_modify fun t => ?_
          rw [renumbered.identifyingProperty]
          dsimp only
          rw [Tables.setProperty_renumber]
          rfl
        · rw [Option.toList_map]
          refine (mirrors_forM fun parent _ => ?_).bind fun _ => mirrors_pure _
          exact (ensures parent).bind fun _ => mirrors_pure ()
    · intro object
      rw [createProperty, createProperty, renumbered.identification]
      cases s.identification object with
      | value type =>
        change Mirrors σ (pure (s.valueSchema object type))
          (pure (other.valueSchema (σ.player object) type))
        rw [renumbered.valueSchema]
        exact mirrors_pure _
      | players players =>
        have ends (inline : Schema) := (ensures object).bind fun key =>
          mirrors_pure (σ := σ) { oneOf := some [inline, .component key] : Schema }
        rcases players with _ | ⟨single, _ | ⟨second, rest⟩⟩
        · exact ends Schema.empty
        · exact (creates single).bind ends
        · refine (mirrors_foldlM (fun composite player => ?_) _ _).bind ends
          rw [renumbered.nameOf]
          exact (creates player).bind fun _ => mirrors_pure _

theorem tableOf (subject : Player) :
    Mirrors σ (s.tableOf subject) (other.tableOf (σ.player subject)) := by
  rw [Snapshot.tableOf, Snapshot.tableOf, buildSteps, buildSteps, renumbered.subjects_length]
  exact (renumbered.mirrors _).1 subject

theorem propertyOf (object : Player) :
    Mirrors σ (s.propertyOf object) (other.propertyOf (σ.player object)) := by
  rw [Snapshot.propertyOf, Snapshot.propertyOf, buildSteps, buildSteps,
    renumbered.subjects_length]
  exact (renumbered.mirrors _).2 object

/-! ## Facts -/

theorem addFunctional {id : FactTypeId} {owner value : RoleId}
    (owner_listed : owner ∈ (s.factType id).roles) (value_listed : value ∈ (s.factType id).roles) :
    Mirrors σ (s.addFunctional s.pattern id owner value)
      (other.addFunctional other.pattern (σ.factType id) (σ.role owner)
        (σ.role value)) := by
  rw [Snapshot.addFunctional, Snapshot.addFunctional]
  simp only [renumbered.player id owner owner_listed, renumbered.player id value value_listed,
    renumbered.predicateOf, renumbered.title, renumbered.nameOf, renumbered.exampleValue,
    renumbered.roleHas _ owner_listed, renumbered.roleHas _ value_listed]
  refine (renumbered.tableOf _).bind fun key => ?_
  refine (mirrors_lift _).bind fun tokens => ?_
  refine (mirrors_lift _).bind fun span => ?_
  refine (renumbered.propertyOf _).bind fun schema => mirrors_modify fun t => ?_
  rw [Tables.setProperty_renumber]

theorem addArrayValued {id : FactTypeId} {owner item : RoleId}
    (owner_listed : owner ∈ (s.factType id).roles) (item_listed : item ∈ (s.factType id).roles) :
    Mirrors σ (s.addArrayValued s.pattern id owner item)
      (other.addArrayValued other.pattern (σ.factType id) (σ.role owner)
        (σ.role item)) := by
  rw [Snapshot.addArrayValued, Snapshot.addArrayValued]
  simp only [renumbered.player id owner owner_listed, renumbered.player id item item_listed,
    renumbered.predicateOf, renumbered.title, renumbered.nameOf, renumbered.pluralOf]
  refine (mirrors_lift _).bind fun tokens => ?_
  refine (mirrors_lift _).bind fun span => ?_
  refine (renumbered.tableOf _).bind fun key => ?_
  exact (renumbered.propertyOf _).bind fun items => mirrors_modify fun t => rfl

theorem addUnary {id : FactTypeId} {role : RoleId} (listed : role ∈ (s.factType id).roles) :
    Mirrors σ (s.addUnary s.pattern id role)
      (other.addUnary other.pattern (σ.factType id) (σ.role role)) := by
  rw [Snapshot.addUnary, Snapshot.addUnary]
  simp only [renumbered.player id role listed, renumbered.predicateOf, renumbered.title,
    renumbered.nameOf, renumbered.exampleValue, renumbered.roleHas _ listed]
  refine (mirrors_lift _).bind fun tokens => ?_
  refine (mirrors_lift _).bind fun span => ?_
  split
  · exact fun _ => rfl
  · refine (renumbered.tableOf _).bind fun key => mirrors_modify fun t => ?_
    rw [Tables.setProperty_renumber]

theorem addIndependent (id : FactTypeId) :
    Mirrors σ (s.addIndependent id) (other.addIndependent (σ.factType id)) := by
  rw [Snapshot.addIndependent, Snapshot.addIndependent, renumbered.players]
  refine mirrors_forM fun player _ => ?_
  rw [renumbered.isValueNoun]
  split
  · exact mirrors_pure ()
  · exact (renumbered.tableOf player).map _

/-- A fact type adds the same to renumbered tables. -/
theorem addFact {id : FactTypeId} {shape : Shape} (shaped : s.shapeOf id = .ok shape) :
    Mirrors σ (s.addFact s.pattern id shape)
      (other.addFact other.pattern (σ.factType id) (σ.shape shape)) := by
  have within := within_of_shapeOf shaped
  cases shape with
  | unary role => exact renumbered.addUnary within
  | functional owner value => exact renumbered.addFunctional within.1 within.2
  | arrayValued owner item => exact renumbered.addArrayValued within.1 within.2
  | association span => exact (renumbered.tableOf (.factType id)).map _
  | independent => exact renumbered.addIndependent id

theorem addFacts {shapes : List (FactTypeId × Shape)}
    (shaped : ∀ entry ∈ shapes, s.shapeOf entry.1 = .ok entry.2) :
    Mirrors σ (s.addFacts shapes)
      (other.addFacts (shapes.map fun entry => (σ.factType entry.1, σ.shape entry.2))) := by
  rw [Snapshot.addFacts, Snapshot.addFacts, phased_renumber]
  exact mirrors_forM fun entry listed =>
    renumbered.addFact (shaped entry (mem_phased.mp listed))

end Snapshot.Renumbered
end ObjectRole
