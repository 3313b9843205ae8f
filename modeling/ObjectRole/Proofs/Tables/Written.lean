import ObjectRole.Proofs.Model.Readings
import ObjectRole.Proofs.Schema.Names
import ObjectRole.Proofs.Tables.Finished

/-! Properties that a model demands stand on the tables that are built, and are required there. A
property that was put on a table is never taken off again, and neither is the demand for it, as long
as no later table has a key that is a tier key of the table. -/
namespace ObjectRole

open Schema

/-- A condition on schemas that no change to a table takes away. -/
structure Schema.Lasting (P : Schema → Prop) : Prop where
  withProperty : ∀ {s}, P s → ∀ name property, P (s.withProperty name property)
  require : ∀ {s}, P s → ∀ name, P (s.require name)
  withSample : ∀ {s}, P s → ∀ name sample, P (Tables.withSample s name sample)

namespace Schema

theorem lasting_propertyNames (name : String) : Lasting (name ∈ ·.propertyNames) where
  withProperty listed _ _ := mem_propertyNames_withProperty.mpr (.inr listed)
  require listed _ := listed
  withSample {s} listed other sample := (withSample_names s other sample).1 ▸ listed

theorem lasting_requiredNames (name : String) : Lasting (name ∈ ·.requiredNames) where
  withProperty listed _ _ := listed
  require listed _ := mem_requiredNames_require.mpr (.inl listed)
  withSample {s} listed other sample := (withSample_names s other sample).2 ▸ listed

end Schema

namespace Tables

variable {s : Snapshot} {t u : Tables} {key tier title name : String} {P : Schema → Prop}

/-- A single change takes nothing away from the tiers of open tables. -/
theorem Step.retains (step : Step s t u) (lasting : Lasting P)
    (apart : Apart (u.subjects.contains ·)) (taken : t.subjects.contains key)
    (is_tier : IsTierOf key tier) (there : t.schemas.Says P tier) : u.schemas.Says P tier := by
  cases step with
  | @opens subject free =>
    obtain ⟨schema, found, holds⟩ := there
    have off_tier := not_isTierOf_opened free apart taken is_tier
    exact ⟨schema, (get?_schemas_openTable_of_not_tier off_tier).trans found, holds⟩
  | holds => exact says_change (fun _ holds => lasting.withProperty holds _ _) _ there
  | requires => exact says_change (fun _ holds => lasting.require holds _) _ there
  | samples => exact says_change (fun _ holds => lasting.withSample holds _ _) _ there
  | identifies => exact there

theorem Reaches.retains (reaches : Reaches s t u) (lasting : Lasting P)
    (apart : Apart (u.subjects.contains ·)) (taken : t.subjects.contains key)
    (is_tier : IsTierOf key tier) (there : t.schemas.Says P tier) : u.schemas.Says P tier := by
  induction reaches using Relation.ReflTransGen.head_induction_on with
  | refl => exact there
  | head step later ih =>
    have before := apart.mono fun key taken => Reaches.contains later taken
    exact ih (Reaches.contains (.single step) taken)
      (step.retains lasting before taken is_tier there)

/-- The update tier of a key has the property, and it is required where properties of its name
are. -/
structure Demanded (schemas : SchemaMap) (key name : String) : Prop where
  property : schemas.Says (name ∈ ·.propertyNames) (updateKey key)
  required : schemas.Says (name ∈ ·.requiredNames) (requiringKey key name)

theorem subjects_setProperty (t : Tables) (key title : String) (p : Property) :
    (t.setProperty key title p).2.subjects = t.subjects := by
  unfold setProperty
  dsimp only
  split <;> split <;> rfl

theorem demanded_setProperty {p : Property} (required : p.required = true) :
    Demanded (t.setProperty key title p).2.schemas key (Naming.stripSubject p.name title) := by
  refine ⟨says_setProperty t key title p, ?_⟩
  unfold setProperty
  dsimp only
  rw [if_pos required]
  generalize Naming.stripSubject p.name title = name
  generalize t.change (updateKey key) (·.withProperty name
    (p.schema.describedAs p.description)) = v
  have demanded : (v.change (requiringKey key name) (·.require name)).schemas.Says
      (name ∈ ·.requiredNames) (requiringKey key name) :=
    says_change_self fun _ => mem_requiredNames_require.mpr (.inr rfl)
  split
  · exact says_change (fun _ listed => (lasting_requiredNames name).withSample listed _ _) _
      demanded
  · exact demanded

/-- A required property that was put on a table is demanded to the end. -/
theorem Puts.demanded {p : Property} (puts : Puts s key title p t u)
    (apart : Apart (u.subjects.contains ·)) (required : p.required = true) :
    Demanded u.schemas key (Naming.stripSubject p.name title) := by
  obtain ⟨v, _, taken, later⟩ := puts
  have demanded : Demanded (v.setProperty key title p).2.schemas key
    (Naming.stripSubject p.name title) := demanded_setProperty required
  rw [← subjects_setProperty v key title p] at taken
  exact ⟨later.retains (lasting_propertyNames _) apart taken (.inl rfl) demanded.property,
    later.retains (lasting_requiredNames _) apart taken (isTierOf_requiringKey key _)
      demanded.required⟩

end Tables

namespace Snapshot

open Tables Build

variable {s : Snapshot} {b : BuiltTables} {subject : Player} {key name : String} {r : Resource}

/-- A name under which a subject has to have a property: that of an identifier, which for a fact
type has to be part of its span, or that of a fact with a mandatory role. -/
inductive Demands (s : Snapshot) : Player → String → Prop
  | scheme {id member : NounId} (listed : member ∈ (s.noun id).referenceScheme) :
      Demands s (.noun id) (Naming.stripSubject
        (Naming.propertyName (s.nameOf (.noun member))) (s.nameOf (.noun id)))
  | span {id : FactTypeId} {role : RoleId} (listed : role ∈ (s.factType id).roles)
      (unique : role ∈ (s.compoundSpan (s.factType id)).getD []) :
      Demands s (.factType id) (Naming.stripSubject
        (Naming.propertyName (s.nameOf (s.playerOf role))) (s.nameOf (.factType id)))
  | functional {f : FactType} {owner value : RoleId} {name : String} (listed : f ∈ s.factTypes)
      (shaped : s.shapeOf f.id = .ok (.functional owner value))
      (mandatory : s.roleHas .mandatory owner ∨ s.roleHas .mandatory value)
      (named : s.functionalName s.pattern f.id owner value = .ok name) :
      Demands s (s.playerOf owner) name
  | unary {f : FactType} {role : RoleId} {name : String} (listed : f ∈ s.factTypes)
      (shaped : s.shapeOf f.id = .ok (.unary role)) (mandatory : s.roleHas .mandatory role)
      (named : s.unaryName s.pattern f.id role = .ok name) : Demands s (s.playerOf role) name

theorem mem_placeFactType {id other : FactTypeId} {list : List FactTypeId} :
    other ∈ s.placeFactType id list ↔ other = id ∨ other ∈ list := by
  induction list with
  | nil => simp [placeFactType]
  | cons first rest ih =>
    rw [placeFactType]
    split
    · rw [List.mem_cons]
    · rw [List.mem_cons, ih, List.mem_cons]
      exact or_left_comm

theorem mem_orderedFactTypes {id : FactTypeId} :
    id ∈ s.orderedFactTypes ↔ id ∈ s.factTypes.map (·.id) := by
  unfold orderedFactTypes
  induction s.factTypes.map (·.id) with
  | nil => rfl
  | cons first rest ih => rw [List.foldr_cons, mem_placeFactType, ih, List.mem_cons]

/-- Fact types are listed with their shapes. -/
theorem shapes_of_mapM {shapes : List (FactTypeId × Shape)}
    (shaped : s.orderedFactTypes.mapM (fun id => (id, ·) <$> s.shapeOf id) = .ok shapes) :
    shapes.map (·.1) = s.orderedFactTypes ∧
      ∀ {id shape}, (id, shape) ∈ shapes → s.shapeOf id = .ok shape := by
  have pairs := mapM_eq_ok_iff.mp shaped
  constructor
  · have ids := map_eq_map_of_forall₂ (f := id) (g := Prod.fst) pairs fun found => by
      obtain ⟨_, _, rfl⟩ := map_eq_ok_iff.mp found
      rfl
    rw [← ids, List.map_id]
  · intro id shape listed
    obtain ⟨_, _, found⟩ := exists_of_forall₂ pairs.flip listed
    obtain ⟨_, found, same⟩ := map_eq_ok_iff.mp found
    cases same
    exact found

theorem Adds.extend {t u v w : Tables} {required : Bool}
    (adds : Adds s subject name required u v) (earlier : Grows s t u) (later : Grows s v w) :
    Adds s subject name required t w := by
  obtain ⟨p, named, same, puts⟩ := adds.puts
  exact ⟨(earlier.trans adds.grows).trans later, later.reaches.keeps adds.open_at,
    p, named, same, puts.extend earlier.reaches later.reaches⟩

/-- A run over all fact types comes to each of them. -/
theorem exists_addFact {shapes : List (FactTypeId × Shape)} {id : FactTypeId} {shape : Shape}
    {t u : Tables} {a : Unit} (ran : Yields (s.addFacts shapes) t a u)
    (listed : (id, shape) ∈ shapes) : ∃ v w c,
      Grows s t v ∧ Yields (s.addFact s.pattern id shape) v c w ∧ Grows s w u := by
  obtain ⟨before, after, v, w, c, _, earlier, own, later⟩ :=
    exists_of_yields_forM (mem_phased.mpr listed) ran
  have grows : ∀ list : List (FactTypeId × Shape), ∀ {t u a}, Yields (list.forM fun entry =>
      s.addFact s.pattern entry.1 entry.2) t a u → Grows s t u := fun _ _ _ _ ran =>
    yields_forM (Grows s _) (fun _ _ _ _ _ grows ran => grows.trans (addFact_grows ran))
      (Grows.refl s _) ran
  exact ⟨v, w, c, grows before earlier, own, grows after later⟩

section Built

variable (built : s.buildTables = .ok b)
include built

/-- Every fact type that has a shape is added on the way to the tables. -/
theorem exists_addFact_of_buildTables {f : FactType} {shape : Shape} (listed : f ∈ s.factTypes)
    (shaped : s.shapeOf f.id = .ok shape) : ∃ u v t c, Grows s {} u ∧
      Yields (s.addFact s.pattern f.id shape) u c v ∧ Grows s v t ∧ Closes s t b := by
  obtain ⟨shapes, t, shapes_eq, ran, finished⟩ := exists_run_of_buildTables built
  have ordered : f.id ∈ s.orderedFactTypes :=
    mem_orderedFactTypes.mpr (List.mem_map_of_mem listed)
  obtain ⟨entry, inside, same⟩ := exists_of_mapM_eq_ok shapes_eq ordered
  rw [shaped] at same
  cases same
  obtain ⟨u, v, c, earlier, own, later⟩ := exists_addFact ran inside
  exact ⟨u, v, t, c, earlier, own, later, closes_of_finishTables finished⟩

/-- A functional fact type has a name, and the property of that name is put on its owner's table. -/
theorem exists_adds_functional {f : FactType} {owner value : RoleId} (listed : f ∈ s.factTypes)
    (shaped : s.shapeOf f.id = .ok (.functional owner value)) : ∃ name t,
      s.functionalName s.pattern f.id owner value = .ok name ∧ Adds s (s.playerOf owner) name
        (s.roleHas .mandatory owner || s.roleHas .mandatory value) {} t ∧ Closes s t b := by
  obtain ⟨u, v, t, c, earlier, own, later, closes⟩ :=
    exists_addFact_of_buildTables built listed shaped
  obtain ⟨name, named, adds⟩ := addFunctional_adds own
  exact ⟨name, t, named, adds.extend earlier later, closes⟩

theorem exists_adds_unary {f : FactType} {role : RoleId} (listed : f ∈ s.factTypes)
    (shaped : s.shapeOf f.id = .ok (.unary role)) : ∃ name t,
      s.unaryName s.pattern f.id role = .ok name ∧
        Adds s (s.playerOf role) name (s.roleHas .mandatory role) {} t ∧ Closes s t b := by
  obtain ⟨u, v, t, c, earlier, own, later, closes⟩ :=
    exists_addFact_of_buildTables built listed shaped
  obtain ⟨name, named, adds⟩ := addUnary_adds own
  exact ⟨name, t, named, adds.extend earlier later, closes⟩

omit built in
theorem Adds.demanded {t : Tables} (adds : Adds s subject name true {} t)
    (closes : Closes s t b) : Demanded b.schemas (s.keyOf subject) name := by
  obtain ⟨p, rfl, required, puts⟩ := adds.puts
  rw [closes.schemas]
  exact puts.demanded closes.apart required

/-- Identifiers that a subject requires are demanded of its table. -/
theorem demanded_identifier {object : Player} (listed : (object, true) ∈ s.identifiers subject)
    (taken : b.resources.get? key = some r) (same : r.subject = subject) :
    Demanded b.schemas key (Naming.stripSubject (Naming.propertyName (s.nameOf object))
      (s.nameOf subject)) := by
  obtain ⟨_, t, _, ran, finished⟩ := exists_run_of_buildTables built
  have closes := closes_of_finishTables finished
  have taken := closes.subject_taken taken
  rw [same] at taken
  rcases (addFacts_grows ran).settled taken with earlier | settled
  · cases earlier
  · obtain ⟨schema, puts⟩ := settled.identifiers object true listed
    rw [closes.schemas]
    exact puts.demanded closes.apart rfl

/-- What a model demands of a subject stands on its table. -/
theorem demanded_of_demands (demands : s.Demands subject name)
    (taken : b.resources.get? key = some r) (same : r.subject = subject) :
    Demanded b.schemas key name := by
  have key_eq : s.keyOf subject = key := same ▸ (finished_of_buildTables built).keyed taken
  cases demands with
  | scheme listed =>
    exact demanded_identifier built (List.mem_map_of_mem listed) taken same
  | @span id role listed unique =>
    refine demanded_identifier built ?_ taken same
    refine List.mem_map.mpr ⟨role, listed, ?_⟩
    rw [List.contains_iff_mem.mpr unique]
  | functional listed shaped mandatory named =>
    obtain ⟨name, t, also_named, adds, closes⟩ := exists_adds_functional built listed shaped
    cases named.symm.trans also_named
    rw [Bool.or_eq_true .. |>.mpr mandatory] at adds
    exact key_eq ▸ adds.demanded closes
  | unary listed shaped mandatory named =>
    obtain ⟨name, t, also_named, adds, closes⟩ := exists_adds_unary built listed shaped
    cases named.symm.trans also_named
    rw [mandatory] at adds
    exact key_eq ▸ adds.demanded closes

end Built
end Snapshot
end ObjectRole
