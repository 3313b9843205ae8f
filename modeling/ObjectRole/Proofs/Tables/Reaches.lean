import ObjectRole.Proofs.Tables.Facts
import Mathlib.Logic.Relation

/-! Building tables as a run of single changes. A table is opened under a free key, all later
changes are made under keys that are taken, and the properties that are put on tables are coherent
and refer to open tables only. Only properties that a table has are required. A subject is open only
together with its supertype, and its identifiers were put on its table. -/
namespace ObjectRole

theorem Schema.withSample_names (s : Schema) (name : String) (sample : Json) :
    (Tables.withSample s name sample).propertyNames = s.propertyNames ∧
      (Tables.withSample s name sample).requiredNames = s.requiredNames := by
  unfold Tables.withSample
  split <;> exact ⟨rfl, rfl⟩

namespace Tables

variable {s : Snapshot} {t u v : Tables} {key : String} {subject player : Player}

/-- A single change while tables are built. -/
inductive Step (s : Snapshot) : Tables → Tables → Prop
  | opens {t : Tables} {subject : Player} (free : t.subjects.get? (s.keyOf subject) = none) :
      Step s t (t.openTable s subject)
  | holds {t : Tables} {key name : String} {property : Schema} (taken : t.subjects.contains key)
      (known : ∀ target ∈ property.targets, t.subjects.contains target)
      (coherent : property.Coherent) (identifying : property.Identifying) :
      Step s t (t.change (updateKey key) (·.withProperty name property))
  | requires {t : Tables} {key name : String} (taken : t.subjects.contains key)
      (there : t.schemas.Says (name ∈ ·.propertyNames) (updateKey key)) :
      Step s t (t.change (requiringKey key name) (·.require name))
  | samples {t : Tables} {key name : String} {sample : Json} (taken : t.subjects.contains key) :
      Step s t (t.change (updateKey key) (withSample · name sample))
  | identifies {t : Tables} {key name : String} (taken : t.subjects.contains key)
      (there : t.schemas.Says (name ∈ ·.propertyNames) (updateKey key)) :
      Step s t (t.identify key name)

theorem get?_subjects_openTable (t : Tables) (subject : Player) (key : String) :
    (t.openTable s subject).subjects.get? key =
      if key = s.keyOf subject then some subject else t.subjects.get? key :=
  Dict.get?_insert ..

theorem get?_change (t : Tables) (key other : String) (f : Schema → Schema) :
    (t.change key f).schemas.get? other =
      if other = key then some (f ((t.schemas.get? key).getD .empty)) else t.schemas.get? other :=
  Dict.get?_insert ..

theorem says_change_self {P : Schema → Prop} {f : Schema → Schema}
    (holds : ∀ schema, P (f schema)) : (t.change key f).schemas.Says P key :=
  ⟨_, by rw [get?_change, if_pos rfl], holds _⟩

theorem says_change {P : Schema → Prop} {f : Schema → Schema} {tier : String}
    (keeps : ∀ s, P s → P (f s)) (other : String) (there : t.schemas.Says P tier) :
    (t.change other f).schemas.Says P tier := by
  obtain ⟨schema, found, holds⟩ := there
  by_cases here : tier = other
  · refine ⟨f schema, ?_, keeps schema holds⟩
    rw [get?_change, if_pos here, ← here, found, Option.getD_some]
  · refine ⟨schema, ?_, holds⟩
    rw [get?_change, if_neg here, found]

/-- A property that was put on a table is there. -/
theorem says_setProperty (t : Tables) (key title : String) (p : Property) :
    (t.setProperty key title p).2.schemas.Says
      ((t.setProperty key title p).1 ∈ ·.propertyNames) (updateKey key) := by
  unfold setProperty
  dsimp only
  generalize Naming.stripSubject p.name title = name
  have held : (t.change (updateKey key) (·.withProperty name
      (p.schema.describedAs p.description))).schemas.Says (name ∈ ·.propertyNames)
      (updateKey key) :=
    says_change_self fun _ => Schema.mem_propertyNames_withProperty.mpr (.inl rfl)
  generalize t.change (updateKey key)
    (·.withProperty name (p.schema.describedAs p.description)) = v at held ⊢
  have kept : (if p.required then v.change (requiringKey key name) (·.require name)
      else v).schemas.Says (name ∈ ·.propertyNames) (updateKey key) := by
    split
    · exact says_change (f := (·.require name)) (fun _ listed => listed) _ held
    · exact held
  split
  · refine says_change (fun schema listed => ?_) _ kept
    rwa [(Schema.withSample_names schema _ _).1]
  · exact kept

abbrev Reaches (s : Snapshot) : Tables → Tables → Prop := Relation.ReflTransGen (Step s)

/-- Keys stay with the subjects that took them. -/
theorem Step.keeps (step : Step s t u) (taken : t.subjects.get? key = some player) :
    u.subjects.get? key = some player := by
  cases step with
  | @opens subject free =>
    rw [get?_subjects_openTable, if_neg, taken]
    rintro rfl
    rw [taken] at free
    contradiction
  | holds | requires | samples | identifies => exact taken

theorem Reaches.keeps (reaches : Reaches s t u) (taken : t.subjects.get? key = some player) :
    u.subjects.get? key = some player := by
  induction reaches with
  | refl => exact taken
  | tail _ step ih => exact step.keeps ih

theorem Reaches.contains (reaches : Reaches s t u) (taken : t.subjects.contains key) :
    u.subjects.contains key := by
  obtain ⟨player, taken⟩ := Dict.contains_iff.mp taken
  exact Dict.contains_iff.mpr ⟨player, reaches.keeps taken⟩

/-- On the way from tables to later ones, a property is put on the table of a key. -/
def Puts (s : Snapshot) (key title : String) (p : Property) (t u : Tables) : Prop :=
  ∃ v, Reaches s t v ∧ v.subjects.contains key ∧ Reaches s (v.setProperty key title p).2 u

theorem Puts.extend {title : String} {p : Property} {before after : Tables}
    (puts : Puts s key title p t u) (earlier : Reaches s before t) (later : Reaches s u after) :
    Puts s key title p before after := by
  obtain ⟨v, reached, taken, rest⟩ := puts
  exact ⟨v, earlier.trans reached, taken, rest.trans later⟩

/-- Each of the identifiers is put on the table of its subject. -/
def PutsAll (s : Snapshot) (key : String) (subject : Player) (list : List (Player × Bool))
    (t u : Tables) : Prop :=
  ∀ object required, (object, required) ∈ list → ∃ schema, Puts s key (s.nameOf subject)
    (s.identifyingProperty (s.nameOf subject) object required schema) t u

theorem PutsAll.extend {list : List (Player × Bool)} {before after : Tables}
    (puts : PutsAll s key subject list t u) (earlier : Reaches s before t)
    (later : Reaches s u after) : PutsAll s key subject list before after := by
  intro object required listed
  obtain ⟨schema, put⟩ := puts object required listed
  exact ⟨schema, put.extend earlier later⟩

/-- What a subject has whose table was opened on the way. -/
structure Settled (s : Snapshot) (key : String) (subject : Player) (t u : Tables) : Prop where
  supertype : ∀ parent, s.superTypeOf subject = some parent →
    u.subjects.get? (s.keyOf parent) = some parent
  identifiers : PutsAll s key subject (s.identifiers subject) t u

/-- A run on which every subject that was opened is settled at the end. -/
structure Grows (s : Snapshot) (t u : Tables) : Prop where
  reaches : Reaches s t u
  settled : ∀ {key player}, u.subjects.get? key = some player →
    t.subjects.get? key = some player ∨ Settled s key player t u

theorem Grows.refl (s : Snapshot) (t : Tables) : Grows s t t := ⟨.refl, .inl⟩

theorem Grows.trans (first : Grows s t u) (second : Grows s u v) : Grows s t v := by
  refine ⟨first.reaches.trans second.reaches, ?_⟩
  intro key player taken
  rcases second.settled taken with earlier | ⟨supertype, identifiers⟩
  · refine (first.settled earlier).imp_right ?_
    rintro ⟨supertype, identifiers⟩
    exact ⟨fun parent above => second.reaches.keeps (supertype parent above),
      identifiers.extend .refl second.reaches⟩
  · exact .inr ⟨supertype, identifiers.extend first.reaches .refl⟩

/-- A change that opens no table. -/
theorem Grows.step (step : Step s t u) (same : u.subjects = t.subjects) : Grows s t u :=
  ⟨.single step, fun taken => .inl (same ▸ taken)⟩

theorem Grows.setProperty {title : String} {p : Property} (taken : t.subjects.contains key)
    (known : ∀ target ∈ p.schema.targets, t.subjects.contains target)
    (coherent : p.schema.Coherent) (unpacks : p.schema.Unpacks) :
    Grows s t (t.setProperty key title p).2 := by
  unfold Tables.setProperty
  dsimp only
  generalize Naming.stripSubject p.name title = name
  have held : Grows s t
      (t.change (updateKey key) (·.withProperty name (p.schema.describedAs p.description))) :=
    .step (.holds taken (fun target member =>
      known target (Schema.mem_targets_describedAs.mp member)) (coherent.describedAs _)
      (unpacks.identifying _)) rfl
  have there : (t.change (updateKey key) (·.withProperty name
      (p.schema.describedAs p.description))).schemas.Says (name ∈ ·.propertyNames)
      (updateKey key) :=
    says_change_self fun _ => Schema.mem_propertyNames_withProperty.mpr (.inl rfl)
  generalize t.change (updateKey key)
    (·.withProperty name (p.schema.describedAs p.description)) = v at held there ⊢
  have required : Grows s v
      (if p.required then v.change (requiringKey key name) (·.require name) else v) := by
    split
    · exact .step (.requires (held.reaches.contains taken) there) rfl
    · exact .refl s v
  have both := held.trans required
  generalize (if p.required then v.change (requiringKey key name) (·.require name) else v) = w
    at both ⊢
  split
  · exact both.trans (.step (.samples (both.reaches.contains taken)) rfl)
  · exact both

/-- The schema refers to open tables only. -/
def Knows (t : Tables) (schema : Schema) : Prop :=
  ∀ target ∈ schema.targets, t.subjects.contains target

theorem Grows.knows (grows : Grows s t u) {schema : Schema} (knows : t.Knows schema) :
    u.Knows schema := fun target member => grows.reaches.contains (knows target member)

end Tables

namespace Snapshot

open Build Tables

variable {s : Snapshot} {t u v : Tables} {key : String} {subject object : Player} {steps : Nat}

theorem targets_valueSchema (player : Player) (type : ValueType) :
    (s.valueSchema player type).targets = [] := by
  cases player with
  | factType => rfl
  | noun =>
    apply List.eq_nil_iff_forall_not_mem.mpr
    intro key member
    rw [Schema.mem_targets] at member
    simp [valueSchema, Schema.fields, Schema.parents, Keywords.target?] at member

/-- What a call leaves that opens a table. -/
structure Opened (s : Snapshot) (t : Tables) (subject : Player) (key : String) (u : Tables) :
    Prop where
  key_eq : key = s.keyOf subject
  open_at : u.subjects.get? key = some subject
  grows : Grows s t u

/-- What a call leaves that makes the schema of a property. -/
structure Created (s : Snapshot) (t : Tables) (schema : Schema) (u : Tables) : Prop where
  grows : Grows s t u
  knows : u.Knows schema

section Calls

variable (opens : ∀ {subject t key u}, Yields (s.ensureTable steps subject) t key u →
    Opened s t subject key u)
  (creates : ∀ {object t schema u}, Yields (s.createProperty steps object) t schema u →
    Created s t schema u)

include creates in
/-- Putting identifiers on the table of their subject. -/
theorem Identifies.grows {list : List (Player × Bool)}
    (identifies : Identifies s steps subject list t u)
    (taken : t.subjects.contains (s.keyOf subject)) :
    Grows s t u ∧ PutsAll s (s.keyOf subject) subject list t u := by
  induction identifies with
  | done => exact ⟨.refl s _, fun _ _ listed => by contradiction⟩
  | @next t v u object required rest schema made _ ih =>
    have created := creates made
    have taken := created.grows.reaches.contains taken
    have set : Grows s v (v.setProperty (s.keyOf subject) (s.nameOf subject)
        (s.identifyingProperty (s.nameOf subject) object required schema)).2 :=
      .setProperty taken created.knows (createProperty_schema made ▸ coherent_schemaOf s _ _)
        (createProperty_schema made ▸ (unpacks_schemaOf s _ _).2)
    have identified : Step s (v.setProperty (s.keyOf subject) (s.nameOf subject)
        (s.identifyingProperty (s.nameOf subject) object required schema)).2
        (v.identifyBy s subject object required schema) :=
      .identifies (set.reaches.contains taken) (says_setProperty ..)
    have put : Grows s v (v.identifyBy s subject object required schema) :=
      set.trans (.step identified rfl)
    obtain ⟨later, puts⟩ := ih (put.reaches.contains taken)
    refine ⟨(created.grows.trans put).trans later, ?_⟩
    intro other other_required listed
    rcases List.mem_cons.mp listed with same | behind
    · cases same
      exact ⟨schema, v, created.grows.reaches, taken, .head identified later.reaches⟩
    · exact puts.extend (created.grows.reaches.trans put.reaches) .refl other other_required behind

include opens creates in
theorem ensureTable_step (ran : Yields (s.ensureTable (steps + 1) subject) t key u) :
    Opened s t subject key u := by
  obtain ⟨rfl, ⟨taken, rfl⟩ | ⟨free, v, identifies, extended⟩⟩ := ensureTable_cases ran
  · exact ⟨rfl, taken, .refl s _⟩
  have fresh : (t.openTable s subject).subjects.get? (s.keyOf subject) = some subject := by
    rw [get?_subjects_openTable, if_pos rfl]
  obtain ⟨own, puts⟩ := identifies.grows creates (Dict.contains_iff.mpr ⟨subject, fresh⟩)
  have above : Grows s v u ∧ ∀ parent, s.superTypeOf subject = some parent →
      u.subjects.get? (s.keyOf parent) = some parent := by
    rcases extended with ⟨none, rfl⟩ | ⟨parent, key, edge, opened⟩
    · refine ⟨.refl s _, fun parent edge => ?_⟩
      rw [none] at edge
      contradiction
    · have opened := opens opened
      refine ⟨opened.grows, fun other same => ?_⟩
      cases edge.symm.trans same
      exact opened.key_eq ▸ opened.open_at
  have both := own.trans above.1
  have opening : Step s t (t.openTable s subject) := .opens free
  refine ⟨rfl, both.reaches.keeps fresh, .head opening both.reaches, ?_⟩
  intro other player taken
  rcases both.settled taken with earlier | ⟨supertype, identifiers⟩
  · rw [get?_subjects_openTable] at earlier
    split at earlier
    · rename_i same
      cases earlier
      exact .inr ⟨above.2, same ▸ puts.extend (.single opening) above.1.reaches⟩
    · exact .inl earlier
  · exact .inr ⟨supertype, identifiers.extend (.single opening) .refl⟩

include creates in
/-- An inline identifier. -/
theorem Inlines.created {players : List Player} {inline : Schema}
    (inlines : Inlines s steps players t inline u) : Created s t inline u := by
  unfold Inlines at inlines
  split at inlines
  · obtain ⟨rfl, rfl⟩ := inlines
    exact ⟨.refl s _, fun _ member => by contradiction⟩
  · exact creates inlines
  · apply yields_foldlM (fun composite v => Created s t composite v) ?_
      ⟨.refl s t, fun _ member => by contradiction⟩ inlines
    intro player _ composite v next w kept ran
    obtain ⟨member, x, made, ran⟩ := yields_bind.mp ran
    obtain ⟨rfl, rfl⟩ := yields_pure.mp ran
    have made := creates made
    refine ⟨kept.grows.trans made.grows, ?_⟩
    intro target inside
    rcases Schema.mem_targets_withProperty (Schema.mem_targets_require.mp inside) with old | new
    · exact made.grows.knows kept.knows target old
    · exact made.knows target new

include opens creates in
theorem createProperty_step {schema : Schema}
    (ran : Yields (s.createProperty (steps + 1) object) t schema u) : Created s t schema u := by
  rcases createProperty_cases ran with ⟨type, _, rfl, rfl⟩ |
    ⟨players, inline, v, _, inlines, opened, rfl⟩
  · refine ⟨.refl s _, ?_⟩
    intro target member
    rw [targets_valueSchema] at member
    contradiction
  · have created := inlines.created creates
    have opened := opens opened
    refine ⟨created.grows.trans opened.grows, ?_⟩
    intro target member
    obtain ⟨option, listed, inside⟩ := Schema.mem_targets_oneOf.mp member
    rcases List.mem_pair.mp listed with rfl | rfl
    · exact opened.grows.knows created.knows target inside
    · rw [Schema.targets_component, List.mem_singleton] at inside
      exact inside ▸ Dict.contains_iff.mpr ⟨object, opened.open_at⟩

end Calls

theorem calls_grow (s : Snapshot) (steps : Nat) :
    (∀ {subject t key u}, Yields (s.ensureTable steps subject) t key u →
      Opened s t subject key u) ∧
    (∀ {object t schema u}, Yields (s.createProperty steps object) t schema u →
      Created s t schema u) := by
  induction steps with
  | zero => exact ⟨fun ran => absurd ran not_yields_ensureTable_zero,
      fun ran => absurd ran not_yields_createProperty_zero⟩
  | succ steps ih => exact ⟨ensureTable_step ih.1 ih.2, createProperty_step ih.1 ih.2⟩

theorem tableOf_grows (ran : Yields (s.tableOf subject) t key u) : Opened s t subject key u :=
  (calls_grow s _).1 ran

theorem propertyOf_grows {schema : Schema} (ran : Yields (s.propertyOf object) t schema u) :
    Created s t schema u := (calls_grow s _).2 ran

/-- The name under which a functional fact type is a property of its owner. -/
def functionalName (s : Snapshot) (pattern : NounPattern) (id : FactTypeId) (owner value : RoleId) :
    Except CompileError String := do
  let subject := s.nameOf (s.playerOf owner)
  let tokens ← s.predicateOf pattern id
  let span ← tokens.objectSpan (s.factType id).title subject (s.nameOf (s.playerOf value)) none
  return Naming.stripSubject (Naming.propertyNameOf span.capitalized.words) subject

/-- The name under which a unary fact type is a property of its player. -/
def unaryName (s : Snapshot) (pattern : NounPattern) (id : FactTypeId) (role : RoleId) :
    Except CompileError String := do
  let subject := s.nameOf (s.playerOf role)
  let tokens ← s.predicateOf pattern id
  let span ← tokens.restSpan (s.factType id).title subject
  return Naming.stripSubject (Naming.propertyNameOf span.words) subject

/-- A fact type puts a property of the name on the table of the subject, which is open then. -/
structure Adds (s : Snapshot) (subject : Player) (name : String) (required : Bool)
    (t u : Tables) : Prop where
  grows : Grows s t u
  open_at : u.subjects.get? (s.keyOf subject) = some subject
  puts : ∃ p, Naming.stripSubject p.name (s.nameOf subject) = name ∧ p.required = required ∧
    Puts s (s.keyOf subject) (s.nameOf subject) p t u

theorem Adds.of_setProperty {p : Property} {required : Bool} (grows : Grows s t u)
    (open_at : u.subjects.get? (s.keyOf subject) = some subject) (same : p.required = required)
    (known : ∀ target ∈ p.schema.targets, u.subjects.contains target)
    (coherent : p.schema.Coherent) (unpacks : p.schema.Unpacks) :
    Adds s subject (Naming.stripSubject p.name (s.nameOf subject)) required t
      (u.setProperty (s.keyOf subject) (s.nameOf subject) p).2 := by
  have taken : u.subjects.contains (s.keyOf subject) := Dict.contains_iff.mpr ⟨subject, open_at⟩
  have set : Grows s u (u.setProperty (s.keyOf subject) (s.nameOf subject) p).2 :=
    .setProperty taken known coherent unpacks
  exact ⟨grows.trans set, set.reaches.keeps open_at, p, rfl, same, u, grows.reaches, taken, .refl⟩

theorem addFunctional_adds {pattern : NounPattern} {id : FactTypeId} {owner value : RoleId}
    {a : Unit} (ran : Yields (s.addFunctional pattern id owner value) t a u) : ∃ name,
      s.functionalName pattern id owner value = .ok name ∧ Adds s (s.playerOf owner) name
        (s.roleHas .mandatory owner || s.roleHas .mandatory value) t u := by
  obtain ⟨tokens, span, schema, v, w, read, found, opened, made, rfl⟩ := addFunctional_cases ran
  have opened := tableOf_grows opened
  have created := propertyOf_grows made
  refine ⟨_, ?_, .of_setProperty (opened.grows.trans created.grows)
    (created.grows.reaches.keeps opened.open_at) rfl ?_ ?_ ?_⟩
  · rw [functionalName]
    simp only [read, found, bind, Except.bind, pure, Except.pure]
  · exact created.knows
  · exact createProperty_schema made ▸ coherent_schemaOf s _ _
  · exact createProperty_schema made ▸ (unpacks_schemaOf s _ _).2

theorem addArrayValued_grows {pattern : NounPattern} {id : FactTypeId} {owner item : RoleId}
    {a : Unit} (ran : Yields (s.addArrayValued pattern id owner item) t a u) : Grows s t u := by
  obtain ⟨_, span, items, v, w, _, _, opened, made, rfl⟩ := addArrayValued_cases ran
  have opened := tableOf_grows opened
  have created := propertyOf_grows made
  have taken := created.grows.reaches.keeps opened.open_at
  have taken : w.subjects.contains (s.keyOf (s.playerOf owner)) := Dict.contains_iff.mpr ⟨_, taken⟩
  have coherent : items.Coherent := createProperty_schema made ▸ coherent_schemaOf s _ _
  apply (opened.grows.trans created.grows).trans
    (.step (.holds taken ?_ (coherent.arrayOf.describedAs _)
      ((Schema.unpacks_of_plain rfl).identifying _)) rfl)
  intro target member
  have item := Schema.mem_targets_arrayOf.mp (Schema.mem_targets_describedAs.mp member)
  exact created.knows target item

theorem addUnary_adds {pattern : NounPattern} {id : FactTypeId} {role : RoleId} {a : Unit}
    (ran : Yields (s.addUnary pattern id role) t a u) : ∃ name,
      s.unaryName pattern id role = .ok name ∧
        Adds s (s.playerOf role) name (s.roleHas .mandatory role) t u := by
  obtain ⟨tokens, span, v, read, found, opened, rfl⟩ := addUnary_cases ran
  have opened := tableOf_grows opened
  refine ⟨_, ?_, .of_setProperty opened.grows opened.open_at rfl ?_ ?_
    (Schema.unpacks_of_plain rfl)⟩
  · rw [unaryName]
    simp only [read, found, bind, Except.bind, pure, Except.pure]
  · exact fun _ member => by contradiction
  · exact Schema.coherent_keywords rfl

theorem addFact_grows {pattern : NounPattern} {id : FactTypeId} {shape : Shape} {a : Unit}
    (ran : Yields (s.addFact pattern id shape) t a u) : Grows s t u := by
  cases shape with
  | association => exact (tableOf_grows (tableOf_of_discard ran)).grows
  | functional =>
    obtain ⟨_, _, adds⟩ := addFunctional_adds ran
    exact adds.grows
  | arrayValued => exact addArrayValued_grows ran
  | unary =>
    obtain ⟨_, _, adds⟩ := addUnary_adds ran
    exact adds.grows
  | independent =>
    apply yields_forM (Grows s t) ?_ (Grows.refl s t) ran
    intro player _ v _ w grows ran
    rcases independent_cases ran with ⟨_, rfl⟩ | ⟨_, opened⟩
    · exact grows
    · exact grows.trans (tableOf_grows opened).grows

theorem addFacts_grows {shapes : List (FactTypeId × Shape)} {a : Unit}
    (ran : Yields (s.addFacts shapes) t a u) : Grows s t u :=
  yields_forM (Grows s t) (fun _ _ _ _ _ grows ran => grows.trans (addFact_grows ran))
    (Grows.refl s t) ran

end Snapshot
end ObjectRole
