import ObjectRole.Proofs.Model.RoundTrip
import ObjectRole.Proofs.Schema.Orderly
import ObjectRole.Proofs.Tables.Finished

/-! Tables hold orderly schemas only. What is put on them besides names are examples of the model,
and these are orderly; every change keeps what is in order there. -/
namespace ObjectRole

theorem Json.Orderly.asType {v : Json} (orderly : v.Orderly) (type : Option String) :
    (v.asType type).Orderly := by
  unfold Json.asType
  split
  · rename_i text type
    cases found : Json.ofSample type (Text.trim text.toList) with
    | none => exact orderly
    | some read =>
      unfold Json.ofSample at found
      split at found
      · obtain ⟨_, _, rfl⟩ := Option.map_eq_some_iff.mp found
        trivial
      · obtain ⟨_, _, rfl⟩ := Option.map_eq_some_iff.mp found
        trivial
      · cases found
        trivial
      · contradiction
  · exact orderly

namespace Snapshot.Orderly

variable {s : Snapshot} (orderly : s.Orderly)
include orderly

theorem exampleValue (id : FactTypeId) (role : RoleId) :
    ∀ v ∈ s.exampleValue id role, v.Orderly := by
  intro v found
  simp only [Snapshot.exampleValue, Option.bind_eq_bind, Option.mem_def, Option.bind_eq_some_iff]
    at found
  obtain ⟨place, _, example_, at_fact, value, at_place, found⟩ := found
  split at found
  · contradiction
  · cases found
    exact orderly.examples _ (List.mem_of_find?_eq_some at_fact) _ (List.mem_of_getElem? at_place)

theorem tableExamples (subject : Player) :
    ∀ v ∈ (s.tableExamples subject).getD [], v.Orderly := by
  intro v listed
  cases found : s.jsonExamples.find? (·.subject == subject) with
  | none => simp [Snapshot.tableExamples, jsonExampleOf, found] at listed
  | some e =>
    simp only [Snapshot.tableExamples, jsonExampleOf, found, Option.map_some, Option.getD_some,
      List.mem_singleton] at listed
    exact listed ▸ orderly.json_examples e (List.mem_of_find?_eq_some found)

end Snapshot.Orderly

namespace SchemaMap

/-- All schemas of a map are orderly. -/
def Orderly (m : SchemaMap) : Prop := ∀ key s, m.get? key = some s → s.Orderly

variable {m : SchemaMap} {s : Schema}

theorem Orderly.getD (orderly : m.Orderly) (key : String) : ((m.get? key).getD .empty).Orderly := by
  cases found : m.get? key with
  | none => exact Schema.orderly_words rfl rfl
  | some s => exact orderly key s found

theorem Orderly.insert (orderly : m.Orderly) (own : s.Orderly) (key : String) :
    SchemaMap.Orderly (m.insert key s) := by
  intro other schema found
  rw [Dict.get?_insert] at found
  split at found
  · cases found
    exact own
  · exact orderly other schema found

theorem Orderly.erase (orderly : m.Orderly) (key : String) :
    SchemaMap.Orderly (m.erase key) := by
  intro other schema found
  rw [Dict.get?_erase] at found
  split at found
  · contradiction
  · exact orderly other schema found

end SchemaMap

namespace Tables

open Schema

variable {s : Snapshot} {t u : Tables} {schema : Schema} {subject object : Player} {key : String}

theorem orderly_change (orderly : t.schemas.Orderly) {f : Schema → Schema}
    (keeps : ∀ schema, schema.Orderly → (f schema).Orderly) (key : String) :
    (t.change key f).schemas.Orderly :=
  orderly.insert (keeps _ (orderly.getD key)) key

/-- The tiers of a table that is opened say examples and what they inherit from. -/
theorem orderly_openTable (fair : s.Orderly) (orderly : t.schemas.Orderly) (subject : Player) :
    (t.openTable s subject).schemas.Orderly := by
  have tier (k : Keywords) (plain : k.enumeration = none)
      (examples : k.examples = s.tableExamples subject) :
      ({ toKeywords := k } : Schema).Orderly := by
    refine orderly_keywords ⟨?_, examples ▸ fair.tableExamples subject⟩
    rw [plain]
    nofun
  have components (tierKey : String → String) :
      ∀ parent ∈ (s.superTypeOf subject).toList.map fun p => component (tierKey (s.keyOf p)),
        parent.Orderly :=
    List.forall_mem_map.mpr fun _ _ => orderly_words rfl rfl
  have update : (s.updateTier subject).Orderly := by
    unfold Snapshot.updateTier
    cases s.superTypeOf subject with
    | none => exact tier _ rfl rfl
    | some parent =>
      exact (tier _ rfl rfl).withAllOf (List.forall_mem_singleton.mpr (orderly_words rfl rfl))
  have new : (s.newTier subject).Orderly :=
    (tier _ rfl rfl).withAllOf
      (List.forall_mem_cons.mpr ⟨orderly_words rfl rfl, components newKey⟩)
  have read : (s.readTier subject).Orderly :=
    (tier _ rfl rfl).withAllOf (List.forall_mem_cons.mpr ⟨orderly_words rfl rfl, components id⟩)
  exact ((orderly.insert update _).insert new _).insert read _

theorem orderly_withSample (orderly : schema.Orderly) {sample : Json} (own : sample.Orderly)
    (name : String) : (withSample schema name sample).Orderly := by
  have examples := orderly.keywords.examples
  unfold withSample
  split
  · refine orderly.withExamples (List.forall_mem_singleton.mpr ?_)
    exact ⟨List.pairwise_singleton _ _, own, trivial⟩
  · rename_i fields rest listed
    rw [listed] at examples
    obtain ⟨first, later⟩ := List.forall_mem_cons.mp examples
    exact orderly.withExamples (List.forall_mem_cons.mpr ⟨first.insert own name, later⟩)
  · exact orderly

/-- A property that is put on a table may bring a sample. -/
theorem orderly_setProperty (orderly : t.schemas.Orderly) {p : Property} (own : p.schema.Orderly)
    (sample : ∀ v ∈ p.sample, v.Orderly) (key title : String) :
    (t.setProperty key title p).2.schemas.Orderly := by
  unfold setProperty
  dsimp only
  generalize Naming.stripSubject p.name title = name
  have held : (t.change (updateKey key) (·.withProperty name
      (p.schema.describedAs p.description))).schemas.Orderly :=
    orderly_change orderly (fun _ other => other.withProperty (own.describedAs _) name) _
  generalize t.change (updateKey key)
    (·.withProperty name (p.schema.describedAs p.description)) = v at held ⊢
  have required : (if p.required then v.change (requiringKey key name) (·.require name)
      else v).schemas.Orderly := by
    split
    · exact orderly_change held (fun _ other => other.withRequired _) _
    · exact held
  split
  · rename_i value found
    exact orderly_change required
      (fun _ other => orderly_withSample other ((sample value found).asType _) name) _
  · exact required

end Tables

namespace Snapshot

open Build Tables Schema

variable {s : Snapshot} {t u : Tables} {subject object : Player} {steps : Nat}

theorem orderly_valueSchema (player : Player) (type : ValueType) :
    (s.valueSchema player type).Orderly := by
  cases player with
  | factType => exact orderly_words rfl rfl
  | noun id =>
    refine orderly_keywords ⟨fun v listed => ?_, nofun⟩
    cases found : (s.noun id).facets.enumeration with
    | none => simp [found] at listed
    | some text =>
      simp only [found, Option.map_some, Option.getD_some] at listed
      obtain ⟨word, _, rfl⟩ := List.mem_map.mp listed
      dsimp only
      split <;> trivial

theorem orderly_inlineSchema {schemaOf : Player → Schema}
    (each : ∀ player, (schemaOf player).Orderly) (players : List Player) :
    (s.inlineSchema schemaOf players).Orderly := by
  unfold inlineSchema
  split
  · exact orderly_words rfl rfl
  · exact each _
  · exact foldl_keeps (P := Schema.Orderly)
      (fun _ orderly player => (orderly.withProperty (each player) _).withRequired _) _
      (orderly_words rfl rfl)

theorem orderly_schemaOf (s : Snapshot) (steps : Nat) (object : Player) :
    (s.schemaOf steps object).Orderly := by
  induction steps generalizing object with
  | zero => exact orderly_words rfl rfl
  | succ steps ih =>
    rw [schemaOf]
    split
    · exact orderly_valueSchema object _
    · refine orderly_choice fun option listed => ?_
      rcases List.mem_pair.mp listed with rfl | rfl
      · exact orderly_inlineSchema ih _
      · exact orderly_words rfl rfl

section Calls

variable (fair : s.Orderly)
  (opens : ∀ {subject t key u}, Yields (s.ensureTable steps subject) t key u →
    t.schemas.Orderly → u.schemas.Orderly)
  (creates : ∀ {object t schema u}, Yields (s.createProperty steps object) t schema u →
    t.schemas.Orderly → u.schemas.Orderly)

include creates in
theorem Identifies.orderly {list : List (Player × Bool)}
    (identifies : Identifies s steps subject list t u) (orderly : t.schemas.Orderly) :
    u.schemas.Orderly := by
  induction identifies with
  | done => exact orderly
  | @next t v u object required rest schema created _ ih =>
    have own : schema.Orderly := createProperty_schema created ▸ orderly_schemaOf s _ _
    have put : (v.setProperty (s.keyOf subject) (s.nameOf subject) (s.identifyingProperty
        (s.nameOf subject) object required schema)).2.schemas.Orderly :=
      orderly_setProperty (creates created orderly) own (fun _ none => by contradiction) _ _
    exact ih put

include fair opens creates in
theorem ensureTable_orderly {key : String}
    (ran : Yields (s.ensureTable (steps + 1) subject) t key u) (orderly : t.schemas.Orderly) :
    u.schemas.Orderly := by
  obtain ⟨_, ⟨_, rfl⟩ | ⟨_, v, identifies, extended⟩⟩ := ensureTable_cases ran
  · exact orderly
  have own := identifies.orderly creates (orderly_openTable fair orderly subject)
  rcases extended with ⟨_, rfl⟩ | ⟨parent, key, _, opened⟩
  · exact own
  · exact opens opened own

include opens creates in
theorem createProperty_orderly {schema : Schema}
    (ran : Yields (s.createProperty (steps + 1) object) t schema u) (orderly : t.schemas.Orderly) :
    u.schemas.Orderly := by
  rcases createProperty_cases ran with ⟨_, _, _, rfl⟩ | ⟨players, inline, v, _, inlines, opened, _⟩
  · exact orderly
  have inlined : v.schemas.Orderly := by
    unfold Inlines at inlines
    split at inlines
    · exact inlines.2 ▸ orderly
    · exact creates inlines orderly
    · refine yields_foldlM (fun _ v => v.schemas.Orderly) ?_ orderly inlines
      intro player _ composite v next w kept ran
      obtain ⟨member, x, made, ran⟩ := yields_bind.mp ran
      obtain ⟨_, rfl⟩ := yields_pure.mp ran
      exact creates made kept
  exact opens opened inlined

end Calls

theorem calls_orderly (fair : s.Orderly) (steps : Nat) :
    (∀ {subject t key u}, Yields (s.ensureTable steps subject) t key u →
      t.schemas.Orderly → u.schemas.Orderly) ∧
    (∀ {object t schema u}, Yields (s.createProperty steps object) t schema u →
      t.schemas.Orderly → u.schemas.Orderly) := by
  induction steps with
  | zero => exact ⟨fun ran => absurd ran not_yields_ensureTable_zero,
      fun ran => absurd ran not_yields_createProperty_zero⟩
  | succ steps ih => exact ⟨ensureTable_orderly fair ih.1 ih.2, createProperty_orderly ih.1 ih.2⟩

section Facts

variable (fair : s.Orderly) {pattern : NounPattern} {id : FactTypeId}
include fair

theorem tableOf_orderly {key : String} (ran : Yields (s.tableOf subject) t key u)
    (orderly : t.schemas.Orderly) : u.schemas.Orderly :=
  (calls_orderly fair _).1 ran orderly

theorem propertyOf_orderly {schema : Schema} (ran : Yields (s.propertyOf object) t schema u)
    (orderly : t.schemas.Orderly) : u.schemas.Orderly ∧ schema.Orderly :=
  ⟨(calls_orderly fair _).2 ran orderly, createProperty_schema ran ▸ orderly_schemaOf s _ _⟩

theorem addFunctional_orderly {owner value : RoleId} {a : Unit}
    (ran : Yields (s.addFunctional pattern id owner value) t a u) (orderly : t.schemas.Orderly) :
    u.schemas.Orderly := by
  obtain ⟨_, span, schema, v, w, _, _, opened, made, rfl⟩ := addFunctional_cases ran
  obtain ⟨made_orderly, own⟩ := propertyOf_orderly fair made (tableOf_orderly fair opened orderly)
  exact orderly_setProperty made_orderly own (fair.exampleValue id value) _ _

theorem addArrayValued_orderly {owner item : RoleId} {a : Unit}
    (ran : Yields (s.addArrayValued pattern id owner item) t a u) (orderly : t.schemas.Orderly) :
    u.schemas.Orderly := by
  obtain ⟨_, span, items, v, w, _, _, opened, made, rfl⟩ := addArrayValued_cases ran
  obtain ⟨made_orderly, own⟩ := propertyOf_orderly fair made (tableOf_orderly fair opened orderly)
  exact orderly_change made_orderly
    (fun _ other => other.withProperty (own.arrayOf.describedAs _) _) _

theorem addUnary_orderly {role : RoleId} {a : Unit}
    (ran : Yields (s.addUnary pattern id role) t a u) (orderly : t.schemas.Orderly) :
    u.schemas.Orderly := by
  obtain ⟨tokens, span, v, _, _, opened, rfl⟩ := addUnary_cases ran
  exact orderly_setProperty (tableOf_orderly fair opened orderly) (orderly_words rfl rfl)
    (fair.exampleValue id role) _ _

theorem addFact_orderly {shape : Shape} {a : Unit}
    (ran : Yields (s.addFact pattern id shape) t a u) (orderly : t.schemas.Orderly) :
    u.schemas.Orderly := by
  cases shape with
  | association => exact tableOf_orderly fair (tableOf_of_discard ran) orderly
  | functional => exact addFunctional_orderly fair ran orderly
  | arrayValued => exact addArrayValued_orderly fair ran orderly
  | unary => exact addUnary_orderly fair ran orderly
  | independent =>
    refine yields_forM (·.schemas.Orderly) ?_ orderly ran
    intro player _ v _ w kept ran
    rcases independent_cases ran with ⟨_, rfl⟩ | ⟨_, opened⟩
    · exact kept
    · exact tableOf_orderly fair opened kept

/-- The built tables of an orderly model are orderly. -/
theorem buildTables_orderly {b : BuiltTables} (built : s.buildTables = .ok b) :
    b.schemas.Orderly := by
  obtain ⟨shapes, t, _, ran, finished⟩ := exists_run_of_buildTables built
  have none_yet : SchemaMap.Orderly ({} : Tables).schemas := nofun
  have all : t.schemas.Orderly := by
    refine yields_forM (·.schemas.Orderly) ?_ none_yet ran
    exact fun _ _ _ _ _ kept ran => addFact_orderly fair ran kept
  exact (closes_of_finishTables finished).schemas ▸ all

end Facts
end Snapshot
end ObjectRole
