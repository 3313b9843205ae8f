import ObjectRole.Proofs.Api.Bodies
import ObjectRole.Proofs.Schema.Fits
import ObjectRole.Proofs.Schema.Inherited
import ObjectRole.Proofs.Tables.Examples

/-! A document that is compiled is orderly. Its schemas are tiers of the tables, filters, and the
shapes of templates with payloads in them; besides, filled error templates are written as
examples. -/
namespace ObjectRole

namespace Json

variable {j value : Json}

theorem Orderly.fieldsOf (orderly : j.Orderly) : (object j.fieldsOf).Orderly := by
  unfold Json.fieldsOf
  split
  · exact orderly
  · exact ⟨.nil, trivial⟩

theorem Orderly.setAt (orderly : j.Orderly) (own : value.Orderly) (path : List String) :
    (setAt value path j).Orderly := by
  induction path generalizing j with
  | nil => exact orderly
  | cons name rest ih =>
    cases rest with
    | nil => exact orderly.fieldsOf.insert own name
    | cons next rest =>
      rw [Json.setAt]
      · refine orderly.fieldsOf.insert (ih ?_) name
        cases found : Entries.get? name j.fieldsOf with
        | none => exact ⟨.nil, trivial⟩
        | some inner =>
          exact orderlyFields_iff.mp orderly.fieldsOf.2 _ (Entries.mem_of_get? found)
      · exact List.cons_ne_nil _ _

theorem Orderly.fillError (orderly : j.Orderly) (messagePath codePath message : String)
    (code : Nat) : (j.fillError messagePath codePath message code).Orderly := by
  have text : (string message).Orderly := trivial
  have number : (ofNat code).Orderly := trivial
  exact (orderly.setAt text _).setAt number _

end Json

namespace Schema

mutual

/-- The shape of an orderly template is orderly. -/
theorem orderly_ofExample : ∀ {v : Json}, v.Orderly → (ofExample v).Orderly
  | .null, _ | .bool _, _ | .number _, _ | .string _, _ | .array [], _ | .object [], _ =>
    orderly_words rfl rfl
  | .array (_ :: _), ⟨first, _⟩ => (orderly_ofExample first).arrayOf
  | .object (field :: rest), ⟨ordered, each⟩ => by
    refine orderly_object ⟨?_, orderly_ofExampleFields each⟩
    rw [ofExampleFields_eq]
    exact ordered.mapValues ofExample

theorem orderly_ofExampleFields : ∀ {members : List (String × Json)}, Json.OrderlyFields members →
    ∀ entry ∈ ofExampleFields members, entry.2.Orderly
  | [], _, entry, listed => by contradiction
  | (name, value) :: rest, ⟨first, later⟩, entry, listed => by
    rw [ofExampleFields] at listed
    rcases List.mem_cons.mp listed with rfl | behind
    · exact orderly_ofExample first
    · exact orderly_ofExampleFields later entry behind

end

end Schema

/-- Values of free form in the settings list the members of their objects in key order. -/
structure Settings.Orderly (settings : Settings) : Prop where
  servers : ∀ v ∈ settings.servers, v.Orderly
  wrapper : ∀ v ∈ settings.globalWrapperTemplate, v.Orderly
  errors : ∀ v ∈ settings.errorTemplate, v.Orderly

open Json.Decoder Json.Record in
/-- All settings that are read are orderly. -/
theorem Settings.yields_orderly : decoder.Yields Orderly := by
  have values (name : String) :
      (withDefault name (.nullable free) none).Yields fun o => ∀ v ∈ o, v.Orderly :=
    yields_withDefault yields_free.nullable name nofun
  refine yields_decode ?_
  iterate 2 refine .seq ?_ (yields_any _)
  refine .seq ?_ (values "errorTemplate")
  refine .seq ?_ (values "globalWrapperTemplate")
  iterate 2 refine .seq ?_ (yields_any _)
  refine .seq ?_ (values "servers")
  iterate 3 refine .seq ?_ (yields_any _)
  refine .map (yields_any _) ?_
  intro title _ version _ contact _ description _ servers own globalPermissions _
    replacementFieldPath _ wrapper own_wrapper errors own_errors errorMessagePath _ errorCodePath _
  exact ⟨own, own_wrapper, own_errors⟩

/-- At any depth, properties and the members of values of free form are in key order. -/
structure ApiDocument.Orderly (d : ApiDocument) : Prop where
  servers : ∀ v ∈ d.servers, v.Orderly
  schemas : ∀ placed ∈ d.placedSchemas, placed.2.Orderly

open Schema

variable {s : Snapshot} {settings : Settings}

/-- The operations of a resource use orderly schemas. -/
theorem Settings.Orderly.meets (fair : settings.Orderly) (r : ResourceView) :
    r.Meets settings Schema.Orderly := by
  have component (key : String) : (component key).Orderly := orderly_words rfl rfl
  have parts : r.Parts settings Schema.Orderly :=
    ⟨fun w found => orderly_ofExample (fair.wrapper w (Option.filter_eq_some_iff.mp found).1),
      component _, component _, component _, fun _ => component _, component _⟩
  refine parts.meets composes_orderly id ?_ ?_
  · exact fun each => (orderly_words rfl rfl).withAllOf each
  · intro template shaped message code
    have own := fair.errors template (Option.filter_eq_some_iff.mp shaped).1
    exact (component _).withExamples (List.forall_mem_singleton.mpr (own.fillError _ _ _ _))

/-- Tiers, filters and the schemas of all paths so far are orderly. -/
structure Synthesis.Orderly (y : Synthesis) : Prop where
  tiers : y.tiers.schemas.Orderly
  paths : ∀ path item, y.paths.get? path = some item →
    ∀ placed ∈ item.placedSchemas path, placed.2.Orderly

theorem Tiers.fold_orderly {t : Tiers} (orderly : t.schemas.Orderly) (finer coarser : String)
    (used : Bool) : (t.fold finer coarser used).schemas.Orderly := by
  unfold Tiers.fold
  split
  · rename_i fine coarse fine_found coarse_found
    split
    · exact ((orderly.erase _).erase _).insert
        ((orderly _ _ coarse_found).overlay (orderly _ _ fine_found)) _
    · exact orderly
  · exact orderly

namespace Synthesis

variable {y z : Synthesis} {b : BuiltTables} {entry : String × Resource}

/-- Adding a resource keeps everything in order. -/
theorem Orderly.addResource {view : ResourceView} {update : Schema} {identifying : List String}
    (orderly : y.Orderly) (fair : settings.Orderly)
    (ran : y.addResource settings view update identifying = .ok z) : z.Orderly := by
  have added := added_of_addResource ran
  have filtered : (y.withFilter view update).tiers.schemas.Orderly := by
    unfold withFilter
    split
    · exact orderly.tiers.insert (composes_orderly.filter (orderly_words rfl rfl) update) _
    · exact orderly.tiers
  constructor
  case tiers =>
    rw [added.tiers]
    exact Tiers.fold_orderly (Tiers.fold_orderly filtered _ _ _) _ _ _
  case paths =>
    intro path item found
    rcases added.paths found with earlier | ⟨_, collection⟩ | ⟨_, one⟩
    · exact orderly.paths path item earlier
    · exact (fair.meets view).collectionItem collection path
    · exact (fair.meets view).item (idParameters_typed _ _) one path

theorem Orderly.addKey (orderly : y.Orderly) (fair : settings.Orderly)
    (ran : addKey s settings b y entry = .ok z) : z.Orderly := by
  rw [Synthesis.addKey] at ran
  split at ran
  · cases ran
    exact orderly
  · exact orderly.addResource fair ran

/-- A run over all resources does so, too. -/
theorem orderly_of_ofTables (tables : b.schemas.Orderly) (fair : settings.Orderly)
    (ran : ofTables s settings b = .ok y) : y.Orderly := by
  have none_yet : ∀ path item, ({ tiers := ⟨b.schemas, .empty⟩ } : Synthesis).paths.get? path =
      some item → ∀ placed ∈ item.placedSchemas path, placed.2.Orderly :=
    fun _ _ found => by contradiction
  exact foldlM_keeps (fun _ orderly _ _ _ ran => orderly.addKey fair ran) ⟨tables, none_yet⟩ ran

end Synthesis

namespace ApiDocument

theorem orderly_componentSchemas {schemas : SchemaMap} (orderly : schemas.Orderly)
    (fair : settings.Orderly) : (componentSchemas settings schemas).Orderly := by
  have listed := orderly.insert composes_orderly.listModel listModelKey
  unfold componentSchemas
  split
  · rename_i template shaped
    have own := fair.errors template (Option.filter_eq_some_iff.mp shaped).1
    exact listed.insert (orderly_ofExample own) _
  · exact listed

theorem orderly_ofSynthesis {y : Synthesis} (orderly : y.Orderly) (fair : settings.Orderly) :
    (ofSynthesis settings y).Orderly := by
  constructor
  case servers =>
    exact fun v found => fair.servers v (Option.filter_eq_some_iff.mp found).1
  case schemas =>
    intro placed member
    rcases List.mem_append.mp member with component | path
    · obtain ⟨⟨key, schema⟩, listed, rfl⟩ := List.mem_map.mp component
      exact orderly_componentSchemas orderly.tiers fair key schema
        (Dict.get?_eq_some_iff.mpr listed)
    · obtain ⟨⟨path, item⟩, listed, member⟩ := List.mem_flatMap.mp path
      exact orderly.paths path item (Dict.get?_eq_some_iff.mpr listed) placed member

theorem Orderly.relabel {d : ApiDocument} (orderly : d.Orderly) (r : Renames) :
    (d.relabel r).Orderly := by
  refine ⟨orderly.servers, fun placed member => ?_⟩
  rw [ApiDocument.relabel, placedSchemas_mapSchemas] at member
  obtain ⟨old, old_member, rfl⟩ := List.mem_map.mp member
  exact (orderly.schemas old old_member).relabel r

end ApiDocument

namespace Snapshot.Orderly

variable (orderly : s.Orderly)
include orderly

/-- The flat tables of an orderly model are orderly. -/
theorem flatTables {tables : BuiltTables} (made : s.flatTables = .ok tables) :
    tables.schemas.Orderly := by
  obtain ⟨b, flat, built, flattened, rfl⟩ := flatTables_eq_ok_iff.mp made
  exact SchemaMap.flatten_forall Schema.hereditary_orderly (buildTables_orderly orderly built)
    flattened

/-- Orderly models are compiled to orderly documents. Servers that are null are left out. -/
theorem compile {doc : ApiDocument} (fair : settings.Orderly)
    (compiled : s.compile settings = .ok doc) : doc.Orderly ∧ doc.servers ≠ some .null := by
  obtain ⟨tables, y, made, ran, rfl, _⟩ := compile_eq_ok_iff.mp compiled
  have run := Synthesis.orderly_of_ofTables (orderly.flatTables made) fair ran
  refine ⟨(ApiDocument.orderly_ofSynthesis run fair).relabel y.tiers.renames, fun null => ?_⟩
  have passed := (Option.filter_eq_some_iff.mp null).2
  contradiction

end Snapshot.Orderly
end ObjectRole
