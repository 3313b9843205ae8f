import ObjectRole.Api.References
import ObjectRole.Proofs.Schema.Targets

/-! Relabelling and checking references. Relabelling changes every schema of a document in its
place, and the check passes when every reference to a component finds it. -/
namespace ObjectRole

open Schema

theorem Parameter.schemas_mapSchemas (f : Schema → Schema) (parameters : Option (List Parameter)) :
    Parameter.schemas (Parameter.mapSchemas f parameters) =
      (Parameter.schemas parameters).map f := by
  cases parameters with
  | none => rfl
  | some parameters => simp [Parameter.schemas, Parameter.mapSchemas]

theorem Content.schemas_mapSchemas (f : Schema → Schema) (content : Content) :
    Content.schemas (Content.mapSchemas f content) = (Content.schemas content).map f := by
  simp [Content.schemas, Content.mapSchemas, Dict.values, Dict.mapValues, Entries.mapValues]

theorem Operation.schemas_mapSchemas (f : Schema → Schema) (o : Operation) :
    (o.mapSchemas f).schemas = o.schemas.map f := by
  have request : ∀ body : Option RequestBody,
      (body.map fun body => (⟨Content.mapSchemas f body.content⟩ : RequestBody)).toList.flatMap
        RequestBody.schemas = (body.toList.flatMap RequestBody.schemas).map f := by
    intro body
    cases body with
    | none => rfl
    | some body => simp [RequestBody.schemas, Content.schemas_mapSchemas]
  have response : ∀ r : Response,
      Response.schemas { r with content := r.content.map (Content.mapSchemas f) } =
        (Response.schemas r).map f := by
    intro r
    cases found : r.content with
    | none => simp [Response.schemas, found]
    | some content => simp [Response.schemas, found, Content.schemas_mapSchemas]
  simp only [Operation.schemas, Operation.mapSchemas, Parameter.schemas_mapSchemas, request,
    Dict.values, Dict.mapValues, Entries.mapValues, List.map_map, List.map_append,
    List.flatMap_map, List.map_flatMap, Function.comp_def, response]

theorem Operation.operationId_mapSchemas (f : Schema → Schema) (o : Operation) :
    (o.mapSchemas f).operationId = o.operationId := rfl

theorem PathItem.parameters_mapSchemas (f : Schema → Schema) (p : PathItem) :
    (p.mapSchemas f).parameters = Parameter.mapSchemas f p.parameters := rfl

theorem PathItem.operations_mapSchemas (f : Schema → Schema) (p : PathItem) :
    (p.mapSchemas f).operations = p.operations.map (·.mapSchemas f) := by
  cases p with
  | mk parameters get post patch delete =>
    cases get <;> cases post <;> cases patch <;> cases delete <;> rfl

theorem PathItem.placedSchemas_mapSchemas (f : Schema → Schema) (path : String) (p : PathItem) :
    (p.mapSchemas f).placedSchemas path =
      (p.placedSchemas path).map fun placed => (placed.1, f placed.2) := by
  simp only [PathItem.placedSchemas, PathItem.operations_mapSchemas,
    PathItem.parameters_mapSchemas, Parameter.schemas_mapSchemas, Operation.schemas_mapSchemas,
    Operation.operationId_mapSchemas, List.map_append, List.map_map, List.flatMap_map,
    List.map_flatMap, Function.comp_def]

namespace ApiDocument

theorem placedSchemas_mapSchemas (f : Schema → Schema) (d : ApiDocument) :
    (d.mapSchemas f).placedSchemas =
      d.placedSchemas.map fun placed => (placed.1, f placed.2) := by
  simp only [placedSchemas, mapSchemas, Dict.mapValues, Entries.mapValues, List.map_append,
    List.map_map, List.flatMap_map, List.map_flatMap, PathItem.placedSchemas_mapSchemas,
    Function.comp_def]

variable {d : ApiDocument} {place reference : String} {error : CompileError}

/-! ### The check -/

/-- A reference finds what it refers to: if it is one to a component, the document has that. -/
def Finds (d : ApiDocument) (reference : String) : Prop :=
  ∀ key, reference = componentReference key → d.schemas.contains key = true

/-- What the check has to say about a reference at a place. -/
def refusal? (d : ApiDocument) (placed : String × String) : Option CompileError :=
  d.dangling? placed.1 { reference := some placed.2 }

theorem dangling?_eq (d : ApiDocument) (place : String) (s : Schema) :
    d.dangling? place s = s.reference.bind fun reference => d.refusal? (place, reference) := by
  rw [dangling?, Keywords.target?]
  cases s.reference <;> rfl

theorem refusal?_eq_some_iff : d.refusal? (place, reference) = some error ↔
    ∃ key, reference = componentReference key ∧ d.schemas.contains key = false ∧
      error = .danglingReference reference place := by
  rw [refusal?, dangling?, Option.bind_eq_bind, Option.bind_eq_some_iff]
  simp only [Keywords.target?_eq_some_iff, Option.some_inj]
  refine exists_congr fun key => and_congr_right fun same => ?_
  rw [same]
  cases d.schemas.contains key <;> simp [eq_comm]

theorem refusal?_eq_none_iff : d.refusal? (place, reference) = none ↔ d.Finds reference := by
  rw [Option.eq_none_iff_forall_ne_some]
  simp only [Ne, refusal?_eq_some_iff, not_exists, not_and]
  constructor
  · intro none key same
    exact Bool.not_eq_false _ ▸ fun missing => none _ key same missing rfl
  · intro found error key same missing
    rw [found key same] at missing
    contradiction

theorem findSome?_references : d.placedSchemas.findSome? (fun placed =>
    placed.2.nested.findSome? (d.dangling? placed.1)) = d.references.findSome? d.refusal? := by
  rw [← List.head?_filterMap (l := d.references), references, List.filterMap_flatMap,
    List.head?_flatMap]
  congr 1
  funext placed
  rw [List.filterMap_map, Schema.references, List.filterMap_filterMap, List.head?_filterMap]
  congr 1
  funext s
  exact d.dangling?_eq placed.1 s

theorem checkReferences_eq_ok_iff :
    d.checkReferences = .ok () ↔ ∀ placed ∈ d.references, d.Finds placed.2 := by
  have opened : d.checkReferences = .ok () ↔ d.references.findSome? d.refusal? = none := by
    rw [← findSome?_references, checkReferences]
    split <;> simp [*]
  rw [opened, List.findSome?_eq_none_iff]
  exact forall₂_congr fun _ _ => refusal?_eq_none_iff

theorem checkReferences_eq_error_iff : d.checkReferences = .error error ↔
    ∃ front place key back, d.references = front ++ (place, componentReference key) :: back ∧
      (∀ placed ∈ front, d.Finds placed.2) ∧ d.schemas.contains key = false ∧
      error = .danglingReference (componentReference key) place := by
  have opened : d.checkReferences = .error error ↔
      d.references.findSome? d.refusal? = some error := by
    rw [← findSome?_references, checkReferences]
    split <;> simp [*]
  rw [opened, List.findSome?_eq_some_iff]
  constructor
  · rintro ⟨front, ⟨place, reference⟩, back, split, refused, passed⟩
    obtain ⟨key, rfl, missing, rfl⟩ := refusal?_eq_some_iff.mp refused
    exact ⟨front, place, key, back, split,
      fun placed listed => refusal?_eq_none_iff.mp (passed placed listed), missing, rfl⟩
  · rintro ⟨front, place, key, back, split, passed, missing, rfl⟩
    exact ⟨front, _, back, split, refusal?_eq_some_iff.mpr ⟨key, rfl, missing, rfl⟩,
      fun placed listed => refusal?_eq_none_iff.mpr (passed placed listed)⟩

/-- The check passes when every reference to a component finds it. -/
theorem checkReferences_ok
    (closed : ∀ placed ∈ d.placedSchemas, ∀ target ∈ placed.2.targets, d.schemas.contains target) :
    d.checkReferences = .ok () := by
  refine checkReferences_eq_ok_iff.mpr fun placed listed key same => ?_
  obtain ⟨⟨place, s⟩, at_place, listed⟩ := List.mem_flatMap.mp listed
  obtain ⟨reference, inside, rfl⟩ := List.mem_map.mp listed
  exact closed _ at_place key (mem_targets_iff_references.mpr (same ▸ inside))

/-- A document passes the check after relabelling when every key that it refers to is led to a
component. -/
theorem checkReferences_relabel {r : Renames}
    (closed : ∀ placed ∈ d.placedSchemas, ∀ target ∈ placed.2.targets,
      d.schemas.contains (r.resolve target)) : (d.relabel r).checkReferences = .ok () := by
  apply checkReferences_ok
  intro placed listed target member
  rw [relabel, placedSchemas_mapSchemas] at listed
  obtain ⟨old, old_listed, rfl⟩ := List.mem_map.mp listed
  rw [targets_relabel] at member
  obtain ⟨old_target, inside, rfl⟩ := List.mem_map.mp member
  have there := closed old old_listed old_target inside
  rw [Dict.contains_eq_isSome] at there ⊢
  rw [relabel, mapSchemas, Dict.get?_mapValues, Option.isSome_map]
  exact there

end ApiDocument
end ObjectRole
