import ObjectRole.Proofs.Api.Components

/-! What the settings have no say in. Templates, titles and servers show in the metadata of a
document, in its responses and in the error model; besides the permissions that settings grant,
nothing else of a document depends on them, nor whether it is finished. -/
namespace ObjectRole

/-- An operation with its responses left out. -/
def Operation.request (o : Operation) : Operation := { o with responses := .empty }

/-- A path with the responses of its operations left out. -/
def PathItem.requests (p : PathItem) : PathItem :=
  { p with
    get := p.get.map (·.request)
    post := p.post.map (·.request)
    patch := p.patch.map (·.request)
    delete := p.delete.map (·.request) }

/-- A document with its metadata, its servers, its responses and the error model left out. -/
def ApiDocument.shape (d : ApiDocument) : ApiDocument :=
  { version := d.version
    info := {}
    servers := none
    paths := d.paths.mapValues (·.requests)
    schemas := d.schemas.erase errorModelKey }

theorem PathItem.requests_mapSchemas (f : Schema → Schema) (p : PathItem) :
    (p.mapSchemas f).requests = p.requests.mapSchemas f := by
  have each (o? : Option Operation) : (o?.map (·.mapSchemas f)).map (·.request) =
      (o?.map (·.request)).map (·.mapSchemas f) := by
    cases o? <;> rfl
  simp only [requests, mapSchemas, each]

namespace ResourceView

variable (r : ResourceView) (a b : Settings)

theorem requests_whenAllowed {p : Permission} {o other : Operation}
    (same : o.request = other.request) :
    (r.whenAllowed p o).map (·.request) = (r.whenAllowed p other).map (·.request) := by
  rw [whenAllowed, whenAllowed]
  split
  · exact congrArg some same
  · rfl

theorem requests_collectionItem? :
    (r.collectionItem? a).map (·.requests) = (r.collectionItem? b).map (·.requests) := by
  have list : (r.list a).request = (r.list b).request := by
    simp only [ResourceView.list, Operation.request]
  have create : (r.create a).request = (r.create b).request := by
    simp only [ResourceView.create, Operation.request]
  rw [collectionItem?, collectionItem?]
  split
  · simp only [Option.map_some, PathItem.requests, requests_whenAllowed r list,
      requests_whenAllowed r create]
  · rfl

theorem requests_item? (identifier : List Parameter) :
    (r.item? a identifier).map (·.requests) = (r.item? b identifier).map (·.requests) := by
  have read : (r.read a).request = (r.read b).request := by
    simp only [ResourceView.read, Operation.request]
  have update : (r.update a).request = (r.update b).request := by
    simp only [ResourceView.update, Operation.request]
  have delete : (r.delete a).request = (r.delete b).request := by
    simp only [ResourceView.delete, Operation.request]
  rw [item?, item?]
  split
  · simp only [Option.map_some, PathItem.requests, requests_whenAllowed r read,
      requests_whenAllowed r update, requests_whenAllowed r delete]
  · rfl

end ResourceView

namespace Synthesis

/-- Paths in the making with the responses left out. -/
def requests (y : Synthesis) : Synthesis := { y with paths := y.paths.mapValues (·.requests) }

variable {a b : Settings} {y z : Synthesis}

theorem requests_withPath (y : Synthesis) (path : String) (item? : Option PathItem) :
    (y.withPath path item?).requests = y.requests.withPath path (item?.map (·.requests)) := by
  cases item? with
  | none => rfl
  | some item => simp only [withPath, requests, Option.map_some, Dict.mapValues_insert]

theorem requests_withFilter (y : Synthesis) (view : ResourceView) (update : Schema) :
    (y.withFilter view update).requests = y.requests.withFilter view update := by
  rw [withFilter, withFilter]
  split <;> rfl

/-- Syntheses that are alike apart from responses take a resource alike. -/
theorem requests_addResource (same : y.requests = z.requests) (view : ResourceView)
    (update : Schema) (identifying : List String) :
    requests <$> y.addResource a view update identifying =
      requests <$> z.addResource b view update identifying := by
  have owned (y : Synthesis) :
      requests { y with owners := y.owners.insert view.collectionPath view.key } =
        { y.requests with owners := y.requests.owners.insert view.collectionPath view.key } := rfl
  have collapsed (y : Synthesis) : requests { y with
      tiers := y.tiers.collapse view.key (view.allows .update) (view.allows .create) } =
        { y.requests with
          tiers := y.requests.tiers.collapse view.key (view.allows .update)
            (view.allows .create) } := rfl
  have owners : y.owners = z.owners := congrArg (·.owners) same
  rw [addResource, addResource, owners]
  split
  · rfl
  · apply congrArg Except.ok
    simp only [collapsed, requests_withPath, owned, requests_withFilter, same,
      view.requests_collectionItem? a b, view.requests_item? a b]

theorem requests_addKey (granted : a.globalPermissions = b.globalPermissions) (s : Snapshot)
    (tables : BuiltTables) (entry : String × Resource) (same : y.requests = z.requests) :
    requests <$> addKey s a tables y entry = requests <$> addKey s b tables z entry := by
  have tiers : y.tiers = z.tiers := congrArg (·.tiers) same
  have views : tables.viewOf s a = tables.viewOf s b := by
    funext key r update
    rw [BuiltTables.viewOf, BuiltTables.viewOf, granted]
  rw [addKey, addKey, tiers]
  split
  · exact congrArg Except.ok same
  · rw [views]
    exact requests_addResource same ..

theorem requests_ofTables (granted : a.globalPermissions = b.globalPermissions) (s : Snapshot)
    (tables : BuiltTables) :
    requests <$> ofTables s a tables = requests <$> ofTables s b tables :=
  map_foldlM_congr (fun _ _ entry same => requests_addKey granted s tables entry same)
    tables.resources.entries rfl

theorem shape_document (same : y.requests = z.requests) :
    (y.document a).shape = (z.document b).shape := by
  have tiers : y.tiers = z.tiers := congrArg (·.tiers) same
  have paths : y.paths.mapValues (·.requests) = z.paths.mapValues (·.requests) :=
    congrArg (·.paths) same
  have schemas : (y.document a).schemas.erase errorModelKey =
      (z.document b).schemas.erase errorModelKey := by
    ext key : 1
    rw [Dict.get?_erase, Dict.get?_erase, get?_schemas, get?_schemas,
      ApiDocument.get?_componentSchemas, ApiDocument.get?_componentSchemas, tiers]
    by_cases error_model : key = errorModelKey
    · rw [if_pos error_model, if_pos error_model]
    · simp only [error_model, false_and, if_false]
  have items : (y.document a).paths.mapValues (·.requests) =
      (z.document b).paths.mapValues (·.requests) := by
    ext path : 1
    have here := congrArg (·.get? path) paths
    have commutes (f : Schema → Schema) : PathItem.requests ∘ PathItem.mapSchemas f =
        PathItem.mapSchemas f ∘ PathItem.requests := funext (PathItem.requests_mapSchemas f)
    simp only [Dict.get?_mapValues] at here
    rw [Dict.get?_mapValues, Dict.get?_mapValues, get?_paths, get?_paths, tiers, Option.map_map,
      Option.map_map, commutes, ← Option.map_map, ← Option.map_map, here]
  rw [ApiDocument.shape, ApiDocument.shape, schemas, items]
  rfl

end Synthesis

/-- Settings that grant the same permissions finish the same resolved models, or fail with the same
error, and the documents they finish are the same up to metadata, servers, responses and the error
model: the same other components, the same paths, and operations with the same names, parameters and
requests. -/
theorem compile_shape {d : Document} {s : Snapshot} {a b : Settings}
    (resolved : d.resolve = .ok s) (granted : a.globalPermissions = b.globalPermissions) :
    ApiDocument.shape <$> s.compile a = ApiDocument.shape <$> s.compile b := by
  rw [Snapshot.compile, Snapshot.compile]
  cases made : s.flatTables with
  | error e => rfl
  | ok tables =>
    have flat := Snapshot.flatTables_of_ok (Document.rooted_of_resolve resolved) made
    have checked (settings : Settings) (y : Synthesis)
        (ran : Synthesis.ofTables s settings tables = .ok y) :
        ((ApiDocument.ofSynthesis settings y).relabel y.tiers.renames).checkReferences = .ok () :=
      Progress.checkReferences_ok flat (.of_ofTables flat ran)
    rcases map_eq_map_cases (Synthesis.requests_ofTables granted s tables) with
      ⟨e, here, there⟩ | ⟨y, z, here, there, alike⟩
    · simp only [bind, Except.bind, here, there]
    · simp only [bind, Except.bind, here, there, checked a y here, checked b z there]
      exact congrArg Except.ok (Synthesis.shape_document alike)

/-- Payloads stand under `data`, and errors have a message and a code. -/
def Settings.enveloped : Settings where
  title := some "Citizens"
  globalWrapperTemplate := some (.object [("data", .null)])
  errorTemplate := some (.object [
    ("error", .object [("code", .integer 0), ("message", .string "")])])

theorem compile_shape_of_citizens : ∃ s plain enveloped, Document.citizens.resolve = .ok s ∧
    s.compile {} = .ok plain ∧ s.compile .enveloped = .ok enveloped ∧
      plain.schemas.contains errorModelKey = false ∧
      enveloped.schemas.contains errorModelKey = true ∧ plain.shape = enveloped.shape := by
  have plainly : Document.citizens.passes {} fun _ _ doc =>
      !doc.schemas.contains errorModelKey := by decide +kernel
  have in_envelopes : Document.citizens.passes .enveloped fun _ _ doc =>
      doc.schemas.contains errorModelKey := by decide +kernel
  obtain ⟨s, _, plain, resolved, _, compiled, bare⟩ := Document.exists_of_passes plainly
  obtain ⟨t, _, enveloped, also, _, in_envelope, modelled⟩ :=
    Document.exists_of_passes in_envelopes
  cases resolved.symm.trans also
  have same := compile_shape (a := {}) (b := .enveloped) resolved rfl
  rw [compiled, in_envelope] at same
  exact ⟨s, plain, enveloped, resolved, compiled, in_envelope, by simpa using bare, modelled,
    Except.ok.inj same⟩

end ObjectRole
