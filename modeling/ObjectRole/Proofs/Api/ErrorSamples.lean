import ObjectRole.Proofs.Api.Envelopes
import ObjectRole.Proofs.Api.Operations
import ObjectRole.Proofs.Schema.Fits

/-! The examples of error responses. The model of errors is the shape of the template, and each
error response shows the template filled in, which fits that shape exactly if the template takes
errors. -/
namespace ObjectRole

open Schema

/-- A reference to the error model with an example. -/
def Schema.errorModel (sample : Json) : Schema :=
  { component errorModelKey with examples := some [sample] }

/-- A response shows the template with some error filled in. -/
def Response.ShowsError (settings : Settings) (template : Json) (response : Response) : Prop :=
  ∃ message code, response.content = some (.json (.errorModel
    (template.fillError settings.errorMessagePath settings.errorCodePath message code)))

variable {settings : Settings} {template : Json}

namespace Keywords

variable {r : Renames} {k : Keywords}

theorem relabel_of_reference_eq_none (none : k.reference = none) : k.relabel r = k := by
  rw [relabel, target?_of_reference_eq_none none]

theorem relabel_of_resolve {target : String} (leads : k.target? = some target)
    (stays : r.resolve target = target) : k.relabel r = k := by
  rw [relabel, leads]
  exact if_pos stays

end Keywords

namespace Schema

variable (r : Renames)

theorem mapKeywords_typed (type : String) :
    (typed type).mapKeywords (·.relabel r) = typed type := by
  rw [typed, mapKeywords, Keywords.relabel_of_reference_eq_none rfl]
  rfl

mutual

/-- The shape of a template refers to nothing that could be renamed. -/
theorem mapKeywords_ofExample : ∀ t : Json,
    (ofExample t).mapKeywords (·.relabel r) = ofExample t
  | .null | .bool _ | .number _ | .string _ | .array [] | .object [] => mapKeywords_typed r _
  | .array (first :: _) => by
    rw [ofExample, arrayOf, mapKeywords, Keywords.relabel_of_reference_eq_none rfl, mapItem,
      mapKeywords_ofExample first]
    rfl
  | .object (field :: rest) => by
    rw [ofExample, typed, mapKeywords, Keywords.relabel_of_reference_eq_none rfl, mapProperties,
      mapEntries_ofExampleFields (field :: rest)]
    rfl

theorem mapEntries_ofExampleFields : ∀ members : List (String × Json),
    mapEntries (·.relabel r) (ofExampleFields members) = ofExampleFields members
  | [] => rfl
  | (name, value) :: rest => by
    rw [ofExampleFields, mapEntries, mapKeywords_ofExample value, mapEntries_ofExampleFields rest]

end

variable {r}

theorem mapKeywords_errorModel (stays : r.resolve errorModelKey = errorModelKey) (sample : Json) :
    (errorModel sample).mapKeywords (·.relabel r) = errorModel sample := by
  have leads : (errorModel sample).target? = some errorModelKey := target?_component _
  rw [errorModel] at leads ⊢
  rw [mapKeywords, Keywords.relabel_of_resolve leads stays]
  rfl

end Schema

theorem Content.mapSchemas_json (f : Schema → Schema) (schema : Schema) :
    mapSchemas f (json schema) = json (f schema) := Dict.mapValues_insert ..

namespace ResourceView

variable {view : ResourceView}

/-- Besides success, an operation has error responses only. -/
theorem showsError_of_responses {success : String} {body : Option Schema}
    {failures : List (Nat × String)} {status : String} {response : Response}
    (shaped : settings.errorShape = some template)
    (found : (view.responses settings success body failures).get? status = some response)
    (failed : status ≠ "200") : response.ShowsError settings template := by
  have listed := Entries.mem_ofList (Dict.get?_eq_some_iff.mp found)
  rcases List.mem_append.mp listed with failure | ok
  · rw [shaped] at failure
    obtain ⟨⟨code, message⟩, _, made⟩ := List.mem_map.mp failure
    cases made
    exact ⟨message, code, rfl⟩
  · cases List.mem_singleton.mp ok
    exact absurd rfl failed

theorem showsError_of_operationOf {a : Action} {status : String} {response : Response}
    (shaped : settings.errorShape = some template)
    (found : (view.operationOf settings a).responses.get? status = some response)
    (failed : status ≠ "200") : response.ShowsError settings template := by
  cases a with
  | list | create | read | update | delete => exact showsError_of_responses shaped found failed

end ResourceView

variable {d : Document} {s : Snapshot} {doc : ApiDocument}

/-- In a document that was compiled the model of errors is the shape of the template, and all
responses besides success show the template with an error filled in. -/
theorem showsError_of_compile (resolved : d.resolve = .ok s)
    (compiled : s.compile settings = .ok doc) (shaped : settings.errorShape = some template) :
    doc.schemas.get? errorModelKey = some (ofExample template) ∧
      ∀ o ∈ doc.paths.operations, ∀ status response,
        o.operation.responses.get? status = some response → status ≠ "200" →
          response.ShowsError settings template := by
  obtain ⟨tables, _, made, _⟩ := Snapshot.compile_eq_ok_iff.mp compiled
  obtain ⟨y, flat, ran, rfl⟩ := Document.run_of_compile resolved made compiled
  constructor
  · rw [Synthesis.get?_schemas, ApiDocument.get?_componentSchemas, shaped,
      if_pos ⟨rfl, Option.isSome_some⟩, Option.map_some, Option.map_some, mapKeywords_ofExample]
  · intro o listed status response found failed
    have stays := Progress.resolve_reserved flat (.of_ofTables flat ran) (.inr rfl)
    have stands := (Snapshot.operations_document_perm flat ran).mem_iff.mp listed
    obtain ⟨asked, _, rfl⟩ := List.mem_map.mp stands
    rw [PlacedOperation.relabel, Operation.mapSchemas, Dict.get?_mapValues] at found
    obtain ⟨own, own_found, rfl⟩ := Option.map_eq_some_iff.mp found
    obtain ⟨message, code, content⟩ :=
      ResourceView.showsError_of_operationOf shaped own_found failed
    refine ⟨message, code, ?_⟩
    rw [content, Option.map_some, Content.mapSchemas_json, mapKeywords_errorModel stays]

/-- All error responses of a document that was compiled have an example, and it fits the model of
errors next to it exactly if the template takes errors: on the way to the code there are only
objects, and what stands in its place, if anything, is a number; likewise for the message, where it
shows, with a text; and the template fits its own shape. -/
theorem compile_errorSamples (resolved : d.resolve = .ok s)
    (compiled : s.compile settings = .ok doc) (shaped : settings.errorShape = some template) :
    doc.schemas.get? errorModelKey = some (ofExample template) ∧
      ∀ o ∈ doc.paths.operations, ∀ status response,
        o.operation.responses.get? status = some response → status ≠ "200" →
          ∃ sample, response.content = some (.json (.errorModel sample)) ∧
            (Fits sample (ofExample template) ↔ template.TakesErrors
              (pathSteps settings.errorMessagePath) (pathSteps settings.errorCodePath)) := by
  obtain ⟨model, responses⟩ := showsError_of_compile resolved compiled shaped
  refine ⟨model, fun o listed status response found failed => ?_⟩
  obtain ⟨message, code, content⟩ := responses o listed status response found failed
  exact ⟨_, content, fits_fillError_iff template _ _ message code⟩

/-- A code and a message under `error`. -/
def Settings.errorExample (code message : Json) : Json :=
  .object [("error", .object [("code", code), ("message", message)])]

/-- Such a template takes errors under these names just if it has a number and a text there. -/
theorem takesErrors_errorExample_iff {code message : Json} :
    (Settings.errorExample code message).TakesErrors ["error", "message"] ["error", "code"] ↔
      code.typeName = "number" ∧ message.typeName = "string" := by
  have apart : ¬["error", "code"] <+: ["error", "message"] ∧
      ¬["error", "message"] <+: ["error", "code"] := by decide
  constructor
  · intro takes
    have room := takes.code (List.cons_ne_nil _ _)
    have text := takes.message ⟨List.cons_ne_nil _ _, .inr apart⟩
    exact ⟨(room.2 _ rfl).2 code rfl, (text.2 _ rfl).2 message rfl⟩
  · rintro ⟨number, text⟩
    have fits {v : Json} {type : String} (leaf : type ≠ "object" ∧ type ≠ "array")
        (same : v.typeName = type) : Fits v (ofExample v) :=
      fits_ofExample_of_bare (Json.fieldsOf_of_typeName (same ▸ leaf.1))
        (Json.itemsOf_of_typeName (same ▸ leaf.2)) rfl
    refine ⟨fun _ => ⟨rfl, ?_⟩, fun _ => ⟨rfl, ?_⟩, ?_⟩
    · rintro _ ⟨⟩
      refine ⟨rfl, ?_⟩
      rintro _ ⟨⟩
      exact number
    · rintro _ ⟨⟩
      refine ⟨rfl, ?_⟩
      rintro _ ⟨⟩
      exact text
    · rw [Json.kept, if_neg fun both => apart.2 both.1]
      refine fits_own_shape (List.forall_mem_singleton.mpr (fits_own_shape ?_))
      refine List.forall_mem_cons.mpr ⟨fits (by decide) number, ?_⟩
      exact List.forall_mem_singleton.mpr (fits (by decide) text)

theorem pathSteps_standard : pathSteps ({} : Settings).errorMessagePath = ["error", "message"] ∧
    pathSteps ({} : Settings).errorCodePath = ["error", "code"] := by decide +kernel

/-- Some operation may find nothing. -/
def ApiDocument.misses (doc : ApiDocument) : Bool :=
  doc.paths.operations.any fun o => (o.operation.responses.get? "404").isSome

theorem ApiDocument.exists_of_misses (found : doc.misses) : ∃ o ∈ doc.paths.operations,
    ∃ response, o.operation.responses.get? "404" = some response := by
  obtain ⟨o, listed, fails⟩ := List.any_eq_true.mp found
  exact ⟨o, listed, Option.isSome_iff_exists.mp fails⟩

theorem compile_errorSamples_of_citizens : ∃ s doc model o response sample,
    Document.citizens.resolve = .ok s ∧ s.compile .enveloped = .ok doc ∧
      doc.schemas.get? errorModelKey = some model ∧ o ∈ doc.paths.operations ∧
      o.operation.responses.get? "404" = some response ∧
      response.content = some (.json (.errorModel sample)) ∧ Fits sample model := by
  have passed : Document.citizens.passes .enveloped fun _ _ doc => doc.misses := by decide +kernel
  obtain ⟨s, _, doc, resolved, _, compiled, misses⟩ := Document.exists_of_passes passed
  obtain ⟨o, listed, response, found⟩ := ApiDocument.exists_of_misses misses
  have shaped : Settings.enveloped.errorShape =
      some (Settings.errorExample (.integer 0) (.string "")) := rfl
  obtain ⟨model, samples⟩ := compile_errorSamples resolved compiled shaped
  obtain ⟨sample, shown, fits⟩ := samples o listed "404" response found (by decide)
  have paths : pathSteps Settings.enveloped.errorMessagePath = ["error", "message"] ∧
      pathSteps Settings.enveloped.errorCodePath = ["error", "code"] := pathSteps_standard
  rw [paths.1, paths.2, takesErrors_errorExample_iff] at fits
  exact ⟨s, doc, _, o, response, sample, resolved, compiled, model, listed, found, shown,
    fits.mpr ⟨rfl, rfl⟩⟩

/-- Errors have a text for their code. -/
def Settings.worded : Settings where
  errorTemplate := some (errorExample (.string "") (.string ""))

/-- The model of errors has a text for the code, and the examples next to it have a number. -/
theorem errors_misfit : ∃ s doc model o response sample,
    Document.citizens.resolve = .ok s ∧ s.compile .worded = .ok doc ∧
      doc.schemas.get? errorModelKey = some model ∧ o ∈ doc.paths.operations ∧
      o.operation.responses.get? "404" = some response ∧
      response.content = some (.json (.errorModel sample)) ∧ ¬Fits sample model := by
  have passed : Document.citizens.passes .worded fun _ _ doc => doc.misses := by decide +kernel
  obtain ⟨s, _, doc, resolved, _, compiled, misses⟩ := Document.exists_of_passes passed
  obtain ⟨o, listed, response, found⟩ := ApiDocument.exists_of_misses misses
  have shaped : Settings.worded.errorShape =
      some (Settings.errorExample (.string "") (.string "")) := rfl
  obtain ⟨model, shows⟩ := showsError_of_compile resolved compiled shaped
  obtain ⟨message, code, shown⟩ := shows o listed "404" response found (by decide)
  have paths : pathSteps Settings.worded.errorMessagePath = ["error", "message"] ∧
      pathSteps Settings.worded.errorCodePath = ["error", "code"] := pathSteps_standard
  refine ⟨s, doc, _, o, response, _, resolved, compiled, model, listed, found, shown, ?_⟩
  rw [fits_fillError_iff, paths.1, paths.2, takesErrors_errorExample_iff]
  exact fun takes => absurd takes.1 (by decide)

end ObjectRole
