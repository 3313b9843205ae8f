import ObjectRole.Proofs.Api.Orderly
import ObjectRole.Proofs.Schema.RoundTrip

/-! What is written of an OpenAPI document is read as the same document again. -/
namespace ObjectRole

open Json (Decoder Holds Record)
open Json.Decoder Json.Record

instance : Spelled.Faithful ParameterLocation := ⟨fun a => by cases a <;> rfl⟩

theorem Contact.inverts : decoder.Inverts encode := by
  refine ⟨fun c => recovers_decode (by simp) fun members holds => ?_, fun _ => nofun⟩
  obtain ⟨email, name, url, _⟩ := holds
  exact ((inverts_string.optional email).map Contact.mk)
    |>.seq (inverts_string.optional name)
    |>.seq (inverts_string.optional url)

theorem Info.inverts : decoder.Inverts encode := by
  refine ⟨fun i => recovers_decode (by simp) fun members holds => ?_, fun _ => nofun⟩
  obtain ⟨title, version, contact, description, _⟩ := holds
  exact ((inverts_string.optional title).map Info.mk)
    |>.seq (inverts_string.optional version)
    |>.seq (Contact.inverts.optional contact)
    |>.seq (inverts_string.optional description)

theorem Parameter.recovers {p : Parameter} (orderly : p.schema.Orderly) :
    decoder.Recovers p.encode p := by
  refine recovers_decode (by simp) fun members holds => ?_
  obtain ⟨name, location, required, description, schema, _⟩ := holds
  exact ((inverts_string.required name).map Parameter.mk)
    |>.seq (Spelled.inverts.required location)
    |>.seq (inverts_bool.optional required)
    |>.seq (inverts_string.optional description)
    |>.seq (reads_required schema (Schema.recovers orderly))

theorem Parameter.reads_list {members : List (String × Json)} {name : String}
    {parameters : Option (List Parameter)}
    (held : Option.Rel Json.Rearranged (parameters.map encodeList) (Entries.get? name members))
    (orderly : ∀ schema ∈ Parameter.schemas parameters, schema.Orderly) :
    (optional name listDecoder).Reads members parameters := by
  refine reads_optional held (fun list => by simp [encodeList]) ?_
  rintro list rfl
  exact recovers_array_map fun p listed =>
    Parameter.recovers (orderly p.schema (List.mem_map_of_mem listed))

theorem Content.recovers {content : Content}
    (orderly : ∀ schema ∈ Content.schemas content, schema.Orderly) :
    decoder.Recovers content.encode content := by
  refine recovers_encode fun entry listed => recovers_object (by simp) fun members holds => ?_
  obtain ⟨schema, _⟩ := holds
  have own : entry.2.schema.Orderly :=
    orderly _ (List.mem_map_of_mem (List.mem_map_of_mem listed))
  exact (reads_required schema (Schema.recovers own)).map MediaType.mk

theorem Response.recovers {r : Response} (orderly : ∀ schema ∈ r.schemas, schema.Orderly) :
    decoder.Recovers r.encode r := by
  refine recovers_decode (by simp) fun members holds => ?_
  obtain ⟨description, content, _⟩ := holds
  have each : ∀ c ∈ r.content, Content.decoder.Recovers c.encode c := fun c found =>
    Content.recovers fun schema inside => orderly schema
      (List.mem_flatMap.mpr ⟨c, Option.mem_toList.mpr found, inside⟩)
  exact ((inverts_string.required description).map Response.mk)
    |>.seq (reads_optional content (fun _ => nofun) each)

theorem RequestBody.recovers {b : RequestBody} (orderly : ∀ schema ∈ b.schemas, schema.Orderly) :
    decoder.Recovers b.encode b := by
  refine recovers_object (by simp) fun members holds => ?_
  obtain ⟨content, _⟩ := holds
  exact (reads_required content (Content.recovers orderly)).map RequestBody.mk

theorem Operation.recovers {o : Operation} (orderly : ∀ schema ∈ o.schemas, schema.Orderly) :
    decoder.Recovers o.encode o := by
  refine recovers_decode (by simp) fun members holds => ?_
  obtain ⟨summary, operation_id, parameters, request, responses, _⟩ := holds
  simp only [Operation.schemas, List.forall_mem_append, List.forall_mem_flatMap] at orderly
  obtain ⟨⟨own, requested⟩, responded⟩ := orderly
  have bodies : ∀ b ∈ o.requestBody, RequestBody.decoder.Recovers b.encode b := fun b found =>
    RequestBody.recovers (requested b (Option.mem_toList.mpr found))
  have answers : ∀ entry ∈ o.responses.entries,
      Response.decoder.Recovers entry.2.encode entry.2 := fun entry listed =>
    Response.recovers (responded entry.2 (List.mem_map_of_mem listed))
  exact ((inverts_string.required summary).map Operation.mk)
    |>.seq (inverts_string.required operation_id)
    |>.seq (Parameter.reads_list parameters own)
    |>.seq (reads_optional request (fun b => by simp [RequestBody.encode]) bodies)
    |>.seq (reads_required responses (recovers_encode answers))

theorem PathItem.recovers {p : PathItem} {path : String}
    (orderly : ∀ placed ∈ p.placedSchemas path, placed.2.Orderly) :
    decoder.Recovers p.encode p := by
  refine recovers_decode (by simp) fun members holds => ?_
  obtain ⟨parameters, get, post, patch, delete, _⟩ := holds
  simp only [PathItem.placedSchemas, List.forall_mem_append, List.forall_mem_flatMap,
    List.forall_mem_map] at orderly
  obtain ⟨own, operations⟩ := orderly
  have each {name : String} {o? : Option Operation}
      (held : Option.Rel Json.Rearranged (o?.map Operation.encode) (Entries.get? name members))
      (listed : o? ∈ [p.get, p.post, p.patch, p.delete]) :
      (Record.optional name Operation.decoder).Reads members o? := by
    refine reads_optional held (fun o => by simp [Operation.encode, Json.record]) fun o found => ?_
    exact Operation.recovers (operations o (List.mem_filterMap.mpr ⟨o?, listed, found⟩))
  exact ((Parameter.reads_list parameters own).map PathItem.mk)
    |>.seq (each get (by simp))
    |>.seq (each post (by simp))
    |>.seq (each patch (by simp))
    |>.seq (each delete (by simp))

namespace ApiDocument

theorem recovers {d : ApiDocument} (orderly : d.Orderly) (some_servers : d.servers ≠ some .null) :
    decoder.Recovers d.encode d := by
  refine recovers_decode (by simp) fun members holds => ?_
  obtain ⟨version, info, servers, paths, components, _⟩ := holds
  have placed := orderly.schemas
  simp only [placedSchemas, List.forall_mem_append, List.forall_mem_flatMap,
    List.forall_mem_map] at placed
  obtain ⟨own, items⟩ := placed
  have held_servers : (Record.optional "servers" free).Reads members d.servers := by
    cases found : d.servers with
    | none =>
      rw [found] at servers
      exact reads_default servers none
    | some v =>
      rw [found] at servers some_servers
      have solid : v ≠ .null := fun null => some_servers (congrArg some null)
      exact reads_withDefault servers ((recovers_free (orderly.servers v found)).some solid) none
  have held_schemas : Decoder.Recovers (Record.decode (id <$> .required "schemas"
      SchemaMap.decoder)) (.object [("schemas", SchemaMap.encode d.schemas)]) d.schemas := by
    refine recovers_object (by simp) fun members holds => ?_
    obtain ⟨schemas, _⟩ := holds
    exact (reads_required schemas (recovers_encode fun entry listed =>
      Schema.recovers (own entry listed))).map id
  exact ((inverts_string.required version).map ApiDocument.mk)
    |>.seq (Info.inverts.required info)
    |>.seq held_servers
    |>.seq (reads_required paths (recovers_encode fun entry listed =>
      PathItem.recovers (items entry listed)))
    |>.seq (reads_required components held_schemas)

end ApiDocument

/-! Whatever is read is orderly. -/

theorem Parameter.yields_orderly : decoder.Yields (·.schema.Orderly) := by
  refine yields_decode (.seq ?_ (yields_required Schema.yields_orderly "schema"))
  iterate 3 refine .seq ?_ (yields_any _)
  exact .map (yields_any _) fun _ _ _ _ _ _ _ _ _ own => own

theorem Parameter.yields_orderly_list (name : String) : (optional name listDecoder).Yields
    fun parameters => ∀ schema ∈ Parameter.schemas parameters, schema.Orderly := by
  intro slot parameters ran
  have each := yields_optional Parameter.yields_orderly.array name slot parameters ran
  exact List.forall_mem_map.mpr (Schema.forall_mem_getD each)

theorem Content.yields_orderly :
    decoder.Yields fun content => ∀ schema ∈ Content.schemas content, schema.Orderly := by
  have media : Decoder.Yields (Record.decode (MediaType.mk <$>
      .required "schema" Schema.decoder)) (·.schema.Orderly) :=
    yields_decode (.map (yields_required Schema.yields_orderly "schema") fun _ own => own)
  intro draft content decoded
  exact List.forall_mem_map.mpr (List.forall_mem_map.mpr (media.dict draft content decoded))

theorem Response.yields_orderly :
    decoder.Yields fun r => ∀ schema ∈ r.schemas, schema.Orderly := by
  refine yields_decode (.seq (.map (yields_any _) ?_)
    (yields_optional Content.yields_orderly "content"))
  intro description _ content each
  exact List.forall_mem_flatMap.mpr fun c listed => each c (Option.mem_toList.mp listed)

theorem RequestBody.yields_orderly :
    decoder.Yields fun b => ∀ schema ∈ b.schemas, schema.Orderly :=
  yields_decode (.map (yields_required Content.yields_orderly "content") fun _ each => each)

theorem Operation.yields_orderly :
    decoder.Yields fun o => ∀ schema ∈ o.schemas, schema.Orderly := by
  refine yields_decode (.seq ?_ (yields_required Response.yields_orderly.dict "responses"))
  refine .seq ?_ (yields_optional RequestBody.yields_orderly "requestBody")
  refine .seq ?_ (Parameter.yields_orderly_list "parameters")
  refine .seq (.map (yields_any _) ?_) (yields_any _)
  intro summary _ operationId _ parameters own request requested responses responded
  simp only [Operation.schemas, List.forall_mem_append, List.forall_mem_flatMap]
  exact ⟨⟨own, fun b listed => requested b (Option.mem_toList.mp listed)⟩,
    List.forall_mem_map.mpr responded⟩

theorem PathItem.yields_orderly : decoder.Yields fun p =>
    ∀ path, ∀ placed ∈ p.placedSchemas path, placed.2.Orderly := by
  have slot (name : String) : (optional name Operation.decoder).Yields
      fun o? => ∀ o ∈ o?, ∀ schema ∈ o.schemas, schema.Orderly :=
    yields_optional Operation.yields_orderly name
  refine yields_decode (.seq (.seq (.seq (.seq
    (.map (Parameter.yields_orderly_list "parameters") ?_) (slot "get")) (slot "post"))
    (slot "patch")) (slot "delete"))
  intro parameters own get got post posted patch patched delete deleted path
  simp only [PathItem.placedSchemas, List.forall_mem_append, List.forall_mem_flatMap,
    List.forall_mem_map]
  refine ⟨own, fun o listed => ?_⟩
  obtain ⟨o?, inside, same⟩ := List.mem_filterMap.mp listed
  simp only [List.mem_cons, List.not_mem_nil, or_false] at inside
  rcases inside with rfl | rfl | rfl | rfl
  · exact got o same
  · exact posted o same
  · exact patched o same
  · exact deleted o same

/-- Besides, no document is read with servers that are null. -/
theorem ApiDocument.yields_orderly :
    decoder.Yields fun d => d.Orderly ∧ d.servers ≠ some .null := by
  have components : Decoder.Yields (Record.decode (id <$> .required "schemas"
      SchemaMap.decoder)) fun schemas => ∀ entry ∈ schemas.entries, entry.2.Orderly :=
    yields_decode (.map (yields_required Schema.yields_orderly.dict "schemas") fun _ each => each)
  refine yields_decode (.seq ?_ (yields_required components "components"))
  refine .seq ?_ (yields_required PathItem.yields_orderly.dict "paths")
  refine .seq ?_ (yields_withDefault yields_nullable_free "servers" nofun)
  refine .seq (.map (yields_any _) ?_) (yields_any _)
  intro version _ info _ servers values paths items schemas own
  refine ⟨⟨fun v found => (values v found).1, ?_⟩, fun null => (values .null null).2 rfl⟩
  simp only [ApiDocument.placedSchemas, List.forall_mem_append, List.forall_mem_flatMap,
    List.forall_mem_map]
  exact ⟨own, fun entry listed => items entry listed entry.1⟩

/-- What an OpenAPI document is written as is decoded as that document again, in whatever order the
members of objects come, unless its servers are an explicit null. Properties and the members of
values of free form are in key order, as in all documents that are compiled and all that are
read. -/
theorem api_decode_encode :
    (∀ d : ApiDocument, d.Orderly → d.servers ≠ some .null →
      Json.decode ApiDocument.decoder d.encode = .ok d ∧
        ∀ j, d.encode.Rearranged j → Json.decode ApiDocument.decoder j = .ok d) ∧
    (∀ (s : Snapshot) (settings : Settings) (d : ApiDocument), s.Orderly → settings.Orderly →
      s.compile settings = .ok d → d.Orderly ∧ d.servers ≠ some .null ∧
        Json.decode ApiDocument.decoder d.encode = .ok d) ∧
    ∀ draft d, ApiDocument.decoder draft = .ok d → d.Orderly ∧ d.servers ≠ some .null ∧
      Json.decode ApiDocument.decoder d.encode = .ok d := by
  have again {d : ApiDocument} (orderly : d.Orderly) (some_servers : d.servers ≠ some .null)
      {j : Json} (rearranged : d.encode.Rearranged j) :
      Json.decode ApiDocument.decoder j = .ok d :=
    (ApiDocument.recovers orderly some_servers).decode rearranged
  refine ⟨?_, ?_, ?_⟩
  · exact fun d orderly some_servers =>
      ⟨again orderly some_servers (.refl _), fun _ => again orderly some_servers⟩
  · intro s settings d orderly fair compiled
    obtain ⟨finished, some_servers⟩ := orderly.compile fair compiled
    exact ⟨finished, some_servers, again finished some_servers (.refl _)⟩
  · intro draft d decoded
    obtain ⟨orderly, some_servers⟩ := ApiDocument.yields_orderly draft d decoded
    exact ⟨orderly, some_servers, again orderly some_servers (.refl _)⟩

/-- The document of the archive is written with a list of servers, and in envelopes. -/
def Settings.archive : Settings where
  title := some "Archive"
  servers := some (.array [.object [("description", .null), ("url", .string "/")]])
  globalWrapperTemplate := some (.object [("data", .null)])
  errorTemplate := some (.object [("error", .object [("code", .integer 0), ("message", .null)])])

theorem api_decode_encode_of_archive : Settings.archive.Orderly ∧ ∃ s d fields,
    Document.archive.resolve = .ok s ∧ s.Orderly ∧ s.compile .archive = .ok d ∧
      d.servers.isSome ∧ d.encode = .object fields ∧
      Json.decode ApiDocument.decoder d.encode = .ok d ∧
      Json.decode ApiDocument.decoder (.object fields.reverse) = .ok d := by
  have orderly_pair {first second : String} (before : first < second) {v w : Json}
      (own : v.Orderly) (other : w.Orderly) : Json.Orderly (.object [(first, v), (second, w)]) := by
    refine ⟨?_, own, other, trivial⟩
    simpa only [Entries.Ordered, List.pairwise_pair] using before
  have fair : Settings.archive.Orderly := by
    constructor
    case servers =>
      rintro v ⟨⟩
      exact ⟨orderly_pair (by decide) trivial trivial, trivial⟩
    case wrapper =>
      rintro v ⟨⟩
      exact ⟨List.pairwise_singleton _ _, trivial, trivial⟩
    case errors =>
      rintro v ⟨⟩
      exact ⟨List.pairwise_singleton _ _, orderly_pair (by decide) trivial trivial, trivial⟩
  have passed : Document.archive.passes .archive fun _ _ d => d.servers.isSome := by
    decide +kernel
  obtain ⟨s, _, d, resolved, _, compiled, served⟩ := Document.exists_of_passes passed
  have orderly := Document.archive_orderly.resolve resolved
  obtain ⟨finished, some_servers, again⟩ := api_decode_encode.2.1 s .archive d orderly fair compiled
  have reversed : d.encode.Rearranged (.object (List.reverse _)) :=
    .object (Json.rearrangedFields_refl _) (List.reverse_perm _).symm
  exact ⟨fair, s, d, _, resolved, orderly, compiled, served, rfl, again,
    (api_decode_encode.1 d finished some_servers).2 _ reversed⟩

end ObjectRole
