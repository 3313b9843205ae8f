import ObjectRole.Model.Document.Codec
import ObjectRole.Model.Snapshot.Codec
import ObjectRole.Proofs.Json.Fields
import ObjectRole.Proofs.Model.Resolution

/-! What is written of a model document or of a snapshot is read as the same again. -/
namespace ObjectRole

open Json (Decoder Holds Record holds_append)
open Json.Decoder Json.Record

variable {members : List (String × Json)}

theorem Facets.reads (f : Facets) (holds : Holds members f.encodeFields) :
    fields.Reads members f := by
  obtain ⟨pattern, enumeration, format, min_length, max_length, minimum, maximum,
    exclusive_minimum, exclusive_maximum, multiple_of, _⟩ := holds
  exact ((inverts_string.optional pattern).map Facets.mk)
    |>.seq (inverts_string.optional enumeration)
    |>.seq (inverts_string.optional format)
    |>.seq (inverts_uint64.optional min_length)
    |>.seq (inverts_uint64.optional max_length)
    |>.seq (inverts_number.optional minimum)
    |>.seq (inverts_number.optional maximum)
    |>.seq (inverts_number.optional exclusive_minimum)
    |>.seq (inverts_number.optional exclusive_maximum)
    |>.seq (inverts_number.optional multiple_of)

theorem Permission.inverts : listDecoder.Inverts encodeList := Spelled.inverts.array

/-- Facets stand among the fields of a noun, and are told from them by their names. -/
theorem NounDeclaration.inverts : decoder.Inverts encode := by
  refine ⟨fun n => recovers_withLater ?_ fun members holds => ?_, fun _ => nofun⟩
  · simp [Facets.encodeFields]
  · rw [holds_append, holds_append] at holds
    obtain ⟨⟨⟨name, plural, description, object_type, value_type, _⟩, facets⟩, reference_scheme,
      super_type, permissions, _⟩ := holds
    have scheme : (withDefault "referenceScheme" (.array string) []).Reads members
        n.referenceScheme := by
      cases listed : n.referenceScheme with
      | nil =>
        rw [listed] at reference_scheme
        exact reads_default reference_scheme []
      | cons first rest =>
        rw [listed] at reference_scheme
        exact inverts_string.array.withDefault reference_scheme []
    have own := ((inverts_string.required name).map fun name plural description objectType valueType
        referenceScheme superType permissions facets => (NounDeclaration.mk name plural description
          objectType valueType facets referenceScheme superType permissions))
      |>.seq (inverts_string.optional plural)
      |>.seq (inverts_string.optional description)
      |>.seq (Spelled.inverts.withDefault object_type .entity)
      |>.seq (Spelled.inverts.optional value_type)
      |>.seq scheme
      |>.seq (inverts_string.optional super_type)
      |>.seq (Permission.inverts.optional permissions)
    exact ⟨_, n.facets, own, n.facets.reads facets, rfl⟩

/-- The two forms of a reading are told apart by their kinds. -/
theorem ReadingDeclaration.inverts : decoder.Inverts encode := by
  constructor
  case recovers =>
    rintro (words | reading)
    · exact ((recovers_string words).map text).either_first.whole
    · refine Recovers.whole (.either_second (.map ?_ full) ?_)
      · refine recovers_named (by simp) fun members holds => ?_
        obtain ⟨text, http_verb, language, _⟩ := holds
        exact ((inverts_string.required text).map Reading.mk)
          |>.seq (Spelled.inverts.withDefault http_verb .get)
          |>.seq (inverts_string.withDefault language defaultLanguage)
      · intro k rearranged
        cases rearranged
        exact ⟨_, rfl⟩
  case solid => rintro (_ | _) <;> nofun

theorem FactTypeDeclaration.inverts : decoder.Inverts encode := by
  refine ⟨fun f => recovers_decode (by simp) fun members holds => ?_, fun _ => nofun⟩
  obtain ⟨name, description, plural, readings, roles, relationship, order, permissions, _⟩ := holds
  exact ((inverts_string.optional name).map FactTypeDeclaration.mk)
    |>.seq (inverts_string.optional description)
    |>.seq (inverts_string.optional plural)
    |>.seq (ReadingDeclaration.inverts.array.withDefault readings [])
    |>.seq (inverts_string.array.optional roles)
    |>.seq (Spelled.inverts.optional relationship)
    |>.seq (inverts_int64.optional order)
    |>.seq (Permission.inverts.optional permissions)

/-- A place is a number, and a player a text. -/
theorem RolePosition.inverts : decoder.Inverts encode := by
  constructor
  case recovers =>
    rintro (place | name)
    · exact ((recovers_uint64 place).map index).either_first.whole
    · refine Recovers.whole (((recovers_string name).map player).either_second ?_)
      intro k rearranged
      cases rearranged
      exact ⟨_, rfl⟩
  case solid => rintro (_ | _) <;> nofun

theorem RoleSelector.inverts : decoder.Inverts encode := by
  refine ⟨fun r => recovers_decode (by simp) fun members holds => ?_, fun _ => nofun⟩
  obtain ⟨fact_type, role, _⟩ := holds
  exact ((inverts_string.required fact_type).map RoleSelector.mk)
    |>.seq (RolePosition.inverts.required role)

theorem ConstraintDeclaration.inverts : decoder.Inverts encode := by
  refine ⟨fun c => recovers_decode (by simp) fun members holds => ?_, fun _ => nofun⟩
  obtain ⟨kind, modality, roles, _⟩ := holds
  exact ((Spelled.inverts.required kind).map ConstraintDeclaration.mk)
    |>.seq (Spelled.inverts.withDefault modality .alethic)
    |>.seq (RoleSelector.inverts.array.required roles)

theorem ExampleDeclaration.recovers {e : ExampleDeclaration}
    (orderly : ∀ value ∈ e.values, value.Orderly) : decoder.Recovers e.encode e := by
  refine recovers_decode (by simp) fun members holds => ?_
  obtain ⟨fact_type, values, _⟩ := holds
  exact ((inverts_string.required fact_type).map ExampleDeclaration.mk)
    |>.seq (reads_required values (recovers_array_free orderly))

theorem JsonExampleDeclaration.recovers {e : JsonExampleDeclaration} (orderly : e.value.Orderly) :
    decoder.Recovers e.encode e := by
  refine recovers_decode (by simp) fun members holds => ?_
  obtain ⟨noun, value, _⟩ := holds
  exact ((inverts_string.required noun).map JsonExampleDeclaration.mk)
    |>.seq (reads_required value (recovers_free orderly))

namespace Document

/-- Values of free form list the members of their objects in key order. -/
structure Orderly (d : Document) : Prop where
  examples : ∀ e ∈ d.examples, ∀ value ∈ e.values, value.Orderly
  json_examples : ∀ e ∈ d.jsonExamples, e.value.Orderly

theorem recovers {d : Document} (orderly : d.Orderly) : decoder.Recovers d.encode d := by
  refine recovers_decode (by simp) fun members holds => ?_
  obtain ⟨nouns, fact_types, constraints, examples, json_examples, _⟩ := holds
  exact ((NounDeclaration.inverts.array.withDefault nouns []).map Document.mk)
    |>.seq (FactTypeDeclaration.inverts.array.withDefault fact_types [])
    |>.seq (ConstraintDeclaration.inverts.array.withDefault constraints [])
    |>.seq (reads_withDefault examples (recovers_array_map fun e listed =>
      ExampleDeclaration.recovers (orderly.examples e listed)) [])
    |>.seq (reads_withDefault json_examples (recovers_array_map fun e listed =>
      JsonExampleDeclaration.recovers (orderly.json_examples e listed)) [])

/-- Every document that is read is orderly. -/
theorem yields_orderly : decoder.Yields Orderly := by
  have examples : ExampleDeclaration.decoder.Yields fun e => ∀ value ∈ e.values, value.Orderly :=
    yields_decode (.seq (.map (yields_any _) fun _ _ _ each => each)
      (yields_required yields_free.array "values"))
  have json_examples : JsonExampleDeclaration.decoder.Yields fun e => e.value.Orderly :=
    yields_decode (.seq (.map (yields_any _) fun _ _ _ own => own)
      (yields_required yields_free "example"))
  refine yields_decode (.seq (.seq
    (.seq (.seq (.map (yields_any _) ?_) (yields_any _)) (yields_any _))
    (yields_withDefault examples.array "examples" nofun))
    (yields_withDefault json_examples.array "jsonExamples" nofun))
  intro nouns _ factTypes _ constraints _ examples each jsonExamples each_json
  exact ⟨each, each_json⟩

end Document

open Snapshot (idDecoder encodeId encodePermissions)

/-- A number is read as the part that it was written for. -/
theorem inverts_id {α : Type} {make : UInt32 → α} {number : α → UInt32}
    (same : ∀ id, make (number id) = id) : (idDecoder make).Inverts (encodeId <| number ·) := by
  refine ⟨fun id => ?_, fun _ => nofun⟩
  have made := (recovers_uint32 (number id)).map make
  rw [same id] at made
  exact made

theorem NounId.inverts : (idDecoder NounId.mk).Inverts (encodeId ·.number) :=
  inverts_id fun _ => rfl

theorem FactTypeId.inverts : (idDecoder FactTypeId.mk).Inverts (encodeId ·.number) :=
  inverts_id fun _ => rfl

theorem RoleId.inverts : (idDecoder RoleId.mk).Inverts (encodeId ·.number) :=
  inverts_id fun _ => rfl

theorem ConstraintId.inverts : (idDecoder ConstraintId.mk).Inverts (encodeId ·.number) :=
  inverts_id fun _ => rfl

/-- What a player is stands beside its number. -/
theorem Player.inverts : decoder.Inverts encode := by
  have each {kind : String} {make : UInt32 → Player}
      (found : kinds.lookup kind = some make) (number : UInt32) : decoder.Recovers
        (.record [("kind", some (.string kind)), ("id", some (encodeId number))]) (make number) := by
    refine recovers_decode (by simp) fun members holds => ?_
    obtain ⟨kind, id, _⟩ := holds
    exact ((reads_required kind (recovers_choice found)).map fun make id => make id)
      |>.seq (reads_required id (recovers_uint32 number))
  constructor
  case recovers =>
    have noun : kinds.lookup "noun" = some fun number => .noun ⟨number⟩ := rfl
    have fact_type : kinds.lookup "fact_type" = some fun number => .factType ⟨number⟩ := rfl
    rintro (id | id)
    · exact each noun id.number
    · exact each fact_type id.number
  case solid => rintro (_ | _) <;> nofun

theorem Noun.inverts : decoder.Inverts encode := by
  refine ⟨fun n => recovers_object (by simp) fun members holds => ?_, fun _ => nofun⟩
  obtain ⟨id, name, plural, description, object_type, value_type, facets, reference_scheme,
    super_type, permissions, _⟩ := holds
  have facets_recovered : Decoder.Recovers (Record.decode Facets.fields)
      (.record n.facets.encodeFields) n.facets :=
    recovers_decode (by simp [Facets.encodeFields]) fun members holds => n.facets.reads holds
  exact ((NounId.inverts.required id).map Noun.mk)
    |>.seq (inverts_string.required name)
    |>.seq (inverts_string.nullable plural)
    |>.seq (inverts_string.nullable description)
    |>.seq (Spelled.inverts.required object_type)
    |>.seq (Spelled.inverts.nullable value_type)
    |>.seq (reads_required facets facets_recovered)
    |>.seq (NounId.inverts.array.required reference_scheme)
    |>.seq (NounId.inverts.nullable super_type)
    |>.seq (Spelled.inverts.array.nullable permissions)

theorem Reading.inverts : decoder.Inverts encode := by
  refine ⟨fun r => recovers_object (by simp) fun members holds => ?_, fun _ => nofun⟩
  obtain ⟨text, http_verb, language, _⟩ := holds
  exact ((inverts_string.required text).map Reading.mk)
    |>.seq (Spelled.inverts.required http_verb)
    |>.seq (inverts_string.required language)

theorem FactType.inverts : decoder.Inverts encode := by
  refine ⟨fun f => recovers_object (by simp) fun members holds => ?_, fun _ => nofun⟩
  obtain ⟨id, name, description, plural, readings, roles, order, permissions, _⟩ := holds
  exact ((FactTypeId.inverts.required id).map FactType.mk)
    |>.seq (inverts_string.nullable name)
    |>.seq (inverts_string.nullable description)
    |>.seq (inverts_string.nullable plural)
    |>.seq (Reading.inverts.array.required readings)
    |>.seq (RoleId.inverts.array.required roles)
    |>.seq (inverts_int64.nullable order)
    |>.seq (Spelled.inverts.array.nullable permissions)

theorem Role.inverts : decoder.Inverts encode := by
  refine ⟨fun r => recovers_object (by simp) fun members holds => ?_, fun _ => nofun⟩
  obtain ⟨id, fact_type, player, _⟩ := holds
  exact ((RoleId.inverts.required id).map Role.mk)
    |>.seq (FactTypeId.inverts.required fact_type)
    |>.seq (Player.inverts.required player)

theorem Constraint.inverts : decoder.Inverts encode := by
  refine ⟨fun c => recovers_object (by simp) fun members holds => ?_, fun _ => nofun⟩
  obtain ⟨id, kind, modality, _⟩ := holds
  exact ((ConstraintId.inverts.required id).map Constraint.mk)
    |>.seq (Spelled.inverts.required kind)
    |>.seq (Spelled.inverts.required modality)

theorem Span.inverts : decoder.Inverts encode := by
  refine ⟨fun s => recovers_object (by simp) fun members holds => ?_, fun _ => nofun⟩
  obtain ⟨constraint, roles, _⟩ := holds
  exact ((ConstraintId.inverts.required constraint).map Span.mk)
    |>.seq (RoleId.inverts.array.required roles)

theorem Example.recovers {e : Example} (orderly : ∀ value ∈ e.values, value.Orderly) :
    decoder.Recovers e.encode e := by
  refine recovers_object (by simp) fun members holds => ?_
  obtain ⟨fact_type, values, _⟩ := holds
  exact ((FactTypeId.inverts.required fact_type).map Example.mk)
    |>.seq (reads_required values (recovers_array_free orderly))

theorem JsonExample.recovers {e : JsonExample} (orderly : e.value.Orderly) :
    decoder.Recovers e.encode e := by
  refine recovers_object (by simp) fun members holds => ?_
  obtain ⟨subject, value, _⟩ := holds
  exact ((Player.inverts.required subject).map JsonExample.mk)
    |>.seq (reads_required value (recovers_free orderly))

namespace Snapshot

/-- Values of free form list the members of their objects in key order. -/
structure Orderly (s : Snapshot) : Prop where
  examples : ∀ e ∈ s.examples, ∀ value ∈ e.values, value.Orderly
  json_examples : ∀ e ∈ s.jsonExamples, e.value.Orderly

theorem recovers {s : Snapshot} (orderly : s.Orderly) : decoder.Recovers s.encode s := by
  refine recovers_object (by simp) fun members holds => ?_
  obtain ⟨nouns, fact_types, roles, constraints, spans, examples, json_examples, _⟩ := holds
  exact ((Noun.inverts.array.required nouns).map Snapshot.mk)
    |>.seq (FactType.inverts.array.required fact_types)
    |>.seq (Role.inverts.array.required roles)
    |>.seq (Constraint.inverts.array.required constraints)
    |>.seq (Span.inverts.array.required spans)
    |>.seq (reads_required examples (recovers_array_map fun e listed =>
      Example.recovers (orderly.examples e listed)))
    |>.seq (reads_required json_examples (recovers_array_map fun e listed =>
      JsonExample.recovers (orderly.json_examples e listed)))

/-- Every snapshot that is read is orderly. -/
theorem yields_orderly : decoder.Yields Orderly := by
  have examples : Example.decoder.Yields fun e => ∀ value ∈ e.values, value.Orderly :=
    yields_decode (.seq (.map (yields_any _) fun _ _ _ each => each)
      (yields_required yields_free.array "values"))
  have json_examples : JsonExample.decoder.Yields fun e => e.value.Orderly :=
    yields_decode (.seq (.map (yields_any _) fun _ _ _ own => own)
      (yields_required yields_free "example"))
  refine yields_decode (.seq (.seq (.seq (.seq (.seq (.seq (.map (yields_any _) ?_) (yields_any _))
    (yields_any _)) (yields_any _)) (yields_any _))
    (yields_required examples.array "examples"))
    (yields_required json_examples.array "json_examples"))
  intro nouns _ factTypes _ roles _ constraints _ spans _ examples each jsonExamples each_json
  exact ⟨each, each_json⟩

end Snapshot

open Document in
/-- What a document resolves to has its values of free form. -/
theorem Document.Orderly.resolve {d : Document} {s : Snapshot} (orderly : d.Orderly)
    (resolved : d.resolve = .ok s) : s.Orderly := by
  obtain ⟨_, parts, _, _, rules, _, examples, examples_made, jsonExamples, json_made, rfl, _⟩ :=
    resolve_eq_ok_iff.mp resolved
  constructor
  case examples =>
    intro e listed
    obtain ⟨declared, inside, made⟩ := exists_of_forall₂ examples_made.flip listed
    obtain ⟨id, _, _, rfl⟩ := resolveExample_eq_ok_iff.mp made
    exact orderly.examples declared inside
  case json_examples =>
    intro e listed
    obtain ⟨declared, inside, made⟩ := exists_of_forall₂ json_made.flip listed
    obtain ⟨player, _, rfl⟩ := map_eq_ok_iff.mp made
    exact orderly.json_examples declared inside

/-- What a document or a snapshot is written as is decoded as that document or snapshot again,
in whatever order the members of objects come. Their values of free form list the members of objects
in key order, as they do in all documents and snapshots that are read. -/
theorem models_decode_encode :
    (∀ d : Document, d.Orderly →
      Json.decode Document.decoder d.encode = .ok d ∧
        ∀ j, d.encode.Rearranged j → Json.decode Document.decoder j = .ok d) ∧
    (∀ s : Snapshot, s.Orderly →
      Json.decode Snapshot.decoder s.encode = .ok s ∧
        ∀ j, s.encode.Rearranged j → Json.decode Snapshot.decoder j = .ok s) ∧
    (∀ draft d, Document.decoder draft = .ok d → d.Orderly) ∧
    ∀ draft s, Snapshot.decoder draft = .ok s → s.Orderly :=
  ⟨fun _ orderly => ⟨(Document.recovers orderly).decode (.refl _),
      fun _ => (Document.recovers orderly).decode⟩,
    fun _ orderly => ⟨(Snapshot.recovers orderly).decode (.refl _),
      fun _ => (Snapshot.recovers orderly).decode⟩,
    Document.yields_orderly, Snapshot.yields_orderly⟩

/-- Shelves hold volumes with signatures. An example has no shelf yet. -/
def Document.archive : Document where
  nouns := [
    { name := "Shelf", plural := some "Shelves", permissions := some [.read, .list] },
    { name := "Volume", referenceScheme := ["Signature"] },
    { name := "Signature", objectType := .value, valueType := some .string,
      facets := { pattern := some "[A-Z]+", maxLength := some 8, minimum := some (.integer 0) } }]
  factTypes := [
    { readings := [.text "Volume stands on Shelf", .full ⟨"Shelf holds Volume", .post, "en"⟩],
      relationship := some .manyToOne, order := some (-1) }]
  constraints := [{
    kind := .mandatory
    modality := .deontic
    roles := [⟨"Volume stands on Shelf", .index 0⟩, ⟨"Volume stands on Shelf", .player "Shelf"⟩] }]
  examples := [⟨"Volume stands on Shelf", [.object [("Age", .integer 7), ("Name", .null)], .null]⟩]
  jsonExamples := [⟨"Shelf", .null⟩]

theorem Document.archive_orderly : Document.archive.Orderly := by
  have ordered : Json.Orderly (.object [("Age", .integer 7), ("Name", .null)]) := by
    refine ⟨?_, trivial, trivial, trivial⟩
    simp only [Entries.Ordered, List.pairwise_pair]
    decide
  constructor
  case examples =>
    simp only [Document.archive, List.forall_mem_singleton]
    exact List.forall_mem_cons.mpr ⟨ordered, List.forall_mem_singleton.mpr trivial⟩
  case json_examples =>
    simp only [Document.archive, List.forall_mem_singleton]
    trivial

theorem models_decode_encode_of_archive : Document.archive.Orderly ∧ ∃ s fields,
    Document.archive.resolve = .ok s ∧ s.Orderly ∧ s.encode = .object fields ∧
      Json.decode Document.decoder Document.archive.encode = .ok Document.archive ∧
      Json.decode Snapshot.decoder (.object fields.reverse) = .ok s := by
  have orderly := Document.archive_orderly
  have resolves : Document.archive.resolve.toOption.isSome = true := by decide +kernel
  obtain ⟨s, found⟩ := Option.isSome_iff_exists.mp resolves
  have resolved := eq_ok_of_toOption found
  have orderly_too := orderly.resolve resolved
  have reversed : s.encode.Rearranged (.object (List.reverse _)) :=
    .object (Json.rearrangedFields_refl _) (List.reverse_perm _).symm
  exact ⟨orderly, s, _, resolved, orderly_too, rfl, (models_decode_encode.1 _ orderly).1,
    (models_decode_encode.2.1 s orderly_too).2 _ reversed⟩

end ObjectRole
