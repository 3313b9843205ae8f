import ObjectRole.Proofs.Api.References
import ObjectRole.Proofs.Schema.Variants

/-! Documents that differ in their schemas only. Changing all schemas of a document leads to such a
one. What the schemas of a document tell in their order, with their places, pins down which variant
of another it is: no schema of it is left out. -/
namespace ObjectRole

/-- Two maps with the same keys, whose values are related. -/
def Dict.Rel {α β : Type} (R : α → β → Prop) (d : Dict α) (e : Dict β) : Prop :=
  List.Forall₂ (fun a b => b.1 = a.1 ∧ R a.2 b.2) d.entries e.entries

section Rel

/-! Parts of documents that differ in their schemas only, and these are related place by place. -/

variable (R : Schema → Schema → Prop)

def Parameter.Rel (p q : Parameter) : Prop :=
  q = { p with schema := q.schema } ∧ R p.schema q.schema

def MediaType.Rel (a b : MediaType) : Prop := R a.schema b.schema

def RequestBody.Rel (a b : RequestBody) : Prop := Dict.Rel (MediaType.Rel R) a.content b.content

def Response.Rel (a b : Response) : Prop :=
  b = { a with content := b.content } ∧ Option.Rel (Dict.Rel (MediaType.Rel R)) a.content b.content

structure Operation.Rel (o p : Operation) : Prop where
  others : p = { o with
    parameters := p.parameters, requestBody := p.requestBody, responses := p.responses }
  parameters : Option.Rel (List.Forall₂ (Parameter.Rel R)) o.parameters p.parameters
  requestBody : Option.Rel (RequestBody.Rel R) o.requestBody p.requestBody
  responses : Dict.Rel (Response.Rel R) o.responses p.responses

structure PathItem.Rel (p q : PathItem) : Prop where
  parameters : Option.Rel (List.Forall₂ (Parameter.Rel R)) p.parameters q.parameters
  get : Option.Rel (Operation.Rel R) p.get q.get
  post : Option.Rel (Operation.Rel R) p.post q.post
  patch : Option.Rel (Operation.Rel R) p.patch q.patch
  delete : Option.Rel (Operation.Rel R) p.delete q.delete

structure ApiDocument.Rel (d e : ApiDocument) : Prop where
  others : e = { d with paths := e.paths, schemas := e.schemas }
  paths : Dict.Rel (PathItem.Rel R) d.paths e.paths
  schemas : Dict.Rel R d.schemas e.schemas

end Rel

/-! ### Changing all schemas -/

section Change

variable {R : Schema → Schema → Prop} {f : Schema → Schema}

theorem option_rel_map {α β : Type} {R : α → β → Prop} {f : α → β} (each : ∀ a, R a (f a)) :
    ∀ o : Option α, Option.Rel R o (o.map f)
  | none => .none
  | some a => .some (each a)

theorem forall₂_map {α β : Type} {R : α → β → Prop} {f : α → β} (each : ∀ a, R a (f a))
    (l : List α) : List.Forall₂ R l (l.map f) :=
  List.forall₂_map_right_iff.mpr (List.forall₂_same.mpr fun a _ => each a)

theorem Dict.rel_mapValues {α β : Type} {R : α → β → Prop} {f : α → β} (each : ∀ a, R a (f a))
    (d : Dict α) : d.Rel R (d.mapValues f) :=
  forall₂_map (fun entry => ⟨rfl, each entry.2⟩) d.entries

variable (each : ∀ s, R s (f s))
include each

theorem Parameter.rel_mapSchemas (parameters : Option (List Parameter)) :
    Option.Rel (List.Forall₂ (Parameter.Rel R)) parameters (mapSchemas f parameters) :=
  option_rel_map (forall₂_map fun p => ⟨rfl, each p.schema⟩) parameters

theorem Content.rel_mapSchemas (content : Content) :
    Dict.Rel (MediaType.Rel R) content (mapSchemas f content) :=
  have each_media : ∀ media : MediaType, MediaType.Rel R media ⟨f media.schema⟩ :=
    fun media => each media.schema
  Dict.rel_mapValues each_media content

theorem RequestBody.rel_mapSchemas (body : RequestBody) :
    body.Rel R ⟨Content.mapSchemas f body.content⟩ := Content.rel_mapSchemas each body.content

theorem Operation.rel_mapSchemas (o : Operation) : o.Rel R (o.mapSchemas f) where
  others := rfl
  parameters := Parameter.rel_mapSchemas each o.parameters
  requestBody := option_rel_map (RequestBody.rel_mapSchemas each) _
  responses :=
    Dict.rel_mapValues (fun _ => ⟨rfl, option_rel_map (Content.rel_mapSchemas each) _⟩) _

theorem PathItem.rel_mapSchemas (p : PathItem) : p.Rel R (p.mapSchemas f) where
  parameters := Parameter.rel_mapSchemas each p.parameters
  get := option_rel_map (Operation.rel_mapSchemas each) p.get
  post := option_rel_map (Operation.rel_mapSchemas each) p.post
  patch := option_rel_map (Operation.rel_mapSchemas each) p.patch
  delete := option_rel_map (Operation.rel_mapSchemas each) p.delete

theorem ApiDocument.rel_mapSchemas (d : ApiDocument) : d.Rel R (d.mapSchemas f) where
  others := rfl
  paths := Dict.rel_mapValues (PathItem.rel_mapSchemas each) d.paths
  schemas := Dict.rel_mapValues each d.schemas

end Change

/-! ### What the schemas tell -/

section Tell

variable {R : Schema → Schema → Prop} {ρ : Type}

theorem Operation.flatMap_schemas (g : Schema → List ρ) (o : Operation) : o.schemas.flatMap g =
    (Parameter.schemas o.parameters).flatMap g ++
      (o.requestBody.toList.flatMap (fun body => (RequestBody.schemas body).flatMap g) ++
        o.responses.entries.flatMap fun entry => (Response.schemas entry.2).flatMap g) := by
  simp [schemas, Dict.values, List.flatMap_append, List.flatMap_assoc, List.flatMap_map]

theorem PathItem.flatMap_placedSchemas (g : String → Schema → List ρ) (path : String)
    (p : PathItem) : ((p.placedSchemas path).flatMap fun placed => g placed.1 placed.2) =
      (Parameter.schemas p.parameters).flatMap (g path) ++
        p.operations.flatMap fun o => o.schemas.flatMap (g s!"{path} ({o.operationId})") := by
  simp [placedSchemas, List.flatMap_append, List.flatMap_assoc, List.flatMap_map]

theorem PathItem.flatMap_operations (h : Operation → List ρ) (p : PathItem) :
    p.operations.flatMap h = p.get.toList.flatMap h ++ (p.post.toList.flatMap h ++
      (p.patch.toList.flatMap h ++ p.delete.toList.flatMap h)) := by
  obtain ⟨_, get, post, patch, delete⟩ := p
  cases get <;> cases post <;> cases patch <;> cases delete <;> simp [operations]

theorem ApiDocument.flatMap_placedSchemas (g : String → Schema → List ρ) (d : ApiDocument) :
    (d.placedSchemas.flatMap fun placed => g placed.1 placed.2) =
      (d.schemas.entries.flatMap fun entry => g s!"components.schemas.{entry.1}" entry.2) ++
        d.paths.entries.flatMap fun entry =>
          (entry.2.placedSchemas entry.1).flatMap fun placed => g placed.1 placed.2 := by
  simp [placedSchemas, List.flatMap_append, List.flatMap_assoc, List.flatMap_map]

theorem Dict.pinned {α : Type} {R : α → α → Prop} {f : String → α → List ρ}
    (each : ∀ key a, Pinned R (f key) a) (d : Dict α) :
    Pinned (Dict.Rel R) (·.entries.flatMap fun entry => f entry.1 entry.2) d := by
  have entries : ∀ entry : String × α, Pinned (fun a b => b.1 = a.1 ∧ R a.2 b.2)
      (fun entry => f entry.1 entry.2) entry := by
    rintro ⟨key, a⟩ ⟨_, b⟩ ⟨_, c⟩ rest rest' ⟨rfl, variant⟩ ⟨same_key, other⟩ same
    cases same_key
    obtain ⟨rfl, behind⟩ := each _ a variant other same
    exact ⟨rfl, behind⟩
  rintro ⟨_, _⟩ ⟨_, _⟩ rest rest' variant other same
  obtain ⟨rfl, behind⟩ := Pinned.list entries d.entries variant other same
  exact ⟨rfl, behind⟩

section Place

variable {g : Schema → List ρ} (each : ∀ s, Pinned R g s)
include each

theorem Parameter.pinned (parameters : Option (List Parameter)) :
    Pinned (Option.Rel (List.Forall₂ (Parameter.Rel R)))
      (fun parameters => (Parameter.schemas parameters).flatMap g) parameters := by
  have one : ∀ p : Parameter, Pinned (Parameter.Rel R) (fun p => g p.schema) p := by
    rintro p b c rest rest' ⟨others, variant⟩ ⟨others', other⟩ same
    obtain ⟨same_schema, behind⟩ := each p.schema variant other same
    rw [others, others', same_schema]
    exact ⟨rfl, behind⟩
  refine (Pinned.option (Pinned.list one) parameters).of_eq fun parameters => ?_
  cases parameters <;> simp [Parameter.schemas, List.flatMap_map]

theorem Content.pinned (content : Content) :
    Pinned (Dict.Rel (MediaType.Rel R)) (fun content => (Content.schemas content).flatMap g)
      content := by
  have one : ∀ (_ : String) (media : MediaType),
      Pinned (MediaType.Rel R) (fun media => g media.schema) media := by
    rintro _ ⟨s⟩ ⟨t⟩ ⟨u⟩ rest rest' variant other same
    obtain ⟨rfl, behind⟩ := each s variant other same
    exact ⟨rfl, behind⟩
  refine (Dict.pinned one content).of_eq fun content => ?_
  simp [Content.schemas, Dict.values, List.flatMap_map]

theorem RequestBody.pinned (body : RequestBody) :
    Pinned (RequestBody.Rel R) (fun body => (RequestBody.schemas body).flatMap g) body := by
  obtain ⟨content⟩ := body
  rintro ⟨_⟩ ⟨_⟩ rest rest' variant other same
  obtain ⟨rfl, behind⟩ := Content.pinned each content variant other same
  exact ⟨rfl, behind⟩

theorem Response.pinned (r : Response) :
    Pinned (Response.Rel R) (fun r => (Response.schemas r).flatMap g) r := by
  have content := Pinned.option (Content.pinned each) r.content
  simp only [← List.flatMap_assoc] at content
  rintro b c rest rest' ⟨others, variant⟩ ⟨others', other⟩ same
  obtain ⟨same_content, behind⟩ := content variant other same
  rw [others, others', same_content]
  exact ⟨rfl, behind⟩

theorem Operation.pinned (o : Operation) :
    Pinned (Operation.Rel R) (fun o => o.schemas.flatMap g) o := by
  intro b c rest rest' variant other same
  simp only [flatMap_schemas, List.append_assoc] at same
  obtain ⟨parameters, after_parameters⟩ :=
    Parameter.pinned each o.parameters variant.parameters other.parameters same
  obtain ⟨request, after_request⟩ := Pinned.option (RequestBody.pinned each) o.requestBody
    variant.requestBody other.requestBody after_parameters
  obtain ⟨responses, after_responses⟩ := Dict.pinned (fun _ => Response.pinned each) o.responses
    variant.responses other.responses after_request
  rw [variant.others, other.others, parameters, request, responses]
  exact ⟨rfl, after_responses⟩

end Place

variable {g : String → Schema → List ρ} (each : ∀ place s, Pinned R (g place) s)
include each

theorem PathItem.pinned (path : String) (p : PathItem) : Pinned (PathItem.Rel R)
    (fun p => (p.placedSchemas path).flatMap fun placed => g placed.1 placed.2) p := by
  have operation : ∀ o : Operation, Pinned (Operation.Rel R)
      (fun o => o.schemas.flatMap (g s!"{path} ({o.operationId})")) o := by
    -- Variants have the id of the operation, so their schemas are told with the same place.
    intro o b c rest rest' variant other same
    have id_eq : b.operationId = o.operationId := variant.others ▸ rfl
    have other_id_eq : c.operationId = o.operationId := other.others ▸ rfl
    dsimp only at same
    rw [id_eq, other_id_eq] at same
    exact Operation.pinned (each _) o variant other same
  intro b c rest rest' variant other same
  simp only [flatMap_placedSchemas, flatMap_operations, List.append_assoc] at same
  obtain ⟨parameters, after_parameters⟩ :=
    Parameter.pinned (each path) p.parameters variant.parameters other.parameters same
  obtain ⟨get, after_get⟩ :=
    Pinned.option operation p.get variant.get other.get after_parameters
  obtain ⟨post, after_post⟩ := Pinned.option operation p.post variant.post other.post after_get
  obtain ⟨patch, after_patch⟩ :=
    Pinned.option operation p.patch variant.patch other.patch after_post
  obtain ⟨delete, after_delete⟩ :=
    Pinned.option operation p.delete variant.delete other.delete after_patch
  cases b
  cases c
  cases parameters
  cases get
  cases post
  cases patch
  cases delete
  exact ⟨rfl, after_delete⟩

theorem ApiDocument.pinned (d : ApiDocument) : Pinned (ApiDocument.Rel R)
    (fun d => d.placedSchemas.flatMap fun placed => g placed.1 placed.2) d := by
  intro b c rest rest' variant other same
  simp only [flatMap_placedSchemas, List.append_assoc] at same
  obtain ⟨schemas, after_schemas⟩ :=
    Dict.pinned (fun key => each _) d.schemas variant.schemas other.schemas same
  obtain ⟨paths, after_paths⟩ := Dict.pinned (fun path => PathItem.pinned each path) d.paths
    variant.paths other.paths after_schemas
  rw [variant.others, other.others, schemas, paths]
  exact ⟨rfl, after_paths⟩

end Tell
end ObjectRole
