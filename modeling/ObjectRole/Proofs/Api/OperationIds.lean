import ObjectRole.Proofs.Api.Operations

/-! The ids of operations. An id says how an operation is called and what it is about; only lists
are about something with a hyphen. Ids are told apart just in case no two keys that differ in their
capitals only offer the same. -/
namespace ObjectRole

def Method.verb : Method → String
  | .get => "get"
  | .post => "post"
  | .patch => "patch"
  | .delete => "delete"

theorem Method.hyphen_not_mem_verb (method : Method) : '-' ∉ method.verb.toList := by
  cases method <;> decide

theorem Method.verb_inj {method other : Method} (same : method.verb = other.verb) :
    method = other := by
  cases method <;> cases other <;> first | rfl | exact absurd same (by decide)

namespace ResourceView

variable {view other : ResourceView} {settings : Settings} {a b : Action}

/-- What the id of an operation says that it is about. -/
def subjectOf (view : ResourceView) : Action → String
  | .list => view.collectionName ++ "-list"
  | .create | .read | .update | .delete => view.itemName

theorem operationId_eq (view : ResourceView) (settings : Settings) (a : Action) :
    (view.operationOf settings a).operationId = a.method.verb ++ "-" ++ view.subjectOf a := by
  cases a
  case list => exact String.append_assoc
  all_goals rfl

theorem hyphen_not_mem_lowered {text : String} (plain : '-' ∉ text.toList) :
    '-' ∉ (lowered text).toList := by
  rw [lowered, String.toList_ofList]
  exact fun inside => plain (Text.mem_of_mem_lower (by decide) inside)

theorem hyphen_mem_subjectOf_iff (plain : '-' ∉ view.key.toList) :
    '-' ∈ (view.subjectOf a).toList ↔ a = .list := by
  have item := hyphen_not_mem_lowered plain
  cases a
  case list => simp [subjectOf]
  all_goals exact ⟨fun inside => absurd inside item, nofun⟩

/-- Ids of keys without hyphens are the same only for the same action. -/
theorem operationId_inj_iff (plain : '-' ∉ view.key.toList) (other_plain : '-' ∉ other.key.toList) :
    (view.operationOf settings a).operationId = (other.operationOf settings b).operationId ↔
      a = b ∧ view.subjectOf a = other.subjectOf b := by
  rw [operationId_eq, operationId_eq]
  constructor
  · intro same
    have letters := congrArg String.toList same
    simp only [String.toList_append, List.append_assoc] at letters
    obtain ⟨verbs, subjects⟩ := Text.cut_inj a.method.hyphen_not_mem_verb
      b.method.hyphen_not_mem_verb letters
    have subjects := String.toList_inj.mp subjects
    have methods := Method.verb_inj (String.toList_inj.mp verbs)
    have lists : a = .list ↔ b = .list := by
      rw [← hyphen_mem_subjectOf_iff plain, subjects, hyphen_mem_subjectOf_iff other_plain]
    refine ⟨?_, subjects⟩
    cases a <;> cases b <;> simp_all [Action.method]
  · rintro ⟨rfl, subjects⟩
    rw [subjects]

theorem subjectOf_inj_iff (not_list : a ≠ .list) : view.subjectOf a = other.subjectOf a ↔
    Text.lower view.key.toList = Text.lower other.key.toList := by
  cases a
  case list => contradiction
  all_goals exact String.ofList_inj

theorem collectionPath_eq_of_subjectOf (same : view.subjectOf .list = other.subjectOf .list) :
    view.collectionPath = other.collectionPath := by
  have names : view.collectionName = other.collectionName := String.append_left_inj _ |>.mp same
  rw [collectionPath, collectionPath, names]

end ResourceView

variable {d : Document} {s : Snapshot} {tables : BuiltTables} {settings : Settings}
  {doc : ApiDocument}

/-- What the ids of a document are, in some order. -/
theorem Snapshot.operationIds_perm {y : Synthesis} (flat : FlatTables s tables)
    (ran : Synthesis.ofTables s settings tables = .ok y) :
    ((y.document settings).paths.operations.map (·.operation.operationId)).Perm
      ((s.standing settings tables).map fun asked =>
        ((s.view settings tables asked.1).operationOf settings asked.2).operationId) := by
  have perm := (operations_document_perm flat ran).map (·.operation.operationId)
  rwa [List.map_map] at perm

/-- Ids come once, unless two resources offer the same and their keys differ in capitals only. -/
theorem compile_operationIds (resolved : d.resolve = .ok s) (made : s.flatTables = .ok tables)
    (compiled : s.compile settings = .ok doc) :
    ((doc.paths.operations.map (·.operation.operationId)).Nodup ↔
      ∀ asked ∈ s.standing settings tables, ∀ other ∈ s.standing settings tables,
        asked.2 = other.2 → asked.2 ≠ .list →
          Text.lower asked.1.1.toList = Text.lower other.1.1.toList → asked.1.1 = other.1.1) := by
  obtain ⟨y, flat, ran, rfl⟩ := Document.run_of_compile resolved made compiled
  have stands_nodup : (s.standing settings tables).Nodup :=
    (s.nodup_asked settings tables).filter _
  have listed : ∀ asked ∈ s.standing settings tables, asked.1 ∈ tables.resources.entries :=
    fun asked stands => (Snapshot.mem_asked.mp (List.mem_filter.mp stands).1).1
  have plain : ∀ entry ∈ tables.resources.entries, '-' ∉ entry.1.toList := by
    intro entry inside
    rw [← flat.keyed (Dict.get?_eq_some_iff.mpr inside), Snapshot.keyOf, Naming.schemaKey,
      String.toList_ofList]
    exact Naming.not_mem_key (by decide)
  rw [(Snapshot.operationIds_perm flat ran).nodup_iff, List.nodup_map_iff_inj_on stands_nodup]
  refine forall₄_congr fun asked stands other other_stands => ?_
  have own_plain := plain _ (listed _ stands)
  have other_plain := plain _ (listed _ other_stands)
  rw [ResourceView.operationId_inj_iff own_plain other_plain, and_imp]
  refine forall_congr' fun same => ?_
  rw [← same]
  have one : asked.1.1 = other.1.1 → asked = other := fun same_key =>
    Prod.ext (Dict.entry_unique (listed _ stands) (listed _ other_stands) same_key) same
  by_cases not_list : asked.2 ≠ .list
  · rw [ResourceView.subjectOf_inj_iff not_list]
    exact ⟨fun told _ lower => congrArg (·.1.1) (told lower),
      fun told lower => one (told not_list lower)⟩
  · -- Every collection has a path of its own.
    rw [not_not.mp not_list]
    refine iff_of_true (fun subjects => one ?_) fun not_list => absurd rfl not_list
    have distinct := (Laid.of_ofTables flat ran).distinct
    have same_entry := List.inj_on_of_nodup_map distinct (listed _ stands) (listed _ other_stands)
      (ResourceView.collectionPath_eq_of_subjectOf subjects)
    exact congrArg (·.1) same_entry

/-- Keys that differ in capitals only do no harm where the resources offer different things. -/
def Document.polishes : Document where
  nouns := [
    { name := "Polish", permissions := some [.create, .list] },
    { name := "polish", plural := some "coats", permissions := some [.read, .update, .list] }]
  factTypes := [{ readings := [.text "Polish is spoken"] }, { readings := [.text "polish is dry"] }]

theorem compile_operationIds_of_polishes : ∃ s tables doc,
    Document.polishes.resolve = .ok s ∧ s.flatTables = .ok tables ∧ s.compile {} = .ok doc ∧
      doc.paths.operations.length = 5 ∧
      (doc.paths.operations.map (·.operation.operationId)).Nodup := by
  have passed : Document.polishes.passes {} fun s tables doc =>
      (doc.paths.operations.length == 5) &&
      (s.standing {} tables).all fun asked => (s.standing {} tables).all fun other =>
        decide (asked.2 = other.2 → asked.2 ≠ .list →
          Text.lower asked.1.1.toList = Text.lower other.1.1.toList → asked.1.1 = other.1.1) := by
    decide +kernel
  obtain ⟨s, tables, doc, resolved, made, compiled, checked⟩ := Document.exists_of_passes passed
  obtain ⟨count, told⟩ := Bool.and_eq_true_iff.mp checked
  refine ⟨s, tables, doc, resolved, made, compiled, beq_iff_eq.mp count, ?_⟩
  refine (compile_operationIds resolved made compiled).mpr fun asked stands other other_stands => ?_
  exact of_decide_eq_true
    (List.all_eq_true.mp (List.all_eq_true.mp told asked stands) other other_stands)

/-- A turkey and the country. -/
def Document.turkeys : Document where
  nouns := [{ name := "Turkey" }, { name := "turkey", plural := some "birds" }]
  factTypes := [{ readings := [.text "Turkey is large"] }, { readings := [.text "turkey is tame"] }]

/-- Both may be created, read and updated, under the ids of one. -/
theorem turkeys_share_ids : ∃ s doc, Document.turkeys.resolve = .ok s ∧ s.compile {} = .ok doc ∧
    (doc.paths.operations.map fun o => (o.path, o.operation.operationId)) =
      [("/birds", "get-birds-list"), ("/birds", "post-turkey"),
        ("/birds/\x7bid\x7d", "get-turkey"), ("/birds/\x7bid\x7d", "patch-turkey"),
        ("/turkeys", "get-turkeys-list"), ("/turkeys", "post-turkey"),
        ("/turkeys/\x7bid\x7d", "get-turkey"), ("/turkeys/\x7bid\x7d", "patch-turkey")] ∧
    ¬(doc.paths.operations.map (·.operation.operationId)).Nodup := by
  have passed : Document.turkeys.passes {} fun _ _ doc =>
      decide ((doc.paths.operations.map fun o => (o.path, o.operation.operationId)) =
        [("/birds", "get-birds-list"), ("/birds", "post-turkey"),
          ("/birds/\x7bid\x7d", "get-turkey"), ("/birds/\x7bid\x7d", "patch-turkey"),
          ("/turkeys", "get-turkeys-list"), ("/turkeys", "post-turkey"),
          ("/turkeys/\x7bid\x7d", "get-turkey"), ("/turkeys/\x7bid\x7d", "patch-turkey")]) := by
    decide +kernel
  obtain ⟨s, tables, doc, resolved, _, compiled, checked⟩ := Document.exists_of_passes passed
  have operations := of_decide_eq_true checked
  refine ⟨s, doc, resolved, compiled, operations, ?_⟩
  have ids := congrArg (List.map (·.2)) operations
  rw [List.map_map] at ids
  change doc.paths.operations.map (·.operation.operationId) = _ at ids
  rw [ids]
  decide

end ObjectRole
