import ObjectRole.Proofs.Api.Actions
import ObjectRole.Proofs.Naming.Separators

/-! All operations of a document. A path holds what the last resource that takes it puts there, so
the operations are those that the permissions ask for, save where a later resource takes the path.
No path is taken twice where plurals are without slashes. -/
namespace ObjectRole

namespace Synthesis

variable {settings : Settings} {view : ResourceView} {update : Schema} {identifying : List String}
  {y z : Synthesis} {path : String} {item : PathItem}

theorem get?_paths_withPath (y : Synthesis) (path other : String) (item? : Option PathItem) :
    (y.withPath path item?).paths.get? other =
      if other = path then item?.or (y.paths.get? other) else y.paths.get? other := by
  cases item? with
  | none => rw [Option.none_or, ite_self]; rfl
  | some item => exact Dict.get?_insert y.paths path other item

theorem owners_withPath (y : Synthesis) (path : String) (item? : Option PathItem) :
    (y.withPath path item?).owners = y.owners := by
  cases item? <;> rfl

/-- A resource needs a collection of its own, and takes its paths from those before. -/
theorem paths_of_addResource (ran : y.addResource settings view update identifying = .ok z) :
    y.owners.get? view.collectionPath = none ∧
    z.owners = y.owners.insert view.collectionPath view.key ∧
    ∀ path item, z.paths.get? path = some item ↔
      Offers settings view (idParameters update identifying) path item ∨
        (¬∃ own, Offers settings view (idParameters update identifying) path own) ∧
          y.paths.get? path = some item := by
  rw [addResource] at ran
  split at ran
  · cases ran
  · rename_i free
    have same : (y.withFilter view update).paths = y.paths ∧
        (y.withFilter view update).owners = y.owners := by
      unfold withFilter
      split <;> exact ⟨rfl, rfl⟩
    cases ran
    refine ⟨free, ?_, fun path item => ?_⟩
    · dsimp only
      rw [owners_withPath, owners_withPath, same.2]
    · dsimp only
      rw [get?_paths_withPath, get?_paths_withPath, same.1]
      have apart := view.collectionPath_ne_itemPath (idParameters update identifying)
      by_cases of_item : path = view.itemPath (idParameters update identifying)
      · subst of_item
        cases own : view.item? settings (idParameters update identifying) <;>
          simp [Offers, apart.symm, own]
      · by_cases of_collection : path = view.collectionPath
        · subst of_collection
          cases own : view.collectionItem? settings <;> simp [Offers, apart, own]
        · simp [Offers, of_item, of_collection]

end Synthesis

section Run

variable (s : Snapshot) (settings : Settings) (tables : BuiltTables)

/-- The path of an action of a resource. -/
def Snapshot.pathOf (entry : String × Resource) (a : Action) : String :=
  (s.view settings tables entry).pathOf (tables.identifier entry) a

/-- The operations of a resource that its permissions ask for. -/
def Snapshot.permitted (r : Resource) : List Action :=
  Action.all.filter fun a => s.Permits settings r a.permission

/-- All that is asked for. -/
def Snapshot.asked : List ((String × Resource) × Action) :=
  tables.resources.entries.flatMap fun entry => (s.permitted settings entry.2).map (entry, ·)

/-- A later resource takes the path of an action. -/
def Snapshot.Overtaken (asked : (String × Resource) × Action) : Prop :=
  ∃ other ∈ s.asked settings tables, asked.1.1 < other.1.1 ∧
    s.pathOf settings tables other.1 other.2 = s.pathOf settings tables asked.1 asked.2

instance : DecidablePred (s.Overtaken settings tables) := fun _ =>
  inferInstanceAs (Decidable (∃ other ∈ _, _))

/-- What is asked for and not overtaken. -/
def Snapshot.standing : List ((String × Resource) × Action) :=
  (s.asked settings tables).filter fun asked => ¬s.Overtaken settings tables asked

/-- The operation of a resource for an action, at its path. -/
def Snapshot.place (asked : (String × Resource) × Action) : PlacedOperation where
  path := s.pathOf settings tables asked.1 asked.2
  method := asked.2.method
  operation := (s.view settings tables asked.1).operationOf settings asked.2

/-- A resource puts an item under a path. -/
def Snapshot.Puts (entry : String × Resource) (path : String) (item : PathItem) : Prop :=
  Synthesis.Offers settings (s.view settings tables entry) (tables.identifier entry) path item

/-- What a run over some resources makes of their paths. -/
structure Laid (done : List (String × Resource)) (y : Synthesis) : Prop where
  owners : ∀ path, y.owners.contains path ↔
    path ∈ done.map fun entry => (s.view settings tables entry).collectionPath
  distinct : (done.map fun entry => (s.view settings tables entry).collectionPath).Nodup
  paths : ∀ path item, y.paths.get? path = some item ↔ ∃ entry ∈ done,
    s.Puts settings tables entry path item ∧
      ∀ other ∈ done, entry.1 < other.1 → ¬∃ own, s.Puts settings tables other path own

end Run

namespace Laid

variable {s : Snapshot} {settings : Settings} {tables : BuiltTables} {y z : Synthesis}
  {done : List (String × Resource)} {entry : String × Resource}

theorem start : Laid s settings tables [] { tiers := ⟨tables.schemas, .empty⟩ } where
  owners _ := by simp [Dict.contains_eq_isSome]
  distinct := .nil
  paths _ _ := by simp

theorem step (laid : Laid s settings tables done y) (after : ∀ other ∈ done, other.1 < entry.1)
    (ran : y.addResource settings (s.view settings tables entry)
      (tables.schema (updateKey entry.1)) (tables.identifyingProperties entry.1) = .ok z) :
    Laid s settings tables (done ++ [entry]) z := by
  obtain ⟨free, owners, paths⟩ := Synthesis.paths_of_addResource ran
  constructor
  case owners =>
    intro path
    rw [owners, Dict.contains_eq_isSome, Dict.get?_insert, List.map_append, List.mem_append,
      ← laid.owners, Dict.contains_eq_isSome]
    split <;> simp_all
  case distinct =>
    rw [List.map_append]
    refine List.nodup_append.mpr ⟨laid.distinct, List.nodup_singleton _, ?_⟩
    rintro path earlier other last rfl
    rw [← laid.owners, List.mem_singleton.mp last, Dict.contains_eq_isSome, free] at earlier
    contradiction
  case paths =>
    intro path item
    rw [paths, laid.paths]
    constructor
    · rintro (own | ⟨none_own, other, earlier, puts, last⟩)
      · refine ⟨entry, List.mem_append_right _ (.head _), own, fun other inside above => ?_⟩
        rcases List.mem_append.mp inside with earlier | same
        · exact absurd (String.lt_trans above (after other earlier)) (String.lt_irrefl _)
        · exact absurd (List.mem_singleton.mp same ▸ above) (String.lt_irrefl _)
      · refine ⟨other, List.mem_append_left _ earlier, puts, fun third inside above => ?_⟩
        rcases List.mem_append.mp inside with earlier | same
        · exact last third earlier above
        · exact List.mem_singleton.mp same ▸ none_own
    · rintro ⟨other, inside, puts, last⟩
      rcases List.mem_append.mp inside with earlier | same
      · exact .inr ⟨last entry (List.mem_append_right _ (.head _)) (after other earlier), other,
          earlier, puts, fun third earlier => last third (List.mem_append_left _ earlier)⟩
      · exact .inl (List.mem_singleton.mp same ▸ puts)

/-- Resources come in the order of their keys. -/
theorem of_run (flat : FlatTables s tables) {before rest : List (String × Resource)}
    (split : tables.resources.entries = before ++ rest)
    (ran : before.foldlM (Synthesis.addKey s settings tables)
      { tiers := ⟨tables.schemas, .empty⟩ } = .ok y) : Laid s settings tables before y := by
  induction before using List.reverseRecOn generalizing rest y with
  | nil =>
    cases ran
    exact start
  | append_singleton before entry ih =>
    rw [List.foldlM_append] at ran
    obtain ⟨middle, ran, last⟩ := bind_eq_ok_iff.mp ran
    have split : tables.resources.entries = before ++ entry :: rest := by simpa using split
    have progress := Progress.of_run flat split ran
    have listed : entry ∈ tables.resources.entries := by simp [split]
    obtain ⟨_, added, done⟩ := bind_eq_ok_iff.mp last
    cases done
    rw [progress.addKey_eq listed (BuiltTables.not_mem_of_split split)] at added
    have ordered : (before ++ entry :: rest).Pairwise (·.1 < ·.1) :=
      split ▸ tables.resources.ordered
    exact (ih split ran).step
      (fun other earlier => (List.pairwise_append.mp ordered).2.2 other earlier entry (.head _))
      added

/-- A run over all resources. -/
theorem of_ofTables (flat : FlatTables s tables)
    (ran : Synthesis.ofTables s settings tables = .ok y) :
    Laid s settings tables tables.resources.entries y :=
  of_run flat (List.append_nil _).symm ran

end Laid

namespace Snapshot

variable {s : Snapshot} {settings : Settings} {tables : BuiltTables} {y : Synthesis}
  {asked other : (String × Resource) × Action} {path : String}

theorem mem_asked : asked ∈ s.asked settings tables ↔
    asked.1 ∈ tables.resources.entries ∧ s.Permits settings asked.1.2 asked.2.permission := by
  obtain ⟨entry, a⟩ := asked
  simp [Snapshot.asked, permitted, Action.mem_all]

theorem exists_puts_iff {entry : String × Resource} :
    (∃ item, s.Puts settings tables entry path item) ↔ ∃ a : Action,
      s.Permits settings entry.2 a.permission ∧ s.pathOf settings tables entry a = path :=
  ResourceView.exists_offers_iff.trans (exists_congr fun _ => and_congr_left' view_allows_iff)

theorem nodup_asked (s : Snapshot) (settings : Settings) (tables : BuiltTables) :
    (s.asked settings tables).Nodup := by
  refine List.nodup_flatMap.mpr ⟨fun entry _ => ?_, ?_⟩
  · have actions : (s.permitted settings entry.2).Nodup := .filter _ (by decide)
    exact actions.map fun a b same => congrArg (·.2) same
  · refine tables.resources.ordered.imp fun {entry other} below asked inside also_inside => ?_
    obtain ⟨a, _, rfl⟩ := List.mem_map.mp inside
    obtain ⟨b, _, same⟩ := List.mem_map.mp also_inside
    have same_key : other.1 = entry.1 := congrArg (·.1.1) same
    exact String.lt_irrefl _ (same_key ▸ below)

/-- What stands at one path, called in one way, is asked for by one action of one resource. -/
theorem place_inj (stands : asked ∈ s.standing settings tables)
    (other_stands : other ∈ s.standing settings tables)
    (same : s.place settings tables asked = s.place settings tables other) : asked = other := by
  obtain ⟨is_asked, not_overtaken⟩ := List.mem_filter.mp stands
  obtain ⟨other_asked, other_not⟩ := List.mem_filter.mp other_stands
  have same_path : s.pathOf settings tables asked.1 asked.2 =
      s.pathOf settings tables other.1 other.2 := congrArg (·.path) same
  have same_key : asked.1.1 = other.1.1 := by
    by_contra distinct
    by_cases below : asked.1.1 < other.1.1
    · exact of_decide_eq_true not_overtaken ⟨other, other_asked, below, same_path.symm⟩
    · exact of_decide_eq_true other_not
        ⟨asked, is_asked, Entries.lt_of_not_lt_of_ne below distinct, same_path⟩
  have same_entry : asked.1 = other.1 :=
    Dict.entry_unique (mem_asked.mp is_asked).1 (mem_asked.mp other_asked).1 same_key
  rw [same_entry] at same_path
  exact Prod.ext same_entry
    (Action.eq_of_method (congrArg (·.method) same) (ResourceView.pathOf_inj same_path))

/-- The operations under the paths of a run are those that stand. -/
theorem operations_perm (laid : Laid s settings tables tables.resources.entries y) :
    y.paths.operations.Perm ((s.standing settings tables).map (s.place settings tables)) := by
  have nodup : ((s.standing settings tables).map (s.place settings tables)).Nodup :=
    .map_on (fun _ stands _ other_stands => place_inj stands other_stands)
      ((s.nodup_asked settings tables).filter _)
  refine (List.perm_ext_iff_of_nodup y.paths.nodup_operations nodup).mpr fun o => ?_
  rw [Dict.mem_operations, List.mem_map]
  constructor
  · rintro ⟨item, found, operation⟩
    obtain ⟨entry, listed, puts, last⟩ := (laid.paths _ _).mp found
    obtain ⟨a, here, method⟩ := ResourceView.exists_action_of_offers puts operation
    rw [← method, ResourceView.operation?_of_offers puts here,
      ResourceView.whenAllowed] at operation
    split at operation
    · rename_i allowed
      have is_asked : (entry, a) ∈ s.asked settings tables :=
        mem_asked.mpr ⟨listed, view_allows_iff.mp allowed⟩
      refine ⟨(entry, a), List.mem_filter.mpr ⟨is_asked, decide_eq_true ?_⟩, ?_⟩
      · rintro ⟨other, other_asked, above, same_path⟩
        obtain ⟨other_listed, other_allowed⟩ := mem_asked.mp other_asked
        exact last other.1 other_listed above
          (exists_puts_iff.mpr ⟨other.2, other_allowed, same_path.trans here⟩)
      · obtain ⟨path, _, operation'⟩ := o
        cases operation
        cases method
        cases here
        rfl
    · cases operation
  · rintro ⟨⟨entry, a⟩, stands, rfl⟩
    obtain ⟨is_asked, not_overtaken⟩ := List.mem_filter.mp stands
    obtain ⟨listed, allowed⟩ := mem_asked.mp is_asked
    obtain ⟨item, puts⟩ := exists_puts_iff.mpr ⟨a, allowed, rfl⟩
    refine ⟨item, (laid.paths _ _).mpr ⟨entry, listed, puts, ?_⟩, ?_⟩
    · rintro other other_listed above others
      obtain ⟨b, other_allowed, same_path⟩ := exists_puts_iff.mp others
      exact of_decide_eq_true not_overtaken
        ⟨(other, b), mem_asked.mpr ⟨other_listed, other_allowed⟩, above, same_path⟩
    · refine (ResourceView.operation?_of_offers puts rfl).trans (if_pos ?_)
      exact view_allows_iff.mpr allowed

end Snapshot

namespace ResourceView

variable {view other : ResourceView} {identifier identifiers : List Parameter} {a b : Action}

/-- The name of the collection ends at the next slash of a path, if it has none itself. -/
theorem takeWhile_pathOf (plain : '/' ∉ view.plural.toList) :
    (view.pathOf identifier a).toList.tail.takeWhile (· != '/') = view.collectionName.toList := by
  have none_inside : ∀ c ∈ view.collectionName.toList, (c != '/') = true := by
    intro c inside
    rw [bne_iff_ne]
    rintro rfl
    rw [collectionName, lowered, String.toList_ofList, Naming.schemaKey, String.toList_ofList]
      at inside
    exact plain (Naming.slash_mem_of_mem_key (Text.mem_of_mem_lower (by decide) inside))
  have from_name : ∃ rest, (view.pathOf identifier a).toList =
      '/' :: (view.collectionName.toList ++ rest) ∧ rest.takeWhile (· != '/') = [] := by
    rw [pathOf]
    split
    · exact ⟨[], by simp [collectionPath], rfl⟩
    · exact ⟨_, by simp [itemPath, collectionPath]; rfl, rfl⟩
  obtain ⟨rest, path, ends⟩ := from_name
  rw [path, List.tail_cons, List.takeWhile_append_of_pos none_inside, ends, List.append_nil]

/-- Where names are without slashes, only resources with one collection share a path. -/
theorem collectionPath_eq_of_pathOf (plain : '/' ∉ view.plural.toList)
    (other_plain : '/' ∉ other.plural.toList)
    (same : view.pathOf identifier a = other.pathOf identifiers b) :
    view.collectionPath = other.collectionPath := by
  have names : view.collectionName.toList = other.collectionName.toList := by
    rw [← takeWhile_pathOf plain, same, takeWhile_pathOf other_plain]
  rw [collectionPath, collectionPath, String.toList_inj.mp names]

end ResourceView

def PlacedOperation.relabel (r : Renames) (o : PlacedOperation) : PlacedOperation :=
  { o with operation := o.operation.mapSchemas (·.mapKeywords (·.relabel r)) }

theorem PathItem.placed_mapSchemas (r : Renames) (item : PathItem) (path : String) :
    (item.mapSchemas (·.mapKeywords (·.relabel r))).placed path =
      (item.placed path).map (·.relabel r) := by
  rw [placed, placed, List.map_filterMap]
  refine List.filterMap_congr fun method _ => ?_
  rw [operation?_mapSchemas, Option.map_map, Option.map_map]
  rfl

theorem Synthesis.operations_document (settings : Settings) (y : Synthesis) :
    (y.document settings).paths.operations =
      y.paths.operations.map (·.relabel y.tiers.renames) := by
  have entries : (y.document settings).paths.entries = y.paths.entries.map fun entry =>
      (entry.1, entry.2.mapSchemas (·.mapKeywords (·.relabel y.tiers.renames))) := rfl
  rw [Dict.operations, entries, List.flatMap_map, Dict.operations, List.map_flatMap]
  exact List.flatMap_congr fun entry _ => PathItem.placed_mapSchemas _ _ _

variable {d : Document} {s : Snapshot} {tables : BuiltTables} {settings : Settings}
  {doc : ApiDocument} {y : Synthesis} {asked : (String × Resource) × Action}

/-- In the document the operations that stand have their references led on. -/
theorem Snapshot.operations_document_perm (flat : FlatTables s tables)
    (ran : Synthesis.ofTables s settings tables = .ok y) :
    (y.document settings).paths.operations.Perm ((s.standing settings tables).map fun asked =>
      (s.place settings tables asked).relabel y.tiers.renames) := by
  rw [Synthesis.operations_document]
  have laid := (operations_perm (.of_ofTables flat ran)).map (·.relabel y.tiers.renames)
  rwa [List.map_map] at laid

/-- What is asked for stands at its path in the document, or a later resource takes that. -/
theorem Snapshot.stands_or_overtaken (flat : FlatTables s tables)
    (ran : Synthesis.ofTables s settings tables = .ok y)
    (is_asked : asked ∈ s.asked settings tables) :
    (y.document settings).operationAt (s.pathOf settings tables asked.1 asked.2)
        (·.operation? asked.2.method) =
      some (((s.view settings tables asked.1).operationOf settings asked.2).mapSchemas
        (·.mapKeywords (·.relabel y.tiers.renames))) ∨
      s.Overtaken settings tables asked := by
  by_cases overtaken : s.Overtaken settings tables asked
  · exact .inr overtaken
  · have stands : asked ∈ s.standing settings tables :=
      List.mem_filter.mpr ⟨is_asked, decide_eq_true overtaken⟩
    have placed : (s.place settings tables asked).relabel y.tiers.renames ∈
        (y.document settings).paths.operations :=
      (operations_document_perm flat ran).mem_iff.mpr (List.mem_map_of_mem stands)
    obtain ⟨item, found, there⟩ := Dict.mem_operations.mp placed
    exact .inl (Option.bind_eq_some_iff.mpr ⟨item, found, there⟩)

/-- Without slashes in plurals no resource takes a path of another one. -/
theorem Snapshot.not_overtaken (flat : FlatTables s tables)
    (ran : Synthesis.ofTables s settings tables = .ok y)
    (plain : ∀ entry ∈ tables.resources.entries,
      '/' ∉ (s.view settings tables entry).plural.toList) :
    ∀ asked ∈ s.asked settings tables, ¬s.Overtaken settings tables asked := by
  rintro asked is_asked ⟨other, other_asked, above, same⟩
  have listed := (mem_asked.mp is_asked).1
  have other_listed := (mem_asked.mp other_asked).1
  have collections := ResourceView.collectionPath_eq_of_pathOf (plain _ other_listed)
    (plain _ listed) same
  have distinct := (Laid.of_ofTables flat ran).distinct
  have same_entry := List.inj_on_of_nodup_map distinct other_listed listed collections
  exact String.lt_irrefl _ (same_entry ▸ above)

/-- The document offers what the permissions ask for, at the paths of each resource, save what a
later resource takes; each of these resources loses an operation to another. Nothing is lost if
plurals are without slashes. -/
theorem compile_operations (resolved : d.resolve = .ok s) (made : s.flatTables = .ok tables)
    (compiled : s.compile settings = .ok doc) :
    ∃ y, Synthesis.ofTables s settings tables = .ok y ∧
      doc.paths.operations.Perm ((s.standing settings tables).map fun asked =>
        (s.place settings tables asked).relabel y.tiers.renames) ∧
      (doc.paths.operations.length =
          (tables.resources.entries.map fun entry => (s.permitted settings entry.2).length).sum ↔
        ∀ asked ∈ s.asked settings tables, ¬s.Overtaken settings tables asked) ∧
      ((∀ entry ∈ tables.resources.entries,
          '/' ∉ (s.view settings tables entry).plural.toList) →
        ∀ asked ∈ s.asked settings tables, ¬s.Overtaken settings tables asked) := by
  obtain ⟨y, flat, ran, rfl⟩ := Document.run_of_compile resolved made compiled
  have perm := Snapshot.operations_document_perm flat ran
  refine ⟨y, ran, perm, ?_, Snapshot.not_overtaken flat ran⟩
  have count : (s.asked settings tables).length =
      (tables.resources.entries.map fun entry => (s.permitted settings entry.2).length).sum := by
    simp [Snapshot.asked, List.length_flatMap]
  rw [perm.length_eq, List.length_map, ← count, Snapshot.standing, List.length_filter_eq_length_iff]
  simp

/-- Orders are all but deleted, and invoices only read and listed. -/
def Document.invoices : Document where
  nouns := [
    { name := "Order" },
    { name := "Invoice", permissions := some [.read, .list] }]
  factTypes := [{ readings := [.text "Order is open"] }, { readings := [.text "Invoice is due"] }]

theorem compile_operations_of_invoices : ∃ s tables doc,
    Document.invoices.resolve = .ok s ∧ s.flatTables = .ok tables ∧ s.compile {} = .ok doc ∧
      (s.permitted {} <$> tables.resources.values) =
        [[.list, .read], [.list, .create, .read, .update]] ∧ doc.paths.operations.length = 6 := by
  have passed : Document.invoices.passes {} fun s tables _ =>
      (tables.resources.entries.all fun entry =>
        !(s.view {} tables entry).plural.toList.contains '/') &&
      decide (s.permitted {} <$> tables.resources.values =
        [[.list, .read], [.list, .create, .read, .update]]) := by decide +kernel
  obtain ⟨s, tables, doc, resolved, made, compiled, checked⟩ := Document.exists_of_passes passed
  obtain ⟨plain, permitted⟩ := Bool.and_eq_true_iff.mp checked
  have permitted := of_decide_eq_true permitted
  obtain ⟨y, _, _, count, free⟩ := compile_operations resolved made compiled
  refine ⟨s, tables, doc, resolved, made, compiled, permitted, ?_⟩
  rw [count.mpr (free fun entry listed inside => ?_)]
  · have lengths := congrArg (fun actions => (actions.map List.length).sum) permitted
    simpa [Dict.values, Function.comp_def] using lengths
  · simpa [inside] using List.all_eq_true.mp plain entry listed

/-- The plural of lines is what the path of one order says. -/
def Document.orders : Document where
  nouns := [{ name := "Order" }, { name := "Line", plural := some "orders/\x7bid\x7d" }]
  factTypes := [{ readings := [.text "Order is open"] }, { readings := [.text "Line is open"] }]

/-- Lines may be created, and the document has no operation for it: an order is read where lines
were listed. -/
theorem lines_overtaken : ∃ s tables doc r, Document.orders.resolve = .ok s ∧
    s.flatTables = .ok tables ∧ s.compile {} = .ok doc ∧
      tables.resources.get? "Line" = some r ∧ s.permitted {} r = [.list, .create, .read, .update] ∧
      (doc.paths.operations.map fun o => (o.path, o.operation.operationId)) =
        [("/orders", "get-orders-list"), ("/orders", "post-order"),
          ("/orders/\x7bid\x7d", "get-order"), ("/orders/\x7bid\x7d", "patch-order"),
          ("/orders/\x7bid\x7d/\x7bid\x7d", "get-line"),
          ("/orders/\x7bid\x7d/\x7bid\x7d", "patch-line")] := by
  have passed : Document.orders.passes {} fun s tables doc =>
      (tables.resources.get? "Line").any (s.permitted {} · = [.list, .create, .read, .update]) &&
      decide ((doc.paths.operations.map fun o => (o.path, o.operation.operationId)) =
        [("/orders", "get-orders-list"), ("/orders", "post-order"),
          ("/orders/\x7bid\x7d", "get-order"), ("/orders/\x7bid\x7d", "patch-order"),
          ("/orders/\x7bid\x7d/\x7bid\x7d", "get-line"),
          ("/orders/\x7bid\x7d/\x7bid\x7d", "patch-line")]) := by decide +kernel
  obtain ⟨s, tables, doc, resolved, made, compiled, checked⟩ := Document.exists_of_passes passed
  obtain ⟨listed, operations⟩ := Bool.and_eq_true_iff.mp checked
  obtain ⟨r, taken, permitted⟩ := (Option.any_eq_true _ _).mp listed
  exact ⟨s, tables, doc, r, resolved, made, compiled, taken, of_decide_eq_true permitted,
    of_decide_eq_true operations⟩

end ObjectRole
