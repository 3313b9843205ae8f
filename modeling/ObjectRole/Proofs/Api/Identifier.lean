import ObjectRole.Proofs.Api.Bodies
import ObjectRole.Proofs.Api.Trails

/-! The names of path parameters, for every path of a document. What a path calls them comes from
the trails of the parts that identify a resource. -/
namespace ObjectRole

/-- The names of the parameters of a path item that stand in the path. -/
def PathItem.pathNames (item : PathItem) : List String :=
  ((item.parameters.getD []).filter (·.location == .path)).map (·.name)

theorem PathItem.pathNames_mapSchemas (item : PathItem) (f : Schema → Schema) :
    (item.mapSchemas f).pathNames = item.pathNames := by
  rw [pathNames, pathNames, parameters_mapSchemas]
  cases item.parameters with
  | none => rfl
  | some parameters =>
    simp only [Parameter.mapSchemas, Option.map_some, Option.getD_some, List.filter_map,
      List.map_map]
    rfl

/-- A place in a path for the value of a parameter. -/
def segment (name : String) : String := "\x7b" ++ name ++ "\x7d"

namespace ResourceView

variable {view : ResourceView} {settings : Settings} {item : PathItem}

/-- The path behind that of the collection with a place for each name. -/
def pathTo (view : ResourceView) (names : List String) : String :=
  view.collectionPath ++ "/" ++ "/".intercalate (names.map segment)

theorem itemPath_eq (view : ResourceView) (identifier : List Parameter) :
    view.itemPath identifier = view.pathTo (identifier.map (·.name)) := by
  rw [pathTo, List.map_map]
  rfl

theorem pathNames_collectionItem? (made : view.collectionItem? settings = some item) :
    item.pathNames = [] := by
  rw [collectionItem?] at made
  split at made
  · cases made
    rfl
  · contradiction

/-- The parameters of an item's path are those that identify it. -/
theorem pathNames_item? {identifier : List Parameter}
    (in_path : ∀ p ∈ identifier, p.location = .path)
    (made : view.item? settings identifier = some item) :
    item.pathNames = identifier.map (·.name) := by
  rw [item?] at made
  split at made
  · cases made
    have kept : identifier.filter (·.location == .path) = identifier :=
      List.filter_eq_self.mpr fun p listed => beq_iff_eq.mpr (in_path p listed)
    rw [PathItem.pathNames, Option.getD_some, List.filter_append, kept]
    exact congrArg _ (List.append_nil _)
  · contradiction

theorem exists_item? (settings : Settings) (identifier : List Parameter)
    (allowed : view.allows .read ∨ view.allows .update ∨ view.allows .delete) :
    ∃ item, view.item? settings identifier = some item :=
  ⟨_, if_pos (by simpa only [Bool.or_eq_true, or_assoc] using allowed)⟩

end ResourceView

namespace BuiltTables

variable (tables : BuiltTables) (key : String)

/-- The trails of the parts that identify an item of a resource. -/
def trails : List Trail :=
  Trail.ofProperties (tables.schema (updateKey key)) (tables.identifyingProperties key)

/-- What the parts that identify an item are called. -/
def partNames : List String := (tables.trails key).map (·.spelling (tables.trails key))

theorem identifier_names (entry : String × Resource) :
    (tables.identifier entry).map (·.name) = tables.partNames entry.1 :=
  idParameters_names _ _

theorem identifier_in_path (entry : String × Resource) :
    ∀ p ∈ tables.identifier entry, p.location = .path := by
  intro p inside
  obtain ⟨m, _, rfl⟩ := List.mem_map.mp inside
  rfl

end BuiltTables

variable {d : Document} {s : Snapshot} {tables : BuiltTables} {settings : Settings}
  {doc : ApiDocument}

/-- What paths call their parameters. A collection has none in its path. An item has one for each
plain part of what identifies the resource, and these have names of their own just in case the parts
are told apart. Where no identifying property is listed twice, no two parts have one trail, and
where besides no part is in a property of a property, names are the same only if spellings meet.
Every resource whose items can be read, changed or deleted has such a path. -/
theorem compile_path_names (resolved : d.resolve = .ok s) (made : s.flatTables = .ok tables)
    (compiled : s.compile settings = .ok doc) :
    (∀ path item, doc.paths.get? path = some item → ∃ key r,
      tables.resources.get? key = some r ∧
        (path = (s.view settings tables (key, r)).collectionPath ∧ item.pathNames = [] ∨
          path = (s.view settings tables (key, r)).pathTo item.pathNames ∧
            item.pathNames = tables.partNames key ∧
            (item.pathNames.Nodup ↔ ToldApart (tables.trails key)) ∧
            ((tables.identifyingProperties key).Nodup → (tables.trails key).Nodup ∧
              ((∀ t ∈ tables.trails key, t.above.length ≤ 1) →
                Trail.Legible (tables.trails key) → item.pathNames.Nodup)))) ∧
    ∀ key r, tables.resources.get? key = some r →
      ((s.view settings tables (key, r)).allows .read ∨
        (s.view settings tables (key, r)).allows .update ∨
          (s.view settings tables (key, r)).allows .delete) →
        doc.paths.contains ((s.view settings tables (key, r)).pathTo (tables.partNames key)) := by
  obtain ⟨y, flat, ran, rfl⟩ := Document.run_of_compile resolved made compiled
  have progress := Progress.of_ofTables flat ran
  constructor
  · intro path item found
    rw [Synthesis.get?_paths] at found
    obtain ⟨own, own_found, rfl⟩ := Option.map_eq_some_iff.mp found
    obtain ⟨⟨key, r⟩, listed, offers⟩ := progress.paths path own own_found
    refine ⟨key, r, Dict.get?_eq_some_iff.mpr listed, ?_⟩
    rw [PathItem.pathNames_mapSchemas]
    rcases offers with ⟨rfl, collection⟩ | ⟨rfl, of_item⟩
    · exact .inl ⟨rfl, ResourceView.pathNames_collectionItem? collection⟩
    have names := ResourceView.pathNames_item? (tables.identifier_in_path (key, r)) of_item
    have spelled : own.pathNames = tables.partNames key :=
      names.trans (tables.identifier_names (key, r))
    have distinct : own.pathNames.Nodup ↔ ToldApart (tables.trails key) := by
      rw [spelled]
      exact ToldApart.nodup_spelling_iff
    refine .inr ⟨?_, spelled, distinct, ?_⟩
    · rw [ResourceView.itemPath_eq, names]
    · intro identifying
      have nodup : (tables.trails key).Nodup :=
        nodup_ofProperties (flat.tierSet_flat settings listed).update.neat identifying
      exact ⟨nodup, fun shallow legible => distinct.mpr (.of_shallow nodup shallow legible)⟩
  · intro key r taken allowed
    have listed := Dict.get?_eq_some_iff.mp taken
    obtain ⟨item, offered⟩ :=
      ResourceView.exists_item? settings (tables.identifier (key, r)) allowed
    have there := progress.offered (key, r) listed _ item (.inr ⟨rfl, offered⟩)
    rw [Dict.contains_eq_isSome] at there ⊢
    rwa [Synthesis.get?_paths, Option.isSome_map, ← tables.identifier_names (key, r),
      ← ResourceView.itemPath_eq]

/-- Rooms are numbered per building and per wing, and both of these have codes. -/
def Document.rooms : Document where
  nouns := [
    { name := "Room", referenceScheme := ["Building", "Wing"] },
    { name := "Building", referenceScheme := ["Code", "Number"] },
    { name := "Wing", referenceScheme := ["Code", "Number"] },
    { name := "Code", objectType := .value },
    { name := "Number", objectType := .value, valueType := some .integer }]
  factTypes := [{ readings := [.text "Room is locked"] }]

theorem compile_path_names_of_rooms : ∃ s tables doc path item,
    Document.rooms.resolve = .ok s ∧ s.flatTables = .ok tables ∧ s.compile {} = .ok doc ∧
      doc.paths.get? path = some item ∧
      item.pathNames = ["buildingCode", "buildingNumber", "wingCode", "wingNumber"] ∧
      item.pathNames.Nodup := by
  have passed : Document.rooms.passes {} fun _ tables doc =>
      (tables.resources.entries.all fun entry => decide (ToldApart (tables.trails entry.1))) &&
        doc.paths.entries.any fun entry =>
          entry.2.pathNames == ["buildingCode", "buildingNumber", "wingCode", "wingNumber"] := by
    decide +kernel
  obtain ⟨s, tables, doc, resolved, made, compiled, checked⟩ := Document.exists_of_passes passed
  obtain ⟨all_apart, listed⟩ := Bool.and_eq_true_iff.mp checked
  obtain ⟨⟨path, item⟩, inside, names⟩ := List.any_eq_true.mp listed
  have names := beq_iff_eq.mp names
  have found := Dict.get?_eq_some_iff.mpr inside
  refine ⟨s, tables, doc, path, item, resolved, made, compiled, found, names, ?_⟩
  obtain ⟨key, r, taken, ⟨_, none⟩ | ⟨_, _, distinct, _⟩⟩ :=
    (compile_path_names resolved made compiled).1 path item found
  · rw [none] at names
    contradiction
  · have apart := List.all_eq_true.mp all_apart _ (Dict.get?_eq_some_iff.mp taken)
    exact distinct.mpr (of_decide_eq_true apart)

/-- Flights are identified by departure and arrival, both of which are at an airport on a day, and
airports by country and city. -/
def Document.flights : Document where
  nouns := [
    { name := "Flight", referenceScheme := ["Departure", "Arrival"] },
    { name := "Departure", referenceScheme := ["Airport", "Day"] },
    { name := "Arrival", referenceScheme := ["Airport", "Day"] },
    { name := "Airport", referenceScheme := ["Country", "City"] },
    { name := "Country", objectType := .value },
    { name := "City", objectType := .value },
    { name := "Day", objectType := .value }]
  factTypes := [{ readings := [.text "Flight is delayed"] }]

/-- To the path of a flight the airports of its departure and of its arrival are one. -/
theorem flights_share_path_names : ∃ s doc item, Document.flights.resolve = .ok s ∧
    s.compile {} = .ok doc ∧
      doc.paths.get? ("/flights/" ++ "/".intercalate (item.pathNames.map segment)) = some item ∧
      item.pathNames = ["airportCity", "airportCountry", "departureDay",
        "airportCity", "airportCountry", "arrivalDay"] ∧ ¬item.pathNames.Nodup := by
  have passed : Document.flights.passes {} fun _ _ doc => doc.paths.entries.any fun entry =>
      entry.1 == "/flights/" ++ "/".intercalate (entry.2.pathNames.map segment) &&
        entry.2.pathNames == ["airportCity", "airportCountry", "departureDay",
          "airportCity", "airportCountry", "arrivalDay"] := by decide +kernel
  obtain ⟨s, tables, doc, resolved, _, compiled, listed⟩ := Document.exists_of_passes passed
  obtain ⟨⟨path, item⟩, inside, checked⟩ := List.any_eq_true.mp listed
  obtain ⟨here, names⟩ := Bool.and_eq_true_iff.mp checked
  have here := beq_iff_eq.mp here
  have names := beq_iff_eq.mp names
  refine ⟨s, doc, item, resolved, compiled, here ▸ Dict.get?_eq_some_iff.mpr inside, names, ?_⟩
  rw [names]
  decide

end ObjectRole
