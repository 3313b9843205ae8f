import ObjectRole.Proofs.Api.Bodies

/-! What a resource may offer, and the operations that stand under some paths. A resource puts under
each of its two paths the operations that are permitted there. -/
namespace ObjectRole

/-- How an operation is called. -/
inductive Method
  | get
  | post
  | patch
  | delete
deriving DecidableEq, Repr

def Method.all : List Method := [.get, .post, .patch, .delete]

/-- An operation and where it stands. -/
structure PlacedOperation where
  path : String
  method : Method
  operation : Operation

namespace PathItem

variable (item : PathItem)

def operation? : Method → Option Operation
  | .get => item.get
  | .post => item.post
  | .patch => item.patch
  | .delete => item.delete

/-- The operations of an item under its path. -/
def placed (path : String) : List PlacedOperation :=
  Method.all.filterMap fun method => (item.operation? method).map (⟨path, method, ·⟩)

variable {item} {path : String} {o : PlacedOperation}

theorem mem_placed :
    o ∈ item.placed path ↔ o.path = path ∧ item.operation? o.method = some o.operation := by
  have every : ∀ method, method ∈ Method.all := fun method => by cases method <;> decide
  rw [placed, List.mem_filterMap]
  constructor
  · rintro ⟨method, _, made⟩
    obtain ⟨operation, found, rfl⟩ := Option.map_eq_some_iff.mp made
    exact ⟨rfl, found⟩
  · rintro ⟨rfl, found⟩
    exact ⟨o.method, every _, by rw [found]; rfl⟩

theorem operation?_mapSchemas (f : Schema → Schema) (item : PathItem) (method : Method) :
    (item.mapSchemas f).operation? method = (item.operation? method).map (·.mapSchemas f) := by
  cases method <;> rfl

theorem nodup_placed (item : PathItem) (path : String) : (item.placed path).Nodup := by
  refine .of_map (·.method) ?_
  have methods : (item.placed path).map (·.method) =
      Method.all.filter fun method => (item.operation? method).isSome := by
    rw [placed, List.map_filterMap, ← List.filterMap_eq_filter]
    refine List.filterMap_congr fun method _ => ?_
    cases found : item.operation? method <;> simp [Option.guard, found]
  rw [methods]
  exact .filter _ (by decide)

end PathItem

/-- The operations under some paths. -/
def Dict.operations (paths : Dict PathItem) : List PlacedOperation :=
  paths.entries.flatMap fun entry => entry.2.placed entry.1

theorem Dict.mem_operations {paths : Dict PathItem} {o : PlacedOperation} :
    o ∈ paths.operations ↔ ∃ item, paths.get? o.path = some item ∧
      item.operation? o.method = some o.operation := by
  rw [operations, List.mem_flatMap]
  constructor
  · rintro ⟨⟨path, item⟩, listed, inside⟩
    obtain ⟨rfl, found⟩ := PathItem.mem_placed.mp inside
    exact ⟨item, Dict.get?_eq_some_iff.mpr listed, found⟩
  · rintro ⟨item, listed, found⟩
    exact ⟨(o.path, item), Dict.get?_eq_some_iff.mp listed, PathItem.mem_placed.mpr ⟨rfl, found⟩⟩

theorem Dict.nodup_operations (paths : Dict PathItem) : paths.operations.Nodup := by
  refine List.nodup_flatMap.mpr ⟨fun entry _ => entry.2.nodup_placed entry.1, ?_⟩
  refine paths.ordered.imp fun {entry other} below => ?_
  intro o inside also_inside
  have same := (PathItem.mem_placed.mp inside).1.symm.trans (PathItem.mem_placed.mp also_inside).1
  exact String.lt_irrefl _ (same ▸ below)

/-- What a resource may offer. -/
inductive Action
  | list
  | create
  | read
  | update
  | delete
deriving DecidableEq, Repr

namespace Action

def all : List Action := [.list, .create, .read, .update, .delete]

theorem mem_all (a : Action) : a ∈ all := by cases a <;> decide

def permission : Action → Permission
  | .list => .list
  | .create => .create
  | .read => .read
  | .update => .update
  | .delete => .delete

def method : Action → Method
  | .list | .read => .get
  | .create => .post
  | .update => .patch
  | .delete => .delete

/-- Whether an action is about the collection; the others are about one item. -/
def onCollection : Action → Bool
  | .list | .create => true
  | .read | .update | .delete => false

theorem eq_of_method {a b : Action} (same : a.method = b.method)
    (same_place : a.onCollection = b.onCollection) : a = b := by
  cases a <;> cases b <;> first | rfl | contradiction

end Action

namespace ResourceView

variable (view : ResourceView) (settings : Settings) (identifier : List Parameter)

def pathOf (a : Action) : String :=
  if a.onCollection then view.collectionPath else view.itemPath identifier

def operationOf : Action → Operation
  | .list => view.list settings
  | .create => view.create settings
  | .read => view.read settings
  | .update => view.update settings
  | .delete => view.delete settings

variable {view settings identifier} {path : String} {item : PathItem} {method : Method}
  {operation : Operation}

/-- Two actions of a resource are at one path if both are about the collection, or neither is. -/
theorem pathOf_inj {a b : Action} (same : view.pathOf identifier a = view.pathOf identifier b) :
    a.onCollection = b.onCollection := by
  have apart := view.collectionPath_ne_itemPath identifier
  simp only [pathOf] at same
  split at same <;> split at same
  · simp_all
  · exact absurd same apart
  · exact absurd same.symm apart
  · simp_all

/-- Under the path of an action stands its operation, if it is permitted. -/
theorem operation?_of_offers (offers : Synthesis.Offers settings view identifier path item)
    {a : Action} (here : view.pathOf identifier a = path) :
    item.operation? a.method = view.whenAllowed a.permission (view.operationOf settings a) := by
  have apart := view.collectionPath_ne_itemPath identifier
  cases about : a.onCollection with
  | true =>
    rw [pathOf, if_pos about] at here
    rcases offers with ⟨_, made⟩ | ⟨same, _⟩
    · rw [collectionItem?] at made
      split at made
      · cases made
        cases a
        case list | create => rfl
        all_goals cases about
      · cases made
    · exact absurd (here.trans same) apart
  | false =>
    rw [pathOf, about, if_neg Bool.false_ne_true] at here
    rcases offers with ⟨same, _⟩ | ⟨_, made⟩
    · exact absurd (here.trans same).symm apart
    · rw [item?] at made
      split at made
      · cases made
        cases a
        case read | update | delete => rfl
        all_goals cases about
      · cases made

/-- Each operation that a resource puts under a path is that of an action. -/
theorem exists_action_of_offers (offers : Synthesis.Offers settings view identifier path item)
    (found : item.operation? method = some operation) :
    ∃ a : Action, view.pathOf identifier a = path ∧ a.method = method := by
  rcases offers with ⟨rfl, made⟩ | ⟨rfl, made⟩
  · rw [collectionItem?] at made
    split at made
    · cases made
      cases method
      case get => exact ⟨.list, rfl, rfl⟩
      case post => exact ⟨.create, rfl, rfl⟩
      all_goals contradiction
    · contradiction
  · rw [item?] at made
    split at made
    · cases made
      cases method
      case get => exact ⟨.read, rfl, rfl⟩
      case patch => exact ⟨.update, rfl, rfl⟩
      case delete => exact ⟨.delete, rfl, rfl⟩
      case post => contradiction
    · contradiction

/-- A resource puts an item under the paths of what is permitted. -/
theorem exists_offers_iff : (∃ item, Synthesis.Offers settings view identifier path item) ↔
    ∃ a : Action, view.allows a.permission ∧ view.pathOf identifier a = path := by
  constructor
  · rintro ⟨item, ⟨rfl, made⟩ | ⟨rfl, made⟩⟩
    · rw [collectionItem?] at made
      split at made
      · rename_i some_allowed
        rcases Bool.or_eq_true_iff.mp some_allowed with allowed | allowed
        · exact ⟨.list, allowed, rfl⟩
        · exact ⟨.create, allowed, rfl⟩
      · contradiction
    · rw [item?] at made
      split at made
      · rename_i some_allowed
        rcases Bool.or_eq_true_iff.mp some_allowed with some_allowed | allowed
        · rcases Bool.or_eq_true_iff.mp some_allowed with allowed | allowed
          · exact ⟨.read, allowed, rfl⟩
          · exact ⟨.update, allowed, rfl⟩
        · exact ⟨.delete, allowed, rfl⟩
      · contradiction
  · rintro ⟨a, allowed, rfl⟩
    cases a
    case list | create => exact ⟨_, .inl ⟨rfl, if_pos (by simp only [Bool.or_eq_true]; tauto)⟩⟩
    all_goals exact ⟨_, .inr ⟨rfl, if_pos (by simp only [Bool.or_eq_true]; tauto)⟩⟩

end ResourceView
end ObjectRole
