import ObjectRole.Proofs.Api.Orderly
import ObjectRole.Proofs.Json.Paths

/-! Payloads in wrappers. The shape of a wrapper is edited at the end of the path only: there a
payload takes the place of what stood, or without a payload the property goes; all around it, and
everywhere if the path leads nowhere, the shape stays as it is. -/
namespace ObjectRole

namespace Schema

/-- What a path leads to through properties. -/
def getAt? : List String → Schema → Option Schema
  | [], s => some s
  | name :: rest, s => (s.property? name).bind (getAt? rest)

/-- A path leads through the shape of a value as it leads through the value, to the shape of what
stands there. -/
theorem getAt?_ofExample (p : List String) (w : Json) :
    (ofExample w).getAt? p = (w.getAt? p).map ofExample := by
  induction p generalizing w with
  | nil => rfl
  | cons name rest ih =>
    rw [getAt?, property?_ofExample, Json.getAt?]
    cases Entries.get? name w.fieldsOf with
    | none => rfl
    | some inner => exact ih inner

/-- Two schemas that differ at the end of a path only: a property stands there in one, and what
takes its place, if anything, in the other. On the way the properties in front and behind are the
same, and so is all besides the properties. -/
inductive Edited (old : Schema) (new : Option Schema) : List String → Schema → Schema → Prop
  | here {name : String} {s : Schema} {front back : List (String × Schema)}
      (lists : s.properties = some (front ++ (name, old) :: back))
      (once : name ∉ (front ++ back).map (·.1)) :
      Edited old new [name] s
        { s with properties := some (front ++ (new.toList.map (name, ·) ++ back)) }
  | onward {name : String} {rest : List String} {s child changed : Schema}
      {front back : List (String × Schema)}
      (lists : s.properties = some (front ++ (name, child) :: back))
      (once : name ∉ (front ++ back).map (·.1)) (inside : Edited old new rest child changed) :
      Edited old new (name :: rest) s
        { s with properties := some (front ++ (name, changed) :: back) }

variable {s t old : Schema} {new payload : Option Schema} {name : String} {p q : List String}

theorem property?_of_lists {entries : List (String × Schema)} (lists : s.properties = some entries)
    (name : String) : s.property? name = Entries.get? name entries := by
  rw [property?, fields, lists, Option.getD_some]

/-- What stands at a name that comes once among properties. -/
theorem get?_once {front back : List (String × Schema)} (once : name ∉ (front ++ back).map (·.1))
    (between : List (String × Schema)) :
    Entries.get? name (front ++ (between ++ back)) = Entries.get? name between := by
  rw [List.map_append, List.mem_append, not_or] at once
  rw [Entries.get?_append, Entries.get?_append, Entries.get?_eq_none_iff.mpr once.1,
    Entries.get?_eq_none_iff.mpr once.2, Option.none_or, Option.or_none]

/-- The path leads to what is edited, and afterwards to what took its place. -/
theorem Edited.getAt? (edited : Edited old new p s t) : s.getAt? p = some old ∧ t.getAt? p = new := by
  induction edited with
  | @here name s front back lists once =>
    constructor
    · rw [Schema.getAt?, property?_of_lists lists, ← List.singleton_append, get?_once once,
        Entries.get?_cons, if_pos rfl]
      rfl
    · rw [Schema.getAt?, property?_of_lists rfl, get?_once once]
      cases new with
      | none => rfl
      | some payload =>
        rw [Option.toList_some, List.map_singleton, Entries.get?_cons, if_pos rfl]
        rfl
  | @onward name rest s child changed front back lists once inside ih =>
    constructor
    · rw [Schema.getAt?, property?_of_lists lists, ← List.singleton_append, get?_once once,
        Entries.get?_cons, if_pos rfl]
      exact ih.1
    · rw [Schema.getAt?, property?_of_lists rfl, ← List.singleton_append, get?_once once,
        Entries.get?_cons, if_pos rfl]
      exact ih.2

theorem get?_elsewhere {other : String} (distinct : other ≠ name)
    {between : List (String × Schema)} (named : ∀ entry ∈ between, entry.1 = name)
    (front back : List (String × Schema)) :
    Entries.get? other (front ++ (between ++ back)) = Entries.get? other (front ++ back) := by
  have missing : Entries.get? other between = none := by
    refine Entries.get?_eq_none_iff.mpr fun listed => ?_
    obtain ⟨entry, inside, rfl⟩ := List.mem_map.mp listed
    exact distinct (named entry inside)
  rw [Entries.get?_append, Entries.get?_append, missing, Option.none_or, Entries.get?_append]

/-- Paths that neither begin with the edited one nor end on the way to it lead where they led. -/
theorem Edited.getAt?_of_apart (edited : Edited old new p s t) (not_below : ¬p <+: q)
    (not_above : ¬q <+: p) : t.getAt? q = s.getAt? q := by
  induction edited generalizing q with
  | @here name s front back lists once =>
    cases q with
    | nil => exact absurd List.nil_prefix not_above
    | cons other more =>
      have distinct : other ≠ name := by
        rintro rfl
        exact not_below (List.cons_prefix_cons.mpr ⟨rfl, List.nil_prefix⟩)
      rw [Schema.getAt?, Schema.getAt?, property?_of_lists lists, property?_of_lists rfl,
        ← List.singleton_append (x := (name, old)), get?_elsewhere distinct (by simp),
        get?_elsewhere distinct (by simp)]
  | @onward name rest s child changed front back lists once inside ih =>
    cases q with
    | nil => exact absurd List.nil_prefix not_above
    | cons other more =>
      rw [Schema.getAt?, Schema.getAt?, property?_of_lists lists, property?_of_lists rfl]
      rw [← List.singleton_append, ← List.singleton_append (x := (name, child))]
      by_cases same : other = name
      · subst same
        rw [List.cons_prefix_cons, not_and] at not_below not_above
        rw [get?_once once, get?_once once, Entries.get?_cons, Entries.get?_cons, if_pos rfl,
          if_pos rfl]
        exact ih (not_below rfl) (not_above rfl)
      · rw [get?_elsewhere same (by simp), get?_elsewhere same (by simp)]

/-- Where a property of an orderly schema stands, and what replacing and removing it leaves. -/
structure Stands (s child : Schema) (name : String) (front back : List (String × Schema)) :
    Prop where
  lists : s.properties = some (front ++ (name, child) :: back)
  once : name ∉ (front ++ back).map (·.1)
  orderly : child.Orderly
  replaced : ∀ property, s.withProperty name property =
    { s with properties := some (front ++ (name, property) :: back) }
  removed : s.properties.map (Entries.erase name) = some (front ++ back)

theorem exists_stands {child : Schema} (orderly : s.Orderly) (found : s.property? name = some child) :
    ∃ front back, s.Stands child name front back := by
  obtain ⟨front, back, split⟩ := List.append_of_mem (Entries.mem_of_get? found)
  have lists : s.properties = some (front ++ (name, child) :: back) := by
    rw [fields] at split
    cases listed : s.properties with
    | some entries =>
      rw [listed] at split
      exact congrArg some split
    | none =>
      rw [listed] at split
      exact absurd split.symm (List.append_ne_nil_of_right_ne_nil front (List.cons_ne_nil _ _))
  have ordered := orderly.fields.ordered
  rw [split] at ordered
  have once : name ∉ (front ++ back).map (·.1) := by
    have distinct := ordered.nodup_keys
    rw [List.map_append, List.map_cons, List.nodup_middle, ← List.map_append] at distinct
    exact (List.nodup_cons.mp distinct).1
  refine ⟨front, back, lists, once, ?_, fun property => ?_, ?_⟩
  · exact orderly.fields.each _ (Entries.mem_of_get? found)
  · have below : ∀ entry ∈ front, entry.1 < name :=
      fun entry listed => (List.pairwise_append.mp ordered).2.2 entry listed _ (.head _)
    rw [withProperty, split, Entries.insert_middle below]
  · rw [lists, Option.map_some, Entries.erase_middle once]

/-- What stands already may be put there again. -/
theorem Stands.withProperty_self {child : Schema} {front back : List (String × Schema)}
    (stands : s.Stands child name front back) : s.withProperty name child = s := by
  rw [stands.replaced, ← stands.lists]
  cases s
  rfl

/-! ### Putting a payload -/

theorem updateAt_edited (orderly : s.Orderly) (filled : p ≠ []) (found : s.getAt? p = some old)
    (payload : Schema) : Edited old (some payload) p s (updateAt (fun _ => payload) p s) := by
  induction p generalizing s with
  | nil => exact absurd rfl filled
  | cons name rest ih =>
    obtain ⟨child, at_name, found⟩ := Option.bind_eq_some_iff.mp found
    obtain ⟨front, back, stands⟩ := exists_stands orderly at_name
    rw [updateAt, at_name]
    dsimp only
    rw [stands.replaced]
    cases rest with
    | nil =>
      cases found
      exact .here stands.lists stands.once
    | cons next more =>
      exact .onward stands.lists stands.once (ih stands.orderly (List.cons_ne_nil _ _) found)

/-- Where a path leads nowhere, nothing is put. -/
theorem updateAt_eq_self (orderly : s.Orderly) (nowhere : p ≠ [] → s.getAt? p = none)
    (change : Schema → Schema) : updateAt change p s = s := by
  induction p generalizing s with
  | nil => rfl
  | cons name rest ih =>
    have nowhere := nowhere (List.cons_ne_nil _ _)
    rw [updateAt]
    cases at_name : s.property? name with
    | none => rfl
    | some child =>
      rw [getAt?, at_name, Option.bind_some] at nowhere
      obtain ⟨front, back, stands⟩ := exists_stands orderly at_name
      cases rest with
      | nil => contradiction
      | cons next more =>
        dsimp only
        rw [if_neg (by simp), ih stands.orderly fun _ => nowhere, stands.withProperty_self]

/-! ### Removing a property -/

theorem removeAt_edited (orderly : s.Orderly) (filled : p ≠ []) (found : s.getAt? p = some old) :
    Edited old none p s (removeAt p s) := by
  induction p generalizing s with
  | nil => exact absurd rfl filled
  | cons name rest ih =>
    obtain ⟨child, at_name, found⟩ := Option.bind_eq_some_iff.mp found
    obtain ⟨front, back, stands⟩ := exists_stands orderly at_name
    cases rest with
    | nil =>
      cases found
      rw [removeAt, stands.removed]
      exact .here stands.lists stands.once
    | cons next more =>
      rw [removeAt, at_name]
      · dsimp only
        rw [stands.replaced]
        exact .onward stands.lists stands.once (ih stands.orderly (List.cons_ne_nil _ _) found)
      · exact List.cons_ne_nil _ _

/-- Where a path leads nowhere, nothing is removed. -/
theorem removeAt_eq_self (orderly : s.Orderly) (nowhere : p ≠ [] → s.getAt? p = none) :
    removeAt p s = s := by
  induction p generalizing s with
  | nil => rfl
  | cons name rest ih =>
    have nowhere := nowhere (List.cons_ne_nil _ _)
    rw [getAt?] at nowhere
    cases rest with
    | nil =>
      have missing : s.property? name = none := by
        cases at_name : s.property? name with
        | none => rfl
        | some child =>
          rw [at_name] at nowhere
          contradiction
      rw [removeAt]
      obtain ⟨k, properties, items, allOf, oneOf⟩ := s
      cases properties with
      | none => rfl
      | some entries =>
        have kept : Entries.erase name entries = entries := Entries.erase_of_get?_eq_none missing
        rw [Option.map_some, kept]
    | cons next more =>
      rw [removeAt]
      · cases at_name : s.property? name with
        | none => rfl
        | some child =>
          rw [at_name, Option.bind_some] at nowhere
          obtain ⟨front, back, stands⟩ := exists_stands orderly at_name
          dsimp only
          rw [ih stands.orderly fun _ => nowhere, stands.withProperty_self]
      · exact List.cons_ne_nil _ _

/-! ### Wrappers -/

theorem exists_wrapped {w : Json} (orderly : w.Orderly) (path : String) (payload : Option Schema) :
    ∃ wrapped, wrap (some w) path payload = some wrapped ∧
      (∀ old, pathSteps path ≠ [] → (ofExample w).getAt? (pathSteps path) = some old →
        Edited old payload (pathSteps path) (ofExample w) wrapped) ∧
      ((pathSteps path ≠ [] → (ofExample w).getAt? (pathSteps path) = none) →
        wrapped = ofExample w) := by
  have shape := orderly_ofExample orderly
  cases payload with
  | some payload =>
    exact ⟨_, rfl, fun old filled found => updateAt_edited shape filled found payload,
      fun nowhere => updateAt_eq_self shape nowhere _⟩
  | none =>
    exact ⟨_, rfl, fun old filled found => removeAt_edited shape filled found,
      fun nowhere => removeAt_eq_self shape nowhere⟩

/-- The shape of a wrapper, whose objects list their members in key order as all values do that are
read, is followed along a path as the wrapper is, and ends in the shape of what stands there.
Wrapped, a payload takes its place, or none removes it, if the path leads anywhere; otherwise all
of the shape is left. What other paths lead to stays, unless one of the two paths begins with the
other. -/
theorem wrap_edits (w : Json) (orderly : w.Orderly) (path : String) (payload : Option Schema) :
    (ofExample w).getAt? (pathSteps path) = (w.getAt? (pathSteps path)).map ofExample ∧
    ∃ wrapped, wrap (some w) path payload = some wrapped ∧
      (∀ value, pathSteps path ≠ [] → w.getAt? (pathSteps path) = some value →
        Edited (ofExample value) payload (pathSteps path) (ofExample w) wrapped ∧
          wrapped.getAt? (pathSteps path) = payload) ∧
      (pathSteps path = [] ∨ w.getAt? (pathSteps path) = none → wrapped = ofExample w) ∧
      ∀ other, ¬pathSteps path <+: other → ¬other <+: pathSteps path →
        wrapped.getAt? other = (ofExample w).getAt? other := by
  have followed := getAt?_ofExample (pathSteps path) w
  obtain ⟨wrapped, run, edits, idles⟩ := exists_wrapped orderly path payload
  refine ⟨followed, wrapped, run, fun value filled found => ?_, fun nowhere => idles fun filled => ?_,
    fun other not_below not_above => ?_⟩
  · have edited := edits (ofExample value) filled (by rw [followed, found, Option.map_some])
    exact ⟨edited, edited.getAt?.2⟩
  · rw [followed, nowhere.resolve_left filled, Option.map_none]
  · have filled : pathSteps path ≠ [] := fun none => not_below (none ▸ List.nil_prefix)
    cases found : (ofExample w).getAt? (pathSteps path) with
    | some old => exact (edits old filled found).getAt?_of_apart not_below not_above
    | none => rw [idles fun _ => found]

/-- A wrapper with the payload two steps down, and a list beside it. -/
def nestedWrapper : Json :=
  .object [
    ("result", .object [("data", .object []), ("ok", .bool true)]),
    ("tags", .array [.string "a"])]

theorem wrap_edits_of_nestedWrapper : nestedWrapper.Orderly ∧
    pathSteps "result..data" ≠ [] ∧
    nestedWrapper.getAt? (pathSteps "result..data") = some (.object []) ∧
    ∃ wrapped bared,
      wrap (some nestedWrapper) "result..data" (some (component "Person")) = some wrapped ∧
      wrapped.getAt? (pathSteps "result..data") = some (component "Person") ∧
      wrapped.getAt? ["tags"] = some (arrayOf (typed "string")) ∧
      wrap (some nestedWrapper) "result..data" none = some bared ∧
      bared.getAt? (pathSteps "result..data") = none ∧
      bared.getAt? ["result", "ok"] = some (typed "boolean") := by
  have orderly : nestedWrapper.Orderly := by
    refine ⟨?_, ⟨?_, ⟨.nil, trivial⟩, trivial, trivial⟩, ⟨trivial, trivial⟩, trivial⟩
    · exact List.pairwise_pair.mpr (by decide)
    · exact List.pairwise_pair.mpr (by decide)
  have steps : pathSteps "result..data" = ["result", "data"] := by decide +kernel
  have filled : pathSteps "result..data" ≠ [] := by
    rw [steps]
    decide
  have found : nestedWrapper.getAt? (pathSteps "result..data") = some (.object []) := by
    rw [steps]
    rfl
  obtain ⟨_, wrapped, run, edits, _, stays⟩ :=
    wrap_edits nestedWrapper orderly "result..data" (some (component "Person"))
  obtain ⟨_, bared, bared_run, removes, _, kept⟩ :=
    wrap_edits nestedWrapper orderly "result..data" none
  refine ⟨orderly, filled, found, wrapped, bared, run, (edits _ filled found).2, ?_, bared_run,
    (removes _ filled found).2, ?_⟩
  · rw [stays ["tags"] (by rw [steps]; decide) (by rw [steps]; decide)]
    rfl
  · rw [kept ["result", "ok"] (by rw [steps]; decide) (by rw [steps]; decide)]
    rfl

end Schema
end ObjectRole
