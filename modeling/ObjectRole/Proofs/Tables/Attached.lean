import ObjectRole.Proofs.Model.Ranks
import ObjectRole.Proofs.Schema.Gathers
import ObjectRole.Proofs.Tables.Contents
import Mathlib.Data.List.ReduceOption

/-! The properties that fact types put on tables. A fact type puts at most one on a table, under a
name that comes from its reading, and replaces what stands there. So all properties stand in the end
exactly if those of the same subject and name are equal, and otherwise the last one hides the
others. -/
namespace ObjectRole

theorem Schema.property?_withProperty (s : Schema) (name other : String) (property : Schema) :
    (s.withProperty name property).property? other =
      if other = name then some property else s.property? other :=
  Entries.get?_insert ..

theorem Schema.property?_withSample (s : Schema) (name other : String) (sample : Json) :
    (Tables.withSample s name sample).property? other = s.property? other := by
  unfold Tables.withSample
  split <;> rfl

/-- A property that a fact type puts on the table of a subject. -/
structure Attachment where
  factType : FactTypeId
  subject : Player
  name : String
  property : Schema

/-- Two properties that belong under the same name on the same table. -/
def Attachment.Clashes (a b : Attachment) : Prop := a.subject = b.subject ∧ a.name = b.name

theorem Attachment.Clashes.refl (a : Attachment) : a.Clashes a := ⟨rfl, rfl⟩

theorem Attachment.Clashes.trans {a b c : Attachment} (one : a.Clashes b) (other : b.Clashes c) :
    a.Clashes c := ⟨one.1.trans other.1, one.2.trans other.2⟩

/-- The property stands under its name on the table of its subject. -/
def Attachment.StandsIn (s : Snapshot) (b : BuiltTables) (a : Attachment) : Prop :=
  b.schemas.tell (·.property? a.name) (updateKey (s.keyOf a.subject)) = some a.property

/-- Fact types of this shape put a property on a table. -/
def Shape.attaches : Shape → Bool
  | .functional _ _ | .arrayValued _ _ | .unary _ => true
  | .association _ | .independent => false

namespace Tables

variable {s : Snapshot} {t u : Tables} {key tier title name : String} {f : Schema → Schema}
  {subject object : Player}

/-- What stands under a name on the update tier of a key. -/
def propertyAt (t : Tables) (key name : String) : Option Schema :=
  t.schemas.tell (·.property? name) (updateKey key)

theorem propertyAt_congr (same : t.contents key = u.contents key) :
    t.propertyAt key name = u.propertyAt key name := by
  have update : t.schemas.get? (updateKey key) = u.schemas.get? (updateKey key) :=
    congrArg TableContents.update same
  rw [propertyAt, propertyAt, SchemaMap.tell, SchemaMap.tell, update]

theorem propertyAt_change_frame (off : updateKey key ≠ tier) :
    (t.change tier f).propertyAt key name = t.propertyAt key name := by
  rw [propertyAt, propertyAt, SchemaMap.tell, SchemaMap.tell, get?_change, if_neg off]

/-- What is not there has no properties. -/
theorem propertyAt_change_self : (t.change (updateKey key) f).propertyAt key name =
    (f ((t.schemas.get? (updateKey key)).getD .empty)).property? name := by
  rw [propertyAt, SchemaMap.tell, get?_change, if_pos rfl, Option.bind_some]

theorem propertyAt_eq (t : Tables) (key name : String) : t.propertyAt key name =
    ((t.schemas.get? (updateKey key)).getD .empty).property? name := by
  rw [propertyAt, SchemaMap.tell]
  cases t.schemas.get? (updateKey key) <;> rfl

theorem propertyAt_withProperty {own : String} {property : Schema} :
    (t.change (updateKey key) (·.withProperty own property)).propertyAt key name =
      if name = own then some property else t.propertyAt key name := by
  rw [propertyAt_change_self, Schema.property?_withProperty, propertyAt_eq]

theorem propertyAt_setProperty {p : Property} :
    (t.setProperty key title p).2.propertyAt key name =
      if name = Naming.stripSubject p.name title then some (p.schema.describedAs p.description)
      else t.propertyAt key name := by
  unfold setProperty
  dsimp only
  generalize Naming.stripSubject p.name title = own
  rw [← propertyAt_withProperty]
  generalize t.change (updateKey key) (·.withProperty own (p.schema.describedAs p.description)) = v
  have off : updateKey key ≠ requiringKey key own := by
    unfold requiringKey
    split
    · exact updateKey_ne_self
    · exact updateKey_ne_newKey
  have required : (if p.required then v.change (requiringKey key own) (·.require own)
      else v).propertyAt key name = v.propertyAt key name := by
    split
    · exact propertyAt_change_frame off
    · rfl
  rw [← required]
  split
  · rw [propertyAt_change_self, Schema.property?_withSample, ← propertyAt_eq]
  · rfl

theorem propertyAt_openTable :
    (t.openTable s subject).propertyAt (s.keyOf subject) name = none := by
  rw [propertyAt, SchemaMap.tell, get?_schemas_openTable, if_neg updateKey_ne_self,
    if_neg updateKey_ne_newKey, if_pos rfl, Option.bind_some, Snapshot.updateTier]
  split <;> rfl

end Tables

namespace Snapshot

open Build Tables

/-- The name of the property by which a player identifies a subject. -/
def identifierName (s : Snapshot) (subject object : Player) : String :=
  Naming.stripSubject (Naming.propertyName (s.nameOf object)) (s.nameOf subject)

/-- A name is on the table of a subject, or will be as soon as the table is opened. -/
def HasName (s : Snapshot) (t : Tables) (subject : Player) (name : String) : Prop :=
  if t.subjects.get? (s.keyOf subject) = some subject then
    (t.propertyAt (s.keyOf subject) name).isSome = true
  else ∃ entry ∈ s.identifiers subject, name = s.identifierName subject entry.1

/-- What a fact type of a shape puts on the table of its owner, if it puts anything on one. -/
def attachment (s : Snapshot) (id : FactTypeId) : Shape → Except CompileError (Option Attachment)
  | .functional owner value => do
    let subject := s.playerOf owner
    let object := s.playerOf value
    let tokens ← s.predicateOf s.pattern id
    let span ← tokens.objectSpan (s.factType id).title (s.nameOf subject) (s.nameOf object) none
    let span := span.capitalized
    return some {
      factType := id
      subject
      name := Naming.stripSubject (Naming.propertyNameOf span.words) (s.nameOf subject)
      property := (s.schemaOf s.buildSteps object).describedAs span.tokens.render }
  | .arrayValued owner item => do
    let subject := s.playerOf owner
    let object := s.playerOf item
    let plural := (s.pluralOf object).filter (!·.isEmpty)
    let tokens ← s.predicateOf s.pattern id
    let span ← tokens.objectSpan (s.factType id).title (s.nameOf subject) (s.nameOf object) plural
    let span := span.capitalized
    let singular := Naming.propertyNameOf span.words
    return some {
      factType := id
      subject
      name := if plural.isNone then Naming.pluralize singular else singular
      property := (Schema.arrayOf (s.schemaOf s.buildSteps object)).describedAs
        span.tokens.render }
  | .unary role => do
    let subject := s.playerOf role
    let tokens ← s.predicateOf s.pattern id
    let span ← tokens.restSpan (s.factType id).title (s.nameOf subject)
    return some {
      factType := id
      subject
      name := Naming.stripSubject (Naming.propertyNameOf span.words) (s.nameOf subject)
      property := (Schema.typed "boolean").describedAs tokens.render }
  | .association _ | .independent => return none

/-- What fact types put on tables, in the order in which they do. -/
def attachments (s : Snapshot) : Except CompileError (List Attachment) := do
  let shapes ← s.orderedFactTypes.mapM fun id => (id, ·) <$> s.shapeOf id
  let each ← (phased shapes).mapM fun entry => s.attachment entry.1 entry.2
  return each.reduceOption

variable {s : Snapshot} {t u v : Tables} {key name : String} {subject : Player}
  {id : FactTypeId} {shape : Shape} {rank : Player → Nat} {attached : Option Attachment}
  {b : BuiltTables}

/-- What putting properties on tables leaves, one after the other: of those with the same subject
and name the last one stands, and properties of tables that were open are left alone otherwise. -/
structure Attaches (s : Snapshot) (list : List Attachment) (t u : Tables) : Prop where
  keeps : ∀ {key player}, t.subjects.get? key = some player → u.subjects.get? key = some player
  listed : t.Listed → u.Listed
  open_at : ∀ a ∈ list, u.subjects.get? (s.keyOf a.subject) = some a.subject
  last : Apart (u.subjects.contains ·) → ∀ {before a after}, list = before ++ a :: after →
    (∀ later ∈ after, ¬a.Clashes later) →
      u.propertyAt (s.keyOf a.subject) a.name = some a.property
  frame : Apart (u.subjects.contains ·) → ∀ {subject name},
    t.subjects.get? (s.keyOf subject) = some subject →
      (∀ a ∈ list, ¬(subject = a.subject ∧ name = a.name)) →
        u.propertyAt (s.keyOf subject) name = t.propertyAt (s.keyOf subject) name
  names : t.Listed → Apart (u.subjects.contains ·) → ∀ subject name,
    (s.HasName u subject name ↔
      s.HasName t subject name ∨ ∃ a ∈ list, subject = a.subject ∧ name = a.name)

/-- Identifiers put their names on the table of their subject, and no others. -/
theorem isSome_propertyAt_withIdentifiers {list : List (Player × Bool)} :
    ((s.withIdentifiers subject list t).propertyAt (s.keyOf subject) name).isSome ↔
      (t.propertyAt (s.keyOf subject) name).isSome ∨
        ∃ entry ∈ list, name = s.identifierName subject entry.1 := by
  induction list generalizing t with
  | nil => simp [withIdentifiers]
  | cons entry rest ih =>
    have put : ((t.identifyBy s subject entry.1 entry.2 (s.schemaOf s.buildSteps
        entry.1)).propertyAt (s.keyOf subject) name).isSome ↔
          name = s.identifierName subject entry.1 ∨
            (t.propertyAt (s.keyOf subject) name).isSome := by
      rw [identifyBy_eq]
      change (propertyAt (setProperty ..).2 _ _).isSome ↔ _
      rw [propertyAt_setProperty]
      split
      · rename_i own
        exact iff_of_true rfl (.inl own)
      · rename_i other
        exact (or_iff_right other).symm
    rw [withIdentifiers, List.foldl_cons, ← withIdentifiers, ih, put, List.exists_mem_cons_iff,
      or_assoc, or_left_comm]

/-- A complete table has the names of its subject's identifiers. -/
theorem isSome_propertyAt_of_complete
    (complete : t.contents (s.keyOf subject) = s.completeContents subject) :
    (t.propertyAt (s.keyOf subject) name).isSome ↔
      ∃ entry ∈ s.identifiers subject, name = s.identifierName subject entry.1 := by
  rw [propertyAt_congr complete, isSome_propertyAt_withIdentifiers, propertyAt_openTable]
  exact or_iff_right nofun

/-- Calls put no names on tables but those of identifiers. -/
theorem Completes.hasName_iff (completes : Completes s (fun _ => False) t u) (listed : t.Listed)
    (apart : Apart (u.subjects.contains ·)) :
    s.HasName u subject name ↔ s.HasName t subject name := by
  by_cases earlier : t.subjects.get? (s.keyOf subject) = some subject
  · rw [HasName, HasName, if_pos earlier, if_pos (completes.keeps earlier),
      propertyAt_congr (completes.frame apart (Dict.contains_iff.mpr ⟨_, earlier⟩) id)]
  · rw [HasName, HasName, if_neg earlier]
    split
    · rename_i taken
      exact isSome_propertyAt_of_complete
        ((completes.complete listed apart taken).resolve_left earlier)
    · rfl

namespace Attaches

theorem of_calls (completes : Completes s (fun _ => False) t u) : Attaches s [] t u where
  keeps := completes.keeps
  listed := completes.listed
  open_at _ listed := absurd listed List.not_mem_nil
  last _ before _ after split _ :=
    absurd (split ▸ List.mem_append_right before (.head after)) List.not_mem_nil
  frame apart _ _ there _ := propertyAt_congr
    (completes.frame apart (Dict.contains_iff.mpr ⟨_, there⟩) id)
  names listed apart _ _ := by
    rw [completes.hasName_iff listed apart]
    exact (or_iff_left nofun).symm

/-- A property is put on a table behind some calls. -/
theorem of_change {a : Attachment} (completes : Completes s (fun _ => False) t v)
    (open_at : v.subjects.get? (s.keyOf a.subject) = some a.subject)
    (same : u.subjects = v.subjects) (identifying : u.identifying = v.identifying)
    (own : ∀ name, u.propertyAt (s.keyOf a.subject) name =
      if name = a.name then some a.property else v.propertyAt (s.keyOf a.subject) name)
    (others : Apart (v.subjects.contains ·) → ∀ key, v.subjects.contains key →
      key ≠ s.keyOf a.subject → u.contents key = v.contents key) : Attaches s [a] t u where
  keeps there := same ▸ completes.keeps there
  listed listed key there := by
    rw [identifying] at there
    exact same ▸ completes.listed listed key there
  open_at b listed := by
    rw [List.mem_singleton.mp listed, same, open_at]
  last _ before b after split _ := by
    have listed : b ∈ [a] := split ▸ List.mem_append_right before (.head after)
    rw [List.mem_singleton.mp listed, own, if_pos rfl]
  frame apart subject name there unlike := by
    have before := completes.frame (same ▸ apart) (Dict.contains_iff.mpr ⟨_, there⟩) id
    rw [← propertyAt_congr before]
    have later := completes.keeps there
    -- Different subjects may have one key, but only one of them is open there.
    by_cases here : s.keyOf subject = s.keyOf a.subject
    · rw [here] at later ⊢
      have distinct : name ≠ a.name := fun named =>
        unlike a (.head _) ⟨Option.some.inj (later.symm.trans open_at), named⟩
      rw [own, if_neg distinct]
    · exact propertyAt_congr
        (others (same ▸ apart) _ (Dict.contains_iff.mpr ⟨_, later⟩) here)
  names listed apart subject name := by
    rw [← completes.hasName_iff listed (same ▸ apart), HasName, HasName, same]
    simp only [List.mem_singleton, exists_eq_left]
    by_cases mine : subject = a.subject
    · rw [mine, if_pos open_at, if_pos open_at, own]
      split
      · rename_i named
        exact iff_of_true rfl (.inr ⟨rfl, named⟩)
      · rename_i unlike
        exact (or_iff_left fun named => unlike named.2).symm
    · rw [or_iff_left fun named => mine named.1]
      split
      · rename_i taken
        have distinct : s.keyOf subject ≠ s.keyOf a.subject := fun here =>
          mine (Option.some.inj (taken.symm.trans (here ▸ open_at)))
        rw [propertyAt_congr
          (others (same ▸ apart) _ (Dict.contains_iff.mpr ⟨_, taken⟩) distinct)]
      · rfl

theorem contains {list : List Attachment} (attaches : Attaches s list t u) (key : String)
    (taken : t.subjects.contains key) : u.subjects.contains key := by
  obtain ⟨_, taken⟩ := Dict.contains_iff.mp taken
  exact Dict.contains_iff.mpr ⟨_, attaches.keeps taken⟩

theorem trans {list more : List Attachment} (first : Attaches s list t u)
    (second : Attaches s more u v) : Attaches s (list ++ more) t v where
  keeps there := second.keeps (first.keeps there)
  listed listed := second.listed (first.listed listed)
  open_at a listed := (List.mem_append.mp listed).elim
    (fun earlier => second.keeps (first.open_at a earlier)) (second.open_at a)
  last apart before a after split unlike := by
    -- The property is one of the later ones, or the later ones are among those behind it.
    rcases List.append_eq_append_iff.mp split with ⟨_, _, inside⟩ | ⟨rest, inside, behind⟩
    · exact second.last apart inside unlike
    · cases rest with
      | nil =>
        have start : more = [] ++ a :: after := behind.symm
        exact second.last apart start unlike
      | cons own rest =>
        obtain ⟨rfl, rfl⟩ := List.cons.inj behind
        obtain ⟨unlike_first, unlike_second⟩ := List.forall_mem_append.mp unlike
        have there := first.open_at a (inside ▸ List.mem_append_right _ (.head _))
        rw [second.frame apart there unlike_second]
        exact first.last (apart.mono second.contains) inside unlike_first
  frame apart subject name there unlike := by
    obtain ⟨unlike_first, unlike_second⟩ := List.forall_mem_append.mp unlike
    rw [second.frame apart (first.keeps there) unlike_second,
      first.frame (apart.mono second.contains) there unlike_first]
  names listed apart subject name := by
    rw [second.names (first.listed listed) apart, first.names listed (apart.mono second.contains)]
    simp only [List.mem_append, or_and_right, exists_or, or_assoc]

theorem of_withProperty (id : FactTypeId) {property : Schema}
    (completes : Completes s (fun _ => False) t v)
    (open_at : v.subjects.get? (s.keyOf subject) = some subject) :
    Attaches s [⟨id, subject, name, property⟩] t
      (v.change (updateKey (s.keyOf subject)) (·.withProperty name property)) := by
  refine .of_change completes open_at rfl rfl (fun other => propertyAt_withProperty) ?_
  intro apart key taken distinct
  refine contents_change_frame fun of_key => distinct ?_
  exact apart.tier_unique taken (Dict.contains_iff.mpr ⟨_, open_at⟩) of_key (.inl rfl)

theorem of_setProperty (id : FactTypeId) {p : Property}
    (completes : Completes s (fun _ => False) t v)
    (open_at : v.subjects.get? (s.keyOf subject) = some subject) :
    Attaches s [⟨id, subject, Naming.stripSubject p.name (s.nameOf subject),
      p.schema.describedAs p.description⟩] t
      (v.setProperty (s.keyOf subject) (s.nameOf subject) p).2 := by
  refine .of_change completes open_at (subjects_setProperty ..) (identifying_setProperty ..)
    (fun name => propertyAt_setProperty) ?_
  intro apart key taken distinct
  refine contents_setProperty_frame fun tier of_subject of_key => distinct ?_
  exact apart.tier_unique taken (Dict.contains_iff.mpr ⟨_, open_at⟩) of_key of_subject

end Attaches

section Run

variable (ample : s.Ample rank)
include ample

theorem addFunctional_attaches {owner value : RoleId} {a : Unit}
    (ran : Yields (s.addFunctional s.pattern id owner value) t a u) :
    ∃ attached, s.attachment id (.functional owner value) = .ok attached ∧
      Attaches s attached.toList t u := by
  obtain ⟨tokens, span, schema, v, w, read, found, opened, made, rfl⟩ := addFunctional_cases ran
  have table := tableOf_grows opened
  have opening := (calls_complete ample _).1 _ _ _ opened
  have making := ((calls_complete ample _).2 _ _ _ made).completes
  refine ⟨some _, ?_, .of_setProperty id (opening.trans making) (making.keeps table.open_at)⟩
  rw [attachment, createProperty_schema made]
  simp only [read, found, bind, Except.bind, pure, Except.pure]

theorem addArrayValued_attaches {owner item : RoleId} {a : Unit}
    (ran : Yields (s.addArrayValued s.pattern id owner item) t a u) :
    ∃ attached, s.attachment id (.arrayValued owner item) = .ok attached ∧
      Attaches s attached.toList t u := by
  obtain ⟨tokens, span, items, v, w, read, found, opened, made, rfl⟩ := addArrayValued_cases ran
  have table := tableOf_grows opened
  have opening := (calls_complete ample _).1 _ _ _ opened
  have making := ((calls_complete ample _).2 _ _ _ made).completes
  refine ⟨some _, ?_, .of_withProperty id (opening.trans making) (making.keeps table.open_at)⟩
  rw [attachment, createProperty_schema made]
  simp only [read, found, bind, Except.bind, pure, Except.pure]

theorem addUnary_attaches {role : RoleId} {a : Unit}
    (ran : Yields (s.addUnary s.pattern id role) t a u) : ∃ attached,
      s.attachment id (.unary role) = .ok attached ∧ Attaches s attached.toList t u := by
  obtain ⟨tokens, span, v, read, found, opened, rfl⟩ := addUnary_cases ran
  have opening := (calls_complete ample _).1 _ _ _ opened
  refine ⟨some _, ?_, .of_setProperty id opening (tableOf_grows opened).open_at⟩
  rw [attachment]
  simp only [read, found, bind, Except.bind, pure, Except.pure]

theorem addFact_attaches {a : Unit} (ran : Yields (s.addFact s.pattern id shape) t a u) :
    ∃ attached, s.attachment id shape = .ok attached ∧ Attaches s attached.toList t u := by
  cases shape with
  | association =>
    have opening := (calls_complete ample _).1 _ _ _ (tableOf_of_discard ran)
    exact ⟨none, rfl, .of_calls opening⟩
  | functional => exact addFunctional_attaches ample ran
  | arrayValued => exact addArrayValued_attaches ample ran
  | unary => exact addUnary_attaches ample ran
  | independent =>
    refine ⟨none, rfl, .of_calls ?_⟩
    refine yields_forM (Completes s (fun _ => False) t) ?_ (.refl fun none => none.elim) ran
    intro player _ v _ w completes ran
    rcases independent_cases ran with ⟨_, rfl⟩ | ⟨_, opened⟩
    · exact completes
    · exact completes.trans ((calls_complete ample player).1 _ _ _ opened)

theorem forM_attaches {entries : List (FactTypeId × Shape)} {a : Unit}
    (ran : Yields (entries.forM fun entry => s.addFact s.pattern entry.1 entry.2) t a u) :
    ∃ each, entries.mapM (fun entry => s.attachment entry.1 entry.2) = .ok each ∧
      Attaches s each.reduceOption t u := by
  induction entries generalizing t with
  | nil =>
    obtain ⟨_, rfl⟩ := yields_pure.mp ran
    exact ⟨[], rfl, .of_calls (.refl fun none => none.elim)⟩
  | cons entry rest ih =>
    obtain ⟨_, v, ran_first, ran⟩ := yields_bind.mp ran
    obtain ⟨attached, named, first⟩ := addFact_attaches ample ran_first
    obtain ⟨each, all_named, later⟩ := ih ran
    refine ⟨attached :: each, ?_, ?_⟩
    · exact mapM_eq_ok_iff.mpr (.cons named (mapM_eq_ok_iff.mp all_named))
    · cases attached with
      | none => exact first.trans later
      | some => exact first.trans later

end Run

/-! ## The fact types that attach -/

theorem attachment_ok (named : s.attachment id shape = .ok attached) :
    attached.isSome = shape.attaches ∧ ∀ a ∈ attached, a.factType = id := by
  cases shape with
  | association | independent =>
    cases named
    exact ⟨rfl, nofun⟩
  | functional | arrayValued | unary =>
    rw [attachment] at named
    simp only [bind_eq_ok_iff, pure_eq_ok_iff] at named
    obtain ⟨_, _, _, _, rfl⟩ := named
    exact ⟨rfl, fun _ is => Option.some.inj is ▸ rfl⟩

theorem nodup_orderedFactTypes (placed : s.InPlace) : s.orderedFactTypes.Nodup := by
  rw [orderedFactTypes_eq, (List.perm_insertionSort _ _).nodup_iff]
  refine .of_map FactTypeId.place ?_
  rw [List.map_map]
  exact placed.factTypes ▸ List.nodup_range

/-- Phases neither double fact types nor lose them. -/
theorem nodup_phased {shapes : List (FactTypeId × Shape)} (nodup : (shapes.map (·.1)).Nodup) :
    ((phased shapes).map (·.1)).Nodup := by
  refine List.Nodup.map_on ?_ ?_
  · intro entry listed other other_listed same
    exact List.inj_on_of_nodup_map nodup (mem_phased.mp listed) (mem_phased.mp other_listed) same
  · refine List.nodup_flatMap.mpr ⟨fun n _ => nodup.of_map.filter _, ?_⟩
    refine List.nodup_range.imp fun distinct entry of_one of_other => distinct ?_
    have one := beq_iff_eq.mp (List.mem_filter.mp of_one).2
    have other := beq_iff_eq.mp (List.mem_filter.mp of_other).2
    exact one.symm.trans other

theorem sublist_factTypes {entries : List (FactTypeId × Shape)} {each : List (Option Attachment)}
    (named : List.Forall₂ (fun entry attached => s.attachment entry.1 entry.2 = .ok attached)
      entries each) : (each.reduceOption.map (·.factType)).Sublist (entries.map (·.1)) := by
  induction named with
  | nil => exact .slnil
  | @cons entry attached _ _ first _ ih =>
    cases attached with
    | none => exact ih.cons _
    | some a =>
      have own := (attachment_ok first).2 a rfl
      rw [List.reduceOption_cons_of_some, List.map_cons, List.map_cons, own]
      exact ih.cons_cons _

/-- Each fact type has a shape and attaches at most one property, and the list has no others. -/
structure Lists (s : Snapshot) (list : List Attachment) : Prop where
  once : (list.map (·.factType)).Nodup
  declared : ∀ a ∈ list, ∃ f ∈ s.factTypes, a.factType = f.id
  each : ∀ f ∈ s.factTypes, ∃ shape attached, s.shapeOf f.id = .ok shape ∧
    s.attachment f.id shape = .ok attached ∧ attached.isSome = shape.attaches ∧
      ∀ a, a ∈ attached ↔ a ∈ list ∧ a.factType = f.id

theorem lists_of_attachments {list : List Attachment} (placed : s.InPlace)
    (named : s.attachments = .ok list) : s.Lists list := by
  obtain ⟨shapes, shaped, rest⟩ := bind_eq_ok_iff.mp named
  obtain ⟨each, attached, same⟩ := bind_eq_ok_iff.mp rest
  obtain rfl := pure_eq_ok_iff.mp same
  obtain ⟨ids, shape_of⟩ := shapes_of_mapM shaped
  have pairs := mapM_eq_ok_iff.mp attached
  constructor
  case once =>
    exact (nodup_phased (ids ▸ nodup_orderedFactTypes placed)).sublist (sublist_factTypes pairs)
  case declared =>
    intro a listed
    have among := (sublist_factTypes pairs).subset (List.mem_map_of_mem listed)
    obtain ⟨entry, inside, same⟩ := List.mem_map.mp among
    have ordered : entry.1 ∈ s.orderedFactTypes :=
      ids ▸ List.mem_map_of_mem (mem_phased.mp inside)
    obtain ⟨f, declared, of_entry⟩ := List.mem_map.mp (mem_orderedFactTypes.mp ordered)
    exact ⟨f, declared, same.symm.trans of_entry.symm⟩
  case each =>
    intro f declared
    have ordered := mem_orderedFactTypes.mpr (List.mem_map_of_mem declared)
    obtain ⟨entry, listed, found⟩ := exists_of_mapM_eq_ok shaped ordered
    obtain ⟨shape, of_fact, rfl⟩ := map_eq_ok_iff.mp found
    obtain ⟨own, own_listed, attaches⟩ := exists_of_forall₂ pairs (mem_phased.mpr listed)
    refine ⟨shape, own, of_fact, attaches, (attachment_ok attaches).1, fun a => ⟨?_, ?_⟩⟩
    · rintro rfl
      exact ⟨List.reduceOption_mem_iff.mpr own_listed, (attachment_ok attaches).2 a rfl⟩
    · rintro ⟨inside, same_id⟩
      obtain ⟨⟨id, other⟩, other_listed, of_other⟩ :=
        exists_of_forall₂ pairs.flip (List.reduceOption_mem_iff.mp inside)
      cases same_id.symm.trans ((attachment_ok of_other).2 a rfl)
      cases of_fact.symm.trans (shape_of (mem_phased.mp other_listed))
      exact Except.ok.inj (attaches.symm.trans of_other)

/-- From any property a list leads to the last one with the same subject and name. -/
theorem exists_last_clash {list : List Attachment} {a : Attachment} (listed : a ∈ list) :
    ∃ before c after, list = before ++ c :: after ∧ a.Clashes c ∧
      ∀ later ∈ after, ¬c.Clashes later := by
  induction list generalizing a with
  | nil => contradiction
  | cons first rest ih =>
    by_cases again : ∃ later ∈ rest, a.Clashes later
    · obtain ⟨later, behind, same⟩ := again
      obtain ⟨before, c, after, rfl, clash, last⟩ := ih behind
      exact ⟨first :: before, c, after, rfl, same.trans clash, last⟩
    · rcases List.mem_cons.mp listed with rfl | behind
      · exact ⟨[], a, rest, rfl, .refl a, fun later inside clash => again ⟨later, inside, clash⟩⟩
      · exact absurd ⟨a, behind, .refl a⟩ again

theorem attachments_of_buildTables (ample : s.Ample rank) (built : s.buildTables = .ok b) :
    ∃ list, s.attachments = .ok list ∧ ∃ t, Attaches s list {} t ∧ Closes s t b := by
  obtain ⟨shapes, t, shaped, ran, finished⟩ := exists_run_of_buildTables built
  obtain ⟨each, named, attaches⟩ := forM_attaches ample ran
  refine ⟨each.reduceOption, ?_, t, attaches, closes_of_finishTables finished⟩
  exact bind_eq_ok_iff.mpr ⟨shapes, shaped, bind_eq_ok_iff.mpr ⟨each, named, rfl⟩⟩

end Snapshot

namespace Document

open Snapshot

variable {d : Document} {s : Snapshot} {b : BuiltTables}

/-- Each fact type that is functional, an array or unary puts one property on the table of its
owner, but of those of the same subject and name only the last one stands on the built tables. So
all of them stand exactly if no two that differ have the same subject and name. -/
theorem attachments_stand (numberable : d.Numberable) (resolved : d.resolve = .ok s)
    (built : s.buildTables = .ok b) : ∃ list, s.attachments = .ok list ∧
      (list.map (·.factType)).Nodup ∧
      (∀ f ∈ s.factTypes, ∃ shape attached, s.shapeOf f.id = .ok shape ∧
        s.attachment f.id shape = .ok attached ∧ attached.isSome = shape.attaches ∧
          ∀ a, a ∈ attached ↔ a ∈ list ∧ a.factType = f.id) ∧
      (∀ {before a after}, list = before ++ a :: after → (∀ later ∈ after, ¬a.Clashes later) →
        a.StandsIn s b) ∧
      ((∀ a ∈ list, a.StandsIn s b) ↔
        ∀ a ∈ list, ∀ c ∈ list, a.Clashes c → a.property = c.property) := by
  have placed := inPlace_of_resolve numberable resolved
  obtain ⟨_, _, _, _, _, acyclic⟩ := exists_parts_of_resolve resolved
  obtain ⟨rank, ample⟩ := exists_ample placed acyclic
  obtain ⟨list, named, t, attaches, closes⟩ := attachments_of_buildTables ample built
  have lists := lists_of_attachments placed named
  have stands : ∀ {a : Attachment}, a.StandsIn s b ↔
      t.propertyAt (s.keyOf a.subject) a.name = some a.property := by
    intro a
    rw [Attachment.StandsIn, closes.schemas, Tables.propertyAt]
  have last : ∀ {before a after}, list = before ++ a :: after →
      (∀ later ∈ after, ¬a.Clashes later) → a.StandsIn s b :=
    fun split unlike => stands.mpr (attaches.last closes.apart split unlike)
  refine ⟨list, named, lists.once, lists.each, last, ?_⟩
  constructor
  · intro all a listed c other_listed clash
    have here := stands.mp (all a listed)
    rw [clash.1, clash.2] at here
    exact Option.some.inj (here.symm.trans (stands.mp (all c other_listed)))
  · intro equal a listed
    obtain ⟨before, c, after, split, clash, unlike⟩ := exists_last_clash listed
    have there := stands.mp (last split unlike)
    have same := equal a listed c (split ▸ List.mem_append_right before (.head after)) clash
    rw [stands, clash.1, clash.2, same]
    exact there

def emigrants : Document where
  nouns := [{ name := "Person" }, { name := "Country", objectType := .value },
    { name := "Language", objectType := .value }]
  factTypes := [
    { readings := [.text "Person was born in Country"], relationship := some .manyToOne },
    { readings := [.text "Person speaks Language"], relationship := some .manyToMany },
    { readings := [.text "Person returned"] }]

/-- The country, the languages and the return of a person have different names and stand all. -/
theorem attachments_stand_of_emigrants : ∃ s b list, emigrants.resolve = .ok s ∧
    s.buildTables = .ok b ∧ s.attachments = .ok list ∧
    list.map (fun a => (s.nameOf a.subject, a.name)) =
      [("Person", "country"), ("Person", "languages"), ("Person", "returned")] ∧
    ∀ a ∈ list, a.StandsIn s b := by
  have numberable : emigrants.Numberable := ⟨by decide, by decide, by decide +kernel⟩
  have passed : emigrants.resolvesAnd fun s => decide <| s.buildTables.toOption.isSome ∧
      s.attachments.toOption.map (·.map fun a => (s.nameOf a.subject, a.name)) =
        some [("Person", "country"), ("Person", "languages"), ("Person", "returned")] := by
    decide +kernel
  obtain ⟨s, resolved, checked⟩ := exists_of_resolvesAnd passed
  obtain ⟨built, names⟩ := of_decide_eq_true checked
  obtain ⟨b, built⟩ := Option.isSome_iff_exists.mp built
  have built := eq_ok_of_toOption built
  obtain ⟨list, named, -, -, -, all⟩ := attachments_stand numberable resolved built
  rw [named] at names
  have names : list.map (fun a => (s.nameOf a.subject, a.name)) = _ := Option.some.inj names
  refine ⟨s, b, list, resolved, built, named, names, all.mpr ?_⟩
  intro a listed c other_listed clash
  have distinct : (list.map fun a => (s.nameOf a.subject, a.name)).Nodup := by
    rw [names]
    decide
  have same : (s.nameOf a.subject, a.name) = (s.nameOf c.subject, c.name) := by
    rw [clash.1, clash.2]
  rw [List.inj_on_of_nodup_map distinct listed other_listed same]

def residents : Document where
  nouns := [{ name := "Person" }, { name := "Country", objectType := .value }]
  factTypes := [
    { readings := [.text "Person was born in Country"], relationship := some .manyToOne },
    { readings := [.text "Person lives in Country"], relationship := some .manyToOne }]

/-- The country where a person lives takes the place of the one of birth. -/
theorem residents_lose_birth : ∃ s b birth residence, residents.resolve = .ok s ∧
    s.buildTables = .ok b ∧ s.attachments = .ok [birth, residence] ∧
    birth.factType ≠ residence.factType ∧ birth.subject = residence.subject ∧
    birth.name = residence.name ∧
    birth.property.description = some "Person was born in Country" ∧ ¬birth.StandsIn s b := by
  have passed : residents.resolvesAnd fun s => decide <|
      s.attachments.toOption.map (·.map fun a =>
        (a.factType, a.subject, a.name, a.property.description)) =
        some [(.ofNat 0, .noun (.ofNat 0), "country", some "Person was born in Country"),
          (.ofNat 1, .noun (.ofNat 0), "country", some "Person lives in Country")] ∧
      s.keyOf (.noun (.ofNat 0)) = "Person" ∧
      s.buildTables.toOption.map (fun b => (b.schemas.tell (·.property? "country")
        (updateKey "Person")).bind (·.description)) = some (some "Person lives in Country") := by
    decide +kernel
  obtain ⟨s, resolved, checked⟩ := exists_of_resolvesAnd passed
  obtain ⟨attached, key, described⟩ := of_decide_eq_true checked
  obtain ⟨list, named, fields⟩ := Option.map_eq_some_iff.mp attached
  obtain ⟨b, built, described⟩ := Option.map_eq_some_iff.mp described
  obtain ⟨birth, rest, rfl, of_birth, fields⟩ := List.map_eq_cons_iff.mp fields
  obtain ⟨residence, rest, rfl, of_residence, fields⟩ := List.map_eq_cons_iff.mp fields
  obtain rfl := List.map_eq_nil_iff.mp fields
  simp only [Prod.mk.injEq] at of_birth of_residence
  obtain ⟨birth_id, birth_subject, birth_name, birth_description⟩ := of_birth
  obtain ⟨residence_id, residence_subject, residence_name, _⟩ := of_residence
  refine ⟨s, b, birth, residence, resolved, eq_ok_of_toOption built, eq_ok_of_toOption named, ?_,
    birth_subject.trans residence_subject.symm, birth_name.trans residence_name.symm,
    birth_description, fun stands => ?_⟩
  · rw [birth_id, residence_id]
    decide
  · rw [Attachment.StandsIn, birth_subject, birth_name, key] at stands
    rw [stands, Option.bind_some, birth_description] at described
    exact absurd described (by decide)

end Document
end ObjectRole
