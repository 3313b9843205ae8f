import ObjectRole.Proofs.Naming.Hollow
import ObjectRole.Proofs.Tables.Attached
import ObjectRole.Proofs.Tables.Nested

/-! The names of properties on built tables: those of what fact types attach and those of the
identifiers, and no others. A name is empty where all that it is made of are spaces and hyphens; a
fact type that asks for nothing behind its subject does not build. -/
namespace ObjectRole

namespace Snapshot

open Build Tables

/-- The plural that is declared for the player of a role. -/
def declaredPlural (s : Snapshot) (item : RoleId) : Option String :=
  (s.pluralOf (s.playerOf item)).filter (!·.isEmpty)

/-- The part of the first reading from which a fact type of a shape takes its property's name. -/
def stem (s : Snapshot) (id : FactTypeId) : Shape → Except CompileError (Option ObjectSpan)
  | .functional owner value => do
    let tokens ← s.predicateOf s.pattern id
    let span ← tokens.objectSpan (s.factType id).title (s.nameOf (s.playerOf owner))
      (s.nameOf (s.playerOf value)) none
    return some span
  | .arrayValued owner item => do
    let tokens ← s.predicateOf s.pattern id
    let span ← tokens.objectSpan (s.factType id).title (s.nameOf (s.playerOf owner))
      (s.nameOf (s.playerOf item)) (s.declaredPlural item)
    return some span
  | .unary role => do
    let tokens ← s.predicateOf s.pattern id
    let span ← tokens.restSpan (s.factType id).title (s.nameOf (s.playerOf role))
    return some span
  | .association _ | .independent => return none

/-- Arrays for which no plural is declared get an English one. -/
def pluralizes (s : Snapshot) : Shape → Bool
  | .arrayValued _ item => (s.declaredPlural item).isNone
  | .functional _ _ | .unary _ | .association _ | .independent => false

variable {s : Snapshot} {t u : Tables} {key name : String} {id : FactTypeId} {shape : Shape}
  {span : ObjectSpan} {role : RoleId} {rank : Player → Nat} {a : Attachment} {b : BuiltTables}

/-- What is attached has an empty name exactly if it is not made a plural and nothing in the part of
the reading that names it leaves a key. -/
theorem name_eq_empty_iff (attached : s.attachment id shape = .ok (some a)) :
    ∃ span, s.stem id shape = .ok (some span) ∧
      (a.name = "" ↔
        s.pluralizes shape = false ∧ ∀ word ∈ span.words, Naming.schemaKey word = "") := by
  cases shape with
  | association | independent => cases attached
  | functional owner value =>
    rw [attachment] at attached
    simp only [bind_eq_ok_iff, pure_eq_ok_iff] at attached
    obtain ⟨tokens, read, span, found, same⟩ := attached
    cases same
    refine ⟨span, by simp only [stem, read, found, bind, Except.bind, pure, Except.pure], ?_⟩
    rw [Naming.stripSubject_propertyNameOf_eq_empty_iff, span.forall_words_capitalized_iff]
    exact (and_iff_right rfl).symm
  | arrayValued owner item =>
    rw [attachment] at attached
    simp only [bind_eq_ok_iff, pure_eq_ok_iff] at attached
    obtain ⟨tokens, read, span, found, same⟩ := attached
    cases same
    refine ⟨span, ?_, ?_⟩
    · simp only [stem, declaredPlural, read, found, bind, Except.bind, pure, Except.pure]
    rw [pluralizes, declaredPlural]
    dsimp only
    split
    · rename_i plural
      rw [plural]
      refine iff_of_false (Naming.pluralize_ne_empty _) ?_
      rintro ⟨singular, _⟩
      cases singular
    · rename_i declared
      rw [Naming.propertyNameOf_eq_empty_iff, span.forall_words_capitalized_iff,
        eq_false_of_ne_true declared]
      exact (and_iff_right rfl).symm
  | unary role =>
    rw [attachment] at attached
    simp only [bind_eq_ok_iff, pure_eq_ok_iff] at attached
    obtain ⟨tokens, read, span, found, same⟩ := attached
    cases same
    refine ⟨span, by simp only [stem, read, found, bind, Except.bind, pure, Except.pure], ?_⟩
    rw [Naming.stripSubject_propertyNameOf_eq_empty_iff]
    exact (and_iff_right rfl).symm

/-- A fact type without an object needs something behind its subject. -/
theorem addUnary_fails (asked : s.stem id (.unary role) = .ok (some span))
    (nothing : span.words = []) (t : Tables) : Fails (s.addUnary s.pattern id role) t
      (.emptyPredicate (s.factType id).title span.tokens.render) t := by
  simp only [stem, bind_eq_ok_iff, pure_eq_ok_iff] at asked
  obtain ⟨tokens, read, found_span, found, same⟩ := asked
  cases same
  have same : span.tokens = tokens := by
    rw [Predicate.restSpan] at found
    split at found
    · cases found
    · cases found
      rfl
  have read_yields : Yields (liftM (s.predicateOf s.pattern id)) t tokens t :=
    yields_lift.mpr ⟨read, rfl⟩
  have found_yields : Yields (liftM (tokens.restSpan (s.factType id).title
      (s.nameOf (s.playerOf role)))) t span t := yields_lift.mpr ⟨found, rfl⟩
  rw [addUnary]
  refine read_yields.bind_fails (found_yields.bind_fails ?_)
  rw [if_pos (List.isEmpty_iff.mpr nothing), same]
  exact fails_throw.bind _

/-- Where the fact types before it go through, such a fact type ends the build. -/
theorem buildTables_emptyPredicate {shapes before after : List (FactTypeId × Shape)}
    (shaped : s.orderedFactTypes.mapM (fun id => (id, ·) <$> s.shapeOf id) = .ok shapes)
    (order : phased shapes = before ++ (id, .unary role) :: after)
    (ran : Yields (before.forM fun entry => s.addFact s.pattern entry.1 entry.2) {} () t)
    (asked : s.stem id (.unary role) = .ok (some span)) (nothing : span.words = []) :
    s.buildTables = .error (.emptyPredicate (s.factType id).title span.tokens.render) := by
  have fails : Fails (s.addFacts shapes) {}
      (.emptyPredicate (s.factType id).title span.tokens.render) t := by
    rw [addFacts, order]
    exact ran.forM_fails (addUnary_fails asked nothing t)
  rw [buildTables, shaped]
  change (Id.run ((s.addFacts shapes).run.run {})).1 >>= _ = _
  rw [fails]
  rfl

/-- The names on the table of a resource are those of its subject's identifiers and of what fact
types attach to the subject. -/
theorem says_name_iff (ample : s.Ample rank) (built : s.buildTables = .ok b) :
    ∃ list, s.attachments = .ok list ∧
      (∀ a ∈ list, ∃ key r, b.resources.get? key = some r ∧ r.subject = a.subject) ∧
      ∀ {key r}, b.resources.get? key = some r → ∀ name,
        (b.schemas.Says (name ∈ ·.propertyNames) (updateKey key) ↔
          (∃ entry ∈ s.identifiers r.subject, name = s.identifierName r.subject entry.1) ∨
            ∃ a ∈ list, r.subject = a.subject ∧ name = a.name) := by
  obtain ⟨list, named, t, attaches, closes⟩ := attachments_of_buildTables ample built
  refine ⟨list, named, fun a listed => ⟨_, closes.exists_resource (attaches.open_at a listed)⟩,
    fun {key r} found name => ?_⟩
  have keyed := (finished_of_buildTables built).keyed found
  have taken := closes.subject_taken found
  have nothing : ({} : Tables).Listed := fun _ there => by contradiction
  have names := attaches.names nothing closes.apart r.subject name
  have unopened : ({} : Tables).subjects.get? (s.keyOf r.subject) ≠ some r.subject := by
    intro taken
    cases taken
  rw [HasName, HasName, if_neg unopened, keyed, if_pos taken] at names
  rw [← names, propertyAt, ← closes.schemas, SchemaMap.tell]
  cases at_key : b.schemas.get? (updateKey key) with
  | none =>
    refine iff_of_false ?_ Bool.false_ne_true
    rintro ⟨schema, there, _⟩
    cases at_key.symm.trans there
  | some schema =>
    rw [SchemaMap.says_iff at_key, Option.bind_some, Schema.isSome_property?_iff]

/-- Only the update tiers of built tables have properties. -/
theorem forall_schemas_iff (finished : Finished s b) :
    (∀ tier schema, b.schemas.get? tier = some schema → name ∉ schema.propertyNames) ↔
      ∀ key r, b.resources.get? key = some r →
        ¬b.schemas.Says (name ∈ ·.propertyNames) (updateKey key) := by
  constructor
  · rintro free key r - ⟨schema, found, inside⟩
    exact free _ schema found inside
  · intro free tier schema found inside
    obtain ⟨key, taken, is_tier⟩ := finished.covered (Dict.contains_iff.mpr ⟨schema, found⟩)
    obtain ⟨r, taken⟩ := Dict.contains_iff.mp taken
    rcases is_tier with rfl | outer
    · exact free key r taken ⟨schema, found, inside⟩
    · exact finished.silent taken outer ⟨schema, found, inside⟩

theorem attaches_of_stem (asked : s.stem id shape = .ok (some span)) : shape.attaches := by
  cases shape with
  | association | independent => cases asked
  | functional | arrayValued | unary => rfl

/-- Attachments have names exactly if the fact types have something to name them by. -/
theorem forall_attachments_named_iff {list : List Attachment} (lists : s.Lists list) :
    (∀ a ∈ list, a.name ≠ "") ↔ ∀ f ∈ s.factTypes, ∀ shape span, s.shapeOf f.id = .ok shape →
      s.stem f.id shape = .ok (some span) → s.pluralizes shape = false →
        ∃ word ∈ span.words, Naming.schemaKey word ≠ "" := by
  constructor
  · intro named f declared shape span of_fact asked singular
    obtain ⟨_, attached, also_of_fact, attaches, some_attached, inside⟩ := lists.each f declared
    cases of_fact.symm.trans also_of_fact
    rw [attaches_of_stem asked, Option.isSome_iff_exists] at some_attached
    obtain ⟨a, rfl⟩ := some_attached
    obtain ⟨_, also_asked, empty_iff⟩ := name_eq_empty_iff attaches
    cases asked.symm.trans also_asked
    by_contra hollow
    push Not at hollow
    exact named a ((inside a).mp rfl).1 (empty_iff.mpr ⟨singular, hollow⟩)
  · intro stems a listed empty
    obtain ⟨f, declared, of_fact⟩ := lists.declared a listed
    obtain ⟨shape, attached, shape_of, attaches, _, inside⟩ := lists.each f declared
    obtain rfl : attached = some a := (inside a).mpr ⟨listed, of_fact⟩
    obtain ⟨span, asked, empty_iff⟩ := name_eq_empty_iff attaches
    obtain ⟨singular, hollow⟩ := empty_iff.mp empty
    obtain ⟨word, among, filled⟩ := stems f declared shape span shape_of asked singular
    exact filled (hollow word among)

/-- Built tables have no empty property name exactly if what fact types attach has names and so have
all identifiers of resources. -/
theorem named_of_buildTables_iff (ample : s.Ample rank) (built : s.buildTables = .ok b) :
    ∃ list, s.attachments = .ok list ∧
      ((∀ tier schema, b.schemas.get? tier = some schema → "" ∉ schema.propertyNames) ↔
        (∀ a ∈ list, a.name ≠ "") ∧ ∀ key r, b.resources.get? key = some r →
          ∀ entry ∈ s.identifiers r.subject, s.keyOf entry.1 ≠ "") := by
  obtain ⟨list, attached, at_resource, names⟩ := says_name_iff ample built
  refine ⟨list, attached, (forall_schemas_iff (finished_of_buildTables built)).trans ⟨?_, ?_⟩⟩
  · intro free
    constructor
    · intro a listed empty
      obtain ⟨key, r, taken, same⟩ := at_resource a listed
      exact free key r taken ((names taken "").mpr (.inr ⟨a, listed, same, empty.symm⟩))
    · intro key r taken entry listed empty
      refine free key r taken ((names taken "").mpr (.inl ⟨entry, listed, ?_⟩))
      exact (Naming.stripSubject_propertyName_eq_empty_iff.mpr empty).symm
  · rintro ⟨attachments_named, identified⟩ key r taken there
    rcases (names taken "").mp there with ⟨entry, listed, empty⟩ | ⟨a, listed, _, empty⟩
    · exact identified key r taken entry listed
        (Naming.stripSubject_propertyName_eq_empty_iff.mp empty.symm)
    · exact attachments_named a listed empty.symm

/-- With a fact type without an object that has nothing behind its subject no tables are built. -/
theorem buildTables_ne_ok {f : FactType} (declared : f ∈ s.factTypes)
    (shape : s.shapeOf f.id = .ok (.unary role))
    (asked : s.stem f.id (.unary role) = .ok (some span)) (nothing : span.words = [])
    (b : BuiltTables) : s.buildTables ≠ .ok b := by
  intro built
  obtain ⟨shapes, t, shaped, ran, _⟩ := exists_run_of_buildTables built
  have ordered := mem_orderedFactTypes.mpr (List.mem_map_of_mem declared)
  obtain ⟨entry, listed, found⟩ := exists_of_mapM_eq_ok shaped ordered
  obtain ⟨own, also_shape, rfl⟩ := map_eq_ok_iff.mp found
  cases shape.symm.trans also_shape
  obtain ⟨before, after, u, _, _, order, went, _⟩ :=
    exists_of_yields_forM (mem_phased.mpr listed) ran
  rw [buildTables_emptyPredicate shaped order went asked nothing] at built
  cases built

end Snapshot

namespace Document

open Snapshot Build

variable {d : Document} {s : Snapshot}

/-- Built tables have no empty property name exactly if every fact type that names its property
without a plural has a word to name it by that leaves a key, and so has every identifier of a
resource. A fact type without an object that has nothing behind its subject does not build: the
build ends with its error, where the fact types before it go through. -/
theorem properties_named (numberable : d.Numberable) (resolved : d.resolve = .ok s) :
    (∀ b, s.buildTables = .ok b →
      ((∀ tier schema, b.schemas.get? tier = some schema → "" ∉ schema.propertyNames) ↔
        (∀ f ∈ s.factTypes, ∀ shape span, s.shapeOf f.id = .ok shape →
          s.stem f.id shape = .ok (some span) → s.pluralizes shape = false →
            ∃ word ∈ span.words, Naming.schemaKey word ≠ "") ∧
        ∀ key r, b.resources.get? key = some r → ∀ entry ∈ s.identifiers r.subject,
          s.keyOf entry.1 ≠ "")) ∧
    ∀ f ∈ s.factTypes, ∀ role span, s.shapeOf f.id = .ok (.unary role) →
      s.stem f.id (.unary role) = .ok (some span) → span.words = [] →
        (∀ b, s.buildTables ≠ .ok b) ∧
        ∀ shapes before after t,
          s.orderedFactTypes.mapM (fun id => (id, ·) <$> s.shapeOf id) = .ok shapes →
          phased shapes = before ++ (f.id, .unary role) :: after →
          Yields (before.forM fun entry => s.addFact s.pattern entry.1 entry.2) {} () t →
            s.buildTables =
              .error (.emptyPredicate (s.factType f.id).title span.tokens.render) := by
  have placed := inPlace_of_resolve numberable resolved
  obtain ⟨_, _, _, _, _, acyclic⟩ := exists_parts_of_resolve resolved
  obtain ⟨rank, ample⟩ := exists_ample placed acyclic
  constructor
  · intro b built
    obtain ⟨list, attached, named_iff⟩ := named_of_buildTables_iff ample built
    rw [named_iff, forall_attachments_named_iff (lists_of_attachments placed attached)]
  · intro f declared role span shape asked nothing
    refine ⟨buildTables_ne_ok declared shape asked nothing, ?_⟩
    intro shapes before after t shaped order ran
    exact buildTables_emptyPredicate shaped order ran asked nothing

def receipts : Document where
  nouns := [{ name := "Receipt", referenceScheme := ["ReceiptNumber"] },
    { name := "ReceiptNumber", objectType := .value }, { name := "Till" },
    { name := "Product", objectType := .value }]
  factTypes := [
    { readings := [.text "Receipt comes from Till"], relationship := some .manyToOne },
    { readings := [.text "Receipt lists Product"], relationship := some .manyToMany },
    { readings := [.text "Receipt is paid"] }]

/-- The number, the till, the products and the payment of a receipt have names. -/
theorem properties_named_of_receipts : ∃ s b, receipts.resolve = .ok s ∧
    s.buildTables = .ok b ∧
    ∀ tier schema, b.schemas.get? tier = some schema → "" ∉ schema.propertyNames := by
  have numberable : receipts.Numberable := ⟨by decide, by decide, by decide +kernel⟩
  have passed : receipts.resolvesAnd fun s => decide <|
      (∀ f ∈ s.factTypes, (s.shapeOf f.id).toOption.all fun shape =>
        (s.stem f.id shape).toOption.all fun span => span.all fun span =>
          s.pluralizes shape || span.words.any (Naming.schemaKey · != "")) ∧
      s.buildTables.toOption.any fun b => b.resources.entries.all fun entry =>
        (s.identifiers entry.2.subject).all fun identifier => s.keyOf identifier.1 != "" := by
    decide +kernel
  obtain ⟨s, resolved, checked⟩ := exists_of_resolvesAnd passed
  obtain ⟨stems, identified⟩ := of_decide_eq_true checked
  obtain ⟨b, built, identified⟩ := (Option.any_eq_true ..).mp identified
  have built := eq_ok_of_toOption built
  refine ⟨s, b, resolved, built, ?_⟩
  apply ((properties_named numberable resolved).1 b built).mpr
  constructor
  · intro f declared shape span of_fact asked singular
    have named := stems f declared
    simp only [of_fact, asked, singular, Except.toOption, Option.all_some, Bool.false_or,
      List.any_eq_true, bne_iff_ne] at named
    exact named
  · intro key r taken entry listed
    have named := List.all_eq_true.mp identified _ (Dict.get?_eq_some_iff.mp taken)
    exact bne_iff_ne.mp (List.all_eq_true.mp named entry listed)

def dashes : Document where
  nouns := [{ name := "Person" }]
  factTypes := [{ readings := [.text "Person -"] }]

/-- A hyphen behind the subject counts as a word, but names nothing. -/
theorem dashes_unnamed : ∃ s b, dashes.resolve = .ok s ∧ s.buildTables = .ok b ∧
    b.schemas.tell (fun tier => some tier.propertyNames) (updateKey "Person") = some [""] := by
  have passed : dashes.resolvesAnd fun s => decide <|
      s.buildTables.toOption.map (fun b => b.schemas.tell (fun tier => some tier.propertyNames)
        (updateKey "Person")) = some (some [""]) := by
    decide +kernel
  obtain ⟨s, resolved, checked⟩ := exists_of_resolvesAnd passed
  obtain ⟨b, built, names⟩ := Option.map_eq_some_iff.mp (of_decide_eq_true checked)
  exact ⟨s, b, resolved, eq_ok_of_toOption built, names⟩

end Document
end ObjectRole
