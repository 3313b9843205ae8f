import ObjectRole.Proofs.Api.Operations
import ObjectRole.Proofs.Api.Totality

/-! Folding tiers is exact. Counting names tells whether two tiers of a resource have the same, and
no fold on the way to the finished document changes the names of the tier that it leaves. So what
creation demands and what is read are what the flat tiers say. -/
namespace ObjectRole

open Schema

namespace Tiers

variable {t : Tiers} {finer coarser : String} {fine coarse : Schema}

/-- One fold leads from tiers to tiers. It finds both its tiers, and joins them if the finer one is
unused or both have the same names. The coarser one keeps its names in either case. -/
def FoldsExactly (t u : Tiers) (finer coarser : String) (used : Bool) : Prop :=
  u = t.fold finer coarser used ∧ ∃ fine coarse left,
    t.schemas.get? finer = some fine ∧ t.schemas.get? coarser = some coarse ∧
    (fine.sameShape coarse = true ↔ SameNames fine coarse) ∧
    (u.schemas.contains finer = false ↔ used = false ∨ SameNames fine coarse) ∧
    u.schemas.get? coarser = some left ∧ SameNames left coarse

theorem foldsExactly_of_within (fine_found : t.schemas.get? finer = some fine)
    (coarse_found : t.schemas.get? coarser = some coarse) (distinct : finer ≠ coarser)
    (within : Within fine coarse) (fine_tidy : fine.Tidy) (coarse_tidy : coarse.Tidy)
    (none : fine.allOf = none) (used : Bool) :
    t.FoldsExactly (t.fold finer coarser used) finer coarser used := by
  have counts := within.sameShape_iff fine_tidy coarse_tidy
  obtain ⟨fine_left, coarse_left, _⟩ := fold_tiers used fine_found coarse_found distinct
  refine ⟨rfl, fine, coarse, _, fine_found, coarse_found, counts, ?_, coarse_left, ?_⟩
  · rw [Dict.contains_eq_isSome, fine_left, ← counts]
    cases used <;> cases fine.sameShape coarse <;> simp
  · split
    · exact within.overlay_sameNames none
    · exact .refl _

end Tiers

/-- The run over the resources comes to a resource. -/
def Synthesis.ComesTo (s : Snapshot) (settings : Settings) (tables : BuiltTables)
    (entry : String × Resource) (y : Synthesis) : Prop :=
  ∃ before after, tables.resources.entries = before ++ entry :: after ∧
    before.foldlM (Synthesis.addKey s settings tables) { tiers := ⟨tables.schemas, .empty⟩ } = .ok y

section Run

variable {s : Snapshot} {settings : Settings} {tables : BuiltTables} {y z : Synthesis}
  {entry : String × Resource}

/-- A run over all resources comes to each of them and adds it. -/
theorem Synthesis.exists_comesTo (ran : ofTables s settings tables = .ok z)
    (listed : entry ∈ tables.resources.entries) : ∃ y next, ComesTo s settings tables entry y ∧
      addKey s settings tables y entry = .ok next := by
  obtain ⟨before, after, split⟩ := List.mem_iff_append.mp listed
  rw [ofTables, split, List.foldlM_append, bind_eq_ok_iff] at ran
  obtain ⟨y, reached, ran⟩ := ran
  rw [List.foldlM_cons, bind_eq_ok_iff] at ran
  obtain ⟨next, added, _⟩ := ran
  exact ⟨y, next, ⟨before, after, split, reached⟩, added⟩

/-- Both folds of a resource are exact. -/
theorem Synthesis.ComesTo.foldsExactly (comes : ComesTo s settings tables entry y)
    (flat : FlatTables s tables) (added : addKey s settings tables y entry = .ok z) :
    ∃ t u : Tiers, t = (y.withFilter (s.view settings tables entry)
        (tables.schema (updateKey entry.1))).tiers ∧
      t.FoldsExactly u (updateKey entry.1) (newKey entry.1)
        ((s.view settings tables entry).allows .update) ∧
      u.FoldsExactly z.tiers (newKey entry.1) entry.1
        ((s.view settings tables entry).allows .create) := by
  obtain ⟨before, after, split, ran⟩ := comes
  have progress := Progress.of_run flat split ran
  have listed : entry ∈ tables.resources.entries := by rw [split]; simp
  have fresh := BuiltTables.not_mem_of_split split
  have intact := (progress.intact entry listed fresh).agree
    (flat.withFilter_agree settings listed listed y)
  have tiers := flat.tierSet_flat settings listed
  obtain ⟨new_found, read_found⟩ := intact.folded
  rw [(progress.added listed fresh added).tiers]
  have update_new := Tiers.foldsExactly_of_within intact.update intact.new updateKey_ne_newKey
    tiers.nested.update_new tiers.update.tidy tiers.new.tidy tiers.update.allOf
    ((s.view settings tables entry).allows .update)
  have new_read := Tiers.foldsExactly_of_within new_found read_found newKey_ne_self
    tiers.creating_read tiers.creating_flat.tidy tiers.read.tidy tiers.creating_flat.allOf
    ((s.view settings tables entry).allows .create)
  exact ⟨_, _, rfl, update_new, new_read⟩

end Run

variable {d : Document} {s : Snapshot} {tables : BuiltTables} {settings : Settings}
  {doc : ApiDocument}

/-- On the way to a document every fold is exact. In the document, what is read has the names of the
flat read tier, and what creation demands has those of the flat new tier. The operation for that
stands under the collection, unless a later resource takes the path. -/
theorem compile_folds_exactly (resolved : d.resolve = .ok s) (made : s.flatTables = .ok tables)
    (compiled : s.compile settings = .ok doc) :
    (∀ entry ∈ tables.resources.entries, ∃ y z t u, Synthesis.ComesTo s settings tables entry y ∧
      Synthesis.addKey s settings tables y entry = .ok z ∧
      t = (y.withFilter (s.view settings tables entry)
        (tables.schema (updateKey entry.1))).tiers ∧
      t.FoldsExactly u (updateKey entry.1) (newKey entry.1)
        ((s.view settings tables entry).allows .update) ∧
      u.FoldsExactly z.tiers (newKey entry.1) entry.1
        ((s.view settings tables entry).allows .create)) ∧
    ∀ key r, tables.resources.get? key = some r →
      (∃ component, doc.schemas.get? key = some component ∧
        SameNames component (tables.schema key)) ∧
      (s.Permits settings r .create → ∃ post target component,
        post.operationId = s!"post-{(s.view settings tables (key, r)).itemName}" ∧
        post.bodyTarget? = some target ∧ doc.schemas.get? target = some component ∧
        (doc.operationAt (s.view settings tables (key, r)).collectionPath (·.post) = some post ∨
          s.Overtaken settings tables ((key, r), .create)) ∧
        SameNames component (tables.schema (newKey key))) := by
  obtain ⟨y, flat, ran, rfl⟩ := Document.run_of_compile resolved made compiled
  constructor
  · intro entry listed
    obtain ⟨before, next, comes, added⟩ := Synthesis.exists_comesTo ran listed
    obtain ⟨t, u, reached, update_new, new_read⟩ := comes.foldsExactly flat added
    exact ⟨before, next, t, u, comes, added, reached, update_new, new_read⟩
  · intro key r taken
    have progress := Progress.of_ofTables flat ran
    have listed : (key, r) ∈ tables.resources.entries := Dict.get?_eq_some_iff.mp taken
    have tiers := flat.tierSet_flat settings listed
    have collapsed := progress.collapsed (key, r) listed
    constructor
    · obtain ⟨component, found, same⟩ :=
        flat.component_at listed (.inr (.inr rfl)) collapsed.read
      exact ⟨component, found, same.trans tiers.reading_sameNames⟩
    · intro permitted
      have used : (s.tierSet settings tables (key, r)).postUsed = true :=
        Snapshot.view_allows_iff.mpr permitted
      have refers : (((s.view settings tables (key, r)).create settings).mapSchemas
          (·.mapKeywords (·.relabel y.tiers.renames))).bodyTarget? =
            some (y.tiers.renames.resolve (newKey key)) := by
        rw [Operation.bodyTarget?_relabel, ResourceView.bodyTarget?_create]
        rfl
      have is_asked : ((key, r), Action.create) ∈ s.asked settings tables :=
        Snapshot.mem_asked.mpr ⟨listed, permitted⟩
      obtain ⟨component, found, same⟩ := flat.component_at listed
        (collapsed.resolve_isTierOf (.inr (.inl rfl))) collapsed.get?_posting
      exact ⟨_, _, component, rfl, refers, found,
        Snapshot.stands_or_overtaken flat ran is_asked, same.trans (tiers.posting_sameNames used)⟩

theorem compile_folds_exactly_for_citizens : ∃ s tables doc r,
    Document.citizens.resolve = .ok s ∧ s.flatTables = .ok tables ∧ s.compile {} = .ok doc ∧
      tables.resources.get? "Citizen" = some r ∧ s.Permits {} r .create ∧
      ∃ (post : Operation) (target : String) (component : Schema),
        post.bodyTarget? = some target ∧ doc.schemas.get? target = some component ∧
        SameNames component (tables.schema (newKey "Citizen")) := by
  have passed : Document.citizens.passes {} fun s tables _ =>
      (tables.resources.get? "Citizen").any (s.Permits {} · .create) := by decide +kernel
  obtain ⟨s, tables, doc, resolved, made, compiled, permitted⟩ := Document.exists_of_passes passed
  obtain ⟨r, taken, permitted⟩ := (Option.any_eq_true _ _).mp permitted
  have permitted : s.Permits {} r .create := of_decide_eq_true permitted
  obtain ⟨post, target, component, _, refers, found, _, same⟩ :=
    ((compile_folds_exactly resolved made compiled).2 "Citizen" r taken).2 permitted
  exact ⟨s, tables, doc, r, resolved, made, compiled, taken, permitted, post, target, component,
    refers, found, same⟩

end ObjectRole
