import ObjectRole.Proofs.Api.Components

/-! Compilation fails only where tables cannot be built or two resources want one path. Flattening
goes through because supertypes lead nowhere back, and the finished document passes the check of its
references whatever tiers were folded. -/
namespace ObjectRole

variable {d : Document} {s : Snapshot} {b tables : BuiltTables} {settings : Settings}
  {y : Synthesis} {e : CompileError}

namespace Synthesis

theorem ofTables_error (failed : ofTables s settings tables = .error e) :
    ∃ path first second, e = .pathCollision path first second := by
  obtain ⟨z, entry, _, step⟩ := exists_of_foldlM_eq_error failed
  rw [addKey] at step
  split at step
  · cases step
  · exact addResource_error step

end Synthesis

/-- Over tables that were built, inherited schemas are folded in, the references of every document
that is finished find their components, and the one failure left is that of two resources with one
path. -/
theorem compile_error_of_built (resolved : d.resolve = .ok s) (built : s.buildTables = .ok b)
    (settings : Settings) : ∃ flat, b.schemas.flatten = .ok flat ∧
      (∀ y, Synthesis.ofTables s settings { b with schemas := flat } = .ok y →
        (y.document settings).checkReferences = .ok ()) ∧
      ∀ e, s.compile settings = .error e →
        ∃ path first second, e = .pathCollision path first second := by
  have rooted := Document.rooted_of_resolve resolved
  obtain ⟨tables, made⟩ := Snapshot.exists_flatTables rooted built
  have flat := Snapshot.flatTables_of_ok rooted made
  obtain ⟨other, schemas, other_built, flattened, rfl⟩ := Snapshot.flatTables_eq_ok_iff.mp made
  cases built.symm.trans other_built
  have checked : ∀ y, Synthesis.ofTables s settings { b with schemas } = .ok y →
      (y.document settings).checkReferences = .ok () :=
    fun y ran => Progress.checkReferences_ok flat (.of_ofTables flat ran)
  refine ⟨schemas, flattened, checked, ?_⟩
  intro e failed
  rw [Snapshot.compile, made] at failed
  cases ran : Synthesis.ofTables s settings { b with schemas } with
  | error other =>
    have failed : (.error other : Except CompileError ApiDocument) = .error e := by
      rw [← failed]
      simp only [bind, Except.bind, ran]
    cases failed
    exact Synthesis.ofTables_error ran
  | ok y =>
    have passed := checked y ran
    rw [Synthesis.document] at passed
    simp only [bind, Except.bind, ran, passed] at failed
    cases failed

theorem compile_error_of_citizens : ∃ s b, Document.citizens.resolve = .ok s ∧
    s.buildTables = .ok b ∧ ∃ flat, b.schemas.flatten = .ok flat ∧
      (∀ y, Synthesis.ofTables s {} { b with schemas := flat } = .ok y →
        (y.document {}).checkReferences = .ok ()) ∧
      ∀ e, s.compile {} = .error e → ∃ path first second, e = .pathCollision path first second := by
  have passed : Document.citizens.passes {} fun _ _ _ => true := by decide +kernel
  obtain ⟨s, tables, _, resolved, made, _, _⟩ := Document.exists_of_passes passed
  obtain ⟨b, _, built, _, _⟩ := Snapshot.flatTables_eq_ok_iff.mp made
  exact ⟨s, b, resolved, built, compile_error_of_built resolved built {}⟩

end ObjectRole
