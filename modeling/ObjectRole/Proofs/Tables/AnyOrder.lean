import ObjectRole.Proofs.Tables.Contents

/-! The order in which tables are opened does not matter, and opening one again changes nothing.
Tables that are open at the end of one run are all that another run over the same subjects needs,
so that no key is taken by another subject on the way, and what stands under a key does not depend
on the way there. -/
namespace ObjectRole

namespace Build

variable {α β γ : Type} {kept : Tables → Prop} {x : Build α} {t : Tables}

/-- Steps that go through from all tables of a kind, and leave tables of that kind. -/
def Runs (kept : Tables → Prop) (x : Build α) : Prop :=
  ∀ t, kept t → ∃ a u, Yields x t a u ∧ kept u

theorem runs_pure (a : α) : Runs kept (pure a) :=
  fun t held => ⟨a, t, yields_pure.mpr ⟨rfl, rfl⟩, held⟩

theorem runs_modify {f : Tables → Tables} (keeps : ∀ t, kept t → kept (f t)) :
    Runs kept (modify f) := fun t held => ⟨(), f t, yields_modify.mpr rfl, keeps t held⟩

theorem Runs.bind {f : α → Build β} (first : Runs kept x) (rest : ∀ a, Runs kept (f a)) :
    Runs kept (x >>= f) := by
  intro t held
  obtain ⟨a, u, ran, held⟩ := first t held
  obtain ⟨b, v, onward, held⟩ := rest a u held
  exact ⟨b, v, yields_bind.mpr ⟨a, u, ran, onward⟩, held⟩

theorem Runs.map (runs : Runs kept x) (f : α → β) : Runs kept (f <$> x) := by
  intro t held
  obtain ⟨a, u, ran, held⟩ := runs t held
  exact ⟨f a, u, yields_map.mpr ⟨a, ran, rfl⟩, held⟩

/-- What comes next may depend on the tables that are there. -/
theorem runs_get_bind {f : Tables → Build β} (rest : ∀ t, kept t → Runs kept (f t)) :
    Runs kept (get >>= f) := by
  intro t held
  obtain ⟨b, u, ran, held⟩ := rest t held t held
  exact ⟨b, u, yields_bind.mpr ⟨t, t, yields_get.mpr ⟨rfl, rfl⟩, ran⟩, held⟩

theorem runs_forM {f : α → Build Unit} {list : List α} (each : ∀ a ∈ list, Runs kept (f a)) :
    Runs kept (list.forM f) := by
  induction list with
  | nil => exact runs_pure ()
  | cons a rest ih =>
    exact (each a (.head _)).bind fun _ => ih fun other later => each other (.tail _ later)

theorem runs_foldlM {f : γ → α → Build γ} {list : List α}
    (each : ∀ a ∈ list, ∀ c, Runs kept (f c a)) (init : γ) : Runs kept (list.foldlM f init) := by
  induction list generalizing init with
  | nil => exact runs_pure init
  | cons a rest ih =>
    rw [List.foldlM_cons]
    exact (each a (.head _) init).bind (ih fun other later => each other (.tail _ later))

end Build

namespace Snapshot

open Build Tables

variable {s : Snapshot} {t u : Tables} {known : Dict Player} {subject object : Player}
  {rank : Player → Nat} {list other : List Player}

/-- Each subject stands under its own key together with all subjects whose tables it needs. -/
def MeetsNeeds (s : Snapshot) (known : Dict Player) : Prop :=
  ∀ key player, known.get? key = some player → ∀ other, s.Needs player other →
    known.get? (s.keyOf other) = some other

/-- Only subjects that are known are open. -/
def Within (known : Dict Player) (t : Tables) : Prop :=
  ∀ key player, t.subjects.get? key = some player → known.get? key = some player

theorem Within.openTable (within : Within known t)
    (listed : known.get? (s.keyOf subject) = some subject) :
    Within known (t.openTable s subject) := by
  intro key player taken
  rw [get?_subjects_openTable] at taken
  split at taken
  · rename_i same
    cases taken
    exact same ▸ listed
  · exact within key player taken

section Ranked

variable (ample : s.Ample rank) (met : s.MeetsNeeds known)
include ample

include met in
theorem tableOf_runs_step (listed : known.get? (s.keyOf subject) = some subject)
    (creates : ∀ object, rank object < rank subject →
      (∀ other, s.Mentions object other → known.get? (s.keyOf other) = some other) →
        Runs (Within known) (s.propertyOf object))
    (ensures : ∀ parent, rank parent < rank subject → known.get? (s.keyOf parent) = some parent →
      Runs (Within known) (s.tableOf parent)) : Runs (Within known) (s.tableOf subject) := by
  rw [← ample.table, ensureTable]
  refine runs_get_bind fun t within => ?_
  cases taken : t.subjects.get? (s.keyOf subject) with
  | some owner =>
    have own : owner = subject := Option.some.inj ((within _ _ taken).symm.trans listed)
    simp only [own, if_true]
    exact runs_pure _
  | none =>
    refine (runs_modify fun t within => within.openTable listed).bind fun _ => ?_
    refine (runs_forM fun entry inside => ?_).bind fun _ => ?_
    · have made := creates entry.1 (ample.rank_of_identifier inside) fun other mentions =>
        met _ _ listed other (.identifier inside mentions)
      refine made.bind fun schema => runs_modify fun t within => ?_
      intro key player taken
      exact within key player (subjects_identifyBy t s subject entry.1 entry.2 schema ▸ taken)
    · refine (runs_forM fun parent above => ?_).bind fun _ => runs_pure _
      have edge := Option.mem_toList.mp above
      exact (ensures parent (ample.rank_of_supertype edge)
        (met _ _ listed parent (.supertype edge))).bind fun _ => runs_pure ()

theorem propertyOf_runs_step
    (listed : ∀ other, s.Mentions object other → known.get? (s.keyOf other) = some other)
    (creates : ∀ player, rank player < rank object →
      (∀ other, s.Mentions player other → known.get? (s.keyOf other) = some other) →
        Runs (Within known) (s.propertyOf player))
    (ensures : known.get? (s.keyOf object) = some object → Runs (Within known) (s.tableOf object)) :
    Runs (Within known) (s.propertyOf object) := by
  rw [← ample.property, createProperty]
  cases identified : s.identification object with
  | value type => exact runs_pure _
  | players players =>
    have table := ensures (listed object (.self identified))
    have ends (inline : Schema) := table.bind fun key =>
      runs_pure ({ oneOf := some [inline, .component key] } : Schema)
    have part (player : Player) (inside : player ∈ players) :
        Runs (Within known) (s.propertyOf player) :=
      creates player (ample.rank_of_part identified inside) fun other mentions =>
        listed other (.part identified inside mentions)
    rcases players with _ | ⟨single, _ | ⟨second, rest⟩⟩
    · exact ends Schema.empty
    · exact (part single (.head _)).bind ends
    · refine (runs_foldlM (fun player inside composite => ?_) _).bind ends
      exact (part player inside).bind fun _ => runs_pure _

include met in
theorem calls_run (player : Player) :
    (known.get? (s.keyOf player) = some player → Runs (Within known) (s.tableOf player)) ∧
      ((∀ other, s.Mentions player other → known.get? (s.keyOf other) = some other) →
        Runs (Within known) (s.propertyOf player)) := by
  induction level : rank player using Nat.strong_induction_on generalizing player with
  | _ level ih =>
    subst level
    have creates (object : Player) (lower : rank object < rank player) := (ih _ lower object rfl).2
    have ensures (listed : known.get? (s.keyOf player) = some player) :=
      tableOf_runs_step ample met listed creates fun parent lower => (ih _ lower parent rfl).1
    exact ⟨ensures, fun listed => propertyOf_runs_step ample listed creates ensures⟩

end Ranked

/-- Tables on their own: they are sound, and each that is open is complete. -/
structure Whole (s : Snapshot) (t : Tables) : Prop where
  sound : Sound s t
  listed : t.Listed
  met : s.MeetsNeeds t.subjects
  complete : Apart (t.subjects.contains ·) → ∀ {key player},
    t.subjects.get? key = some player → t.contents key = s.completeContents player

/-- Which subjects are open tells everything that stands in whole tables. -/
theorem Whole.eq_of_subjects (whole : s.Whole t) (also : s.Whole u) (same : t.subjects = u.subjects)
    (apart : Apart (t.subjects.contains ·)) : t = u := by
  have agree {key : String} (taken : t.subjects.contains key) :
      t.contents key = u.contents key := by
    obtain ⟨player, taken⟩ := Dict.contains_iff.mp taken
    rw [whole.complete apart taken, also.complete (same ▸ apart) (same ▸ taken)]
  have off {v : Tables} (sound : Sound s v) (subjects : t.subjects = v.subjects) {tier : String}
      (free : ¬∃ key, t.subjects.contains key ∧ IsTierOf key tier) :
      v.schemas.get? tier = none := by
    rw [← Option.not_isSome_iff_eq_none, ← Dict.contains_eq_isSome]
    exact fun there => free (subjects ▸ sound.covered there)
  have schemas : t.schemas = u.schemas := by
    refine Dict.ext_get? fun tier => ?_
    by_cases owned : ∃ key, t.subjects.contains key ∧ IsTierOf key tier
    · obtain ⟨key, taken, is_tier⟩ := owned
      have agree := agree taken
      simp only [contents, TableContents.mk.injEq] at agree
      rcases is_tier with rfl | rfl | rfl
      · exact agree.1
      · exact agree.2.1
      · exact agree.2.2.1
    · rw [off whole.sound rfl owned, off also.sound same owned]
  have identifying : t.identifying = u.identifying := by
    refine Dict.ext_get? fun key => ?_
    by_cases taken : t.subjects.contains key
    · exact congrArg TableContents.identifying (agree taken)
    · have unlisted {v : Tables} (listed : v.Listed) (subjects : t.subjects = v.subjects) :
          v.identifying.get? key = none := by
        rw [← Option.not_isSome_iff_eq_none, ← Dict.contains_eq_isSome]
        exact fun there => taken (subjects ▸ listed key there)
      rw [unlisted whole.listed rfl, unlisted also.listed same]
  obtain ⟨_, _, _⟩ := t
  obtain ⟨_, _, _⟩ := u
  simp_all only

/-- Opens the tables of subjects, one after the other. -/
def openTables (s : Snapshot) (list : List Player) : Build Unit :=
  list.forM fun subject => discard (s.tableOf subject)

theorem openTables_grows {a : Unit} (ran : Yields (s.openTables list) t a u) : Grows s t u := by
  refine yields_forM (Grows s t) (fun _ _ _ _ _ grows ran => ?_) (Grows.refl s t) ran
  exact grows.trans (tableOf_grows (tableOf_of_discard ran)).grows

theorem open_of_openTables {a : Unit} (ran : Yields (s.openTables list) t a u)
    (listed : subject ∈ list) : u.subjects.get? (s.keyOf subject) = some subject := by
  obtain ⟨_, after, v, w, _, _, _, own, later⟩ := exists_of_yields_forM listed ran
  have opened := tableOf_grows (tableOf_of_discard own)
  exact (openTables_grows later).reaches.keeps opened.open_at

section Ranked

variable (ample : s.Ample rank) {a : Unit} (ran : Yields (s.openTables list) {} a t)
include ample ran

theorem whole_of_openTables : s.Whole t := by
  have completes : Completes s (fun _ => False) {} t := by
    refine yields_forM (Completes s (fun _ => False) {}) ?_ (.refl fun none => none.elim) ran
    intro subject _ t _ u completes ran
    obtain ⟨key, opened, _⟩ := yields_map.mp ran
    exact completes.trans ((calls_complete ample subject).1 _ _ _ opened)
  have nothing : ({} : Tables).Listed := fun _ there => by contradiction
  constructor
  case sound => exact sound_start.reaches (openTables_grows ran).reaches
  case listed => exact completes.listed nothing
  case met => exact fun _ _ taken => (completes.needs taken).resolve_left nofun
  case complete =>
    exact fun apart _ _ taken => (completes.complete nothing apart taken).resolve_left nofun

/-- Where a run over subjects goes through, any run over some of them does, and opens nothing
else. -/
theorem exists_openTables_within (less : ∀ subject ∈ other, subject ∈ list) :
    ∃ u, Yields (s.openTables other) {} () u ∧ Within t.subjects u := by
  have met := (whole_of_openTables ample ran).met
  have runs : Runs (Within t.subjects) (s.openTables other) := by
    refine runs_forM fun subject listed => ?_
    have known := open_of_openTables ran (less subject listed)
    exact ((calls_run ample met subject).1 known).map _
  obtain ⟨_, u, ran, within⟩ := runs {} fun _ _ taken => by contradiction
  exact ⟨u, ran, within⟩

end Ranked

/-- Subjects may be opened in any order, and any number of times: where one run over them goes
through and no key at its end is a tier of another, all runs go through and end with the same
tables. The schema of a property does not depend on the tables that are there. -/
theorem tables_in_any_order (placed : s.InPlace) (acyclic : s.checkAcyclic = .ok ())
    (ran : Yields (s.openTables list) {} () t) (apart : Apart (t.subjects.contains ·))
    (same : ∀ subject, subject ∈ other ↔ subject ∈ list) :
    Yields (s.openTables other) {} () t ∧
      ∀ object t u v w schema other_schema, Yields (s.propertyOf object) t schema u →
        Yields (s.propertyOf object) v other_schema w → other_schema = schema := by
  obtain ⟨rank, ample⟩ := exists_ample placed acyclic
  obtain ⟨u, also_ran, fewer⟩ :=
    exists_openTables_within ample ran fun subject listed => (same subject).mp listed
  obtain ⟨v, ran_again, more⟩ :=
    exists_openTables_within ample also_ran fun subject listed => (same subject).mpr listed
  obtain ⟨_, rfl⟩ := yields_unique ran ran_again
  have subjects : t.subjects = u.subjects := by
    refine Dict.ext_get? fun key => Option.ext fun player => ⟨more key player, fewer key player⟩
  have equal := (whole_of_openTables ample ran).eq_of_subjects (whole_of_openTables ample also_ran)
    subjects apart
  refine ⟨equal ▸ also_ran, ?_⟩
  intro object t u v w schema other_schema made also_made
  rw [createProperty_schema made, createProperty_schema also_made]

end Snapshot

namespace Document

open Build

/-- The table of tenures, which needs those of employees, persons and parties, may be opened before
or behind the table of posts. -/
theorem tables_in_any_order_of_tenures : ∃ s t, tenures.resolve = .ok s ∧ s.InPlace ∧
    s.checkAcyclic = .ok () ∧ s.nameOf (.factType (.ofNat 0)) = "Tenure" ∧
    s.nameOf (.noun (.ofNat 4)) = "Post" ∧
    Yields (s.openTables [.factType (.ofNat 0), .noun (.ofNat 4)]) {} () t ∧
    Apart (t.subjects.contains ·) ∧
    t.subjects.keys = ["Employee", "Party", "Person", "Post", "Tenure"] ∧
    Yields (s.openTables [.noun (.ofNat 4), .factType (.ofNat 0), .noun (.ofNat 4)]) {} () t := by
  have numberable : tenures.Numberable := ⟨by decide, by decide, by decide +kernel⟩
  have passed : tenures.resolvesAnd fun s =>
      let ran := Id.run ((s.openTables [.factType (.ofNat 0), .noun (.ofNat 4)]).run.run {})
      decide (s.nameOf (.factType (.ofNat 0)) = "Tenure" ∧ s.nameOf (.noun (.ofNat 4)) = "Post" ∧
        ran.1.toOption = some () ∧ (s.finishTables ran.2).toOption.isSome ∧
        ran.2.subjects.keys = ["Employee", "Party", "Person", "Post", "Tenure"]) := by
    decide +kernel
  obtain ⟨s, resolved, checked⟩ := exists_of_resolvesAnd passed
  obtain ⟨tenure, post, went, finished, keys⟩ := of_decide_eq_true checked
  obtain ⟨_, _, _, _, _, acyclic⟩ := exists_parts_of_resolve resolved
  have placed := inPlace_of_resolve numberable resolved
  obtain ⟨b, finished⟩ := Option.isSome_iff_exists.mp finished
  have apart := (Snapshot.closes_of_finishTables (eq_ok_of_toOption finished)).apart
  have ran : Yields (s.openTables [.factType (.ofNat 0), .noun (.ofNat 4)]) {} () _ :=
    Prod.ext (eq_ok_of_toOption went) rfl
  refine ⟨s, _, resolved, placed, acyclic, tenure, post, ran, apart, keys, ?_⟩
  refine (Snapshot.tables_in_any_order placed acyclic ran apart fun subject => ?_).1
  grind

end Document
end ObjectRole
