import ObjectRole.Proofs.Tables.Depth
import ObjectRole.Proofs.Tables.Written

/-! What stands under a key of tables, and what a call adds. A call leaves the tables that are open
alone. Each table that it opens is complete when it returns, with the identifiers of its subject
and nothing else, and so are the tables that the subject needs. What a complete table says depends
on its subject only, and not on the tables that were open before. -/
namespace ObjectRole

/-- What stands under a key: the three tiers and the identifying properties. -/
structure TableContents where
  update : Option Schema
  new : Option Schema
  read : Option Schema
  identifying : Option (List String)

namespace Tables

variable {s : Snapshot} {t u v : Tables} {key other tier name : String} {subject player : Player}

def contents (t : Tables) (key : String) : TableContents where
  update := t.schemas.get? (updateKey key)
  new := t.schemas.get? (newKey key)
  read := t.schemas.get? key
  identifying := t.identifying.get? key

theorem contents_change_frame {f : Schema → Schema} (off : ¬IsTierOf key tier) :
    (t.change tier f).contents key = t.contents key := by
  simp only [IsTierOf, not_or] at off
  obtain ⟨off_update, off_new, off_read⟩ := off
  simp only [contents, get?_change, Ne.symm off_update, Ne.symm off_new, Ne.symm off_read, if_false]
  rfl

/-- What a change of a tier leaves under its key depends on what stood there. -/
theorem contents_change_congr {f : Schema → Schema} (is_tier : IsTierOf key tier)
    (same : t.contents key = u.contents key) :
    (t.change tier f).contents key = (u.change tier f).contents key := by
  simp only [contents, TableContents.mk.injEq] at same
  obtain ⟨update, new, read, identifying⟩ := same
  have own : t.schemas.get? tier = u.schemas.get? tier := by
    rcases is_tier with rfl | rfl | rfl
    · exact update
    · exact new
    · exact read
  simp only [contents, get?_change, own, update, new, read]
  exact congrArg _ identifying

theorem contents_identify_frame (distinct : other ≠ key) :
    (t.identify key name).contents other = t.contents other := by
  simp only [contents, identify, Dict.get?_insert, if_neg distinct]

theorem contents_identify_congr (same : t.contents key = u.contents key) :
    (t.identify key name).contents key = (u.identify key name).contents key := by
  simp only [contents, TableContents.mk.injEq] at same
  obtain ⟨update, new, read, identifying⟩ := same
  simp only [contents, identify, Dict.get?_insert, update, new, read, identifying]

theorem contents_setProperty_frame {title : String} {p : Property}
    (off : ∀ tier, IsTierOf key tier → ¬IsTierOf other tier) :
    (t.setProperty key title p).2.contents other = t.contents other := by
  have off_update := off (updateKey key) (.inl rfl)
  have off_requiring := off _ (isTierOf_requiringKey key (Naming.stripSubject p.name title))
  unfold setProperty
  dsimp only
  split <;> split <;>
    simp only [contents_change_frame off_update, contents_change_frame off_requiring]

theorem contents_setProperty_congr {title : String} {p : Property}
    (same : t.contents key = u.contents key) :
    (t.setProperty key title p).2.contents key = (u.setProperty key title p).2.contents key := by
  unfold setProperty
  dsimp only
  generalize Naming.stripSubject p.name title = name
  have held := contents_change_congr (f := (·.withProperty name (p.schema.describedAs
    p.description))) (.inl rfl) same
  have required := contents_change_congr (f := (·.require name)) (isTierOf_requiringKey key name)
    held
  split <;> split
  · exact contents_change_congr (.inl rfl) required
  · exact contents_change_congr (.inl rfl) held
  · exact required
  · exact held

theorem identifying_setProperty (t : Tables) (key title : String) (p : Property) :
    (t.setProperty key title p).2.identifying = t.identifying := by
  unfold setProperty
  dsimp only
  split <;> split <;> rfl

theorem identifyBy_eq (t : Tables) (s : Snapshot) (subject object : Player) (required : Bool)
    (schema : Schema) : t.identifyBy s subject object required schema =
      (t.setProperty (s.keyOf subject) (s.nameOf subject) (s.identifyingProperty (s.nameOf subject)
        object required schema)).2.identify (s.keyOf subject) (Naming.stripSubject
          (Naming.propertyName (s.nameOf object)) (s.nameOf subject)) := rfl

theorem subjects_identifyBy (t : Tables) (s : Snapshot) (subject object : Player) (required : Bool)
    (schema : Schema) : (t.identifyBy s subject object required schema).subjects = t.subjects := by
  rw [identifyBy_eq]
  exact subjects_setProperty ..

theorem contents_identifyBy_frame {object : Player} {required : Bool} {schema : Schema}
    (off : ∀ tier, IsTierOf (s.keyOf subject) tier → ¬IsTierOf other tier) :
    (t.identifyBy s subject object required schema).contents other = t.contents other := by
  have distinct : other ≠ s.keyOf subject := by
    rintro rfl
    exact off _ (.inr (.inr rfl)) (.inr (.inr rfl))
  rw [identifyBy_eq, contents_identify_frame distinct, contents_setProperty_frame off]

theorem contents_identifyBy_congr {object : Player} {required : Bool} {schema : Schema}
    (same : t.contents (s.keyOf subject) = u.contents (s.keyOf subject)) :
    (t.identifyBy s subject object required schema).contents (s.keyOf subject) =
      (u.identifyBy s subject object required schema).contents (s.keyOf subject) := by
  rw [identifyBy_eq, identifyBy_eq]
  exact contents_identify_congr (contents_setProperty_congr same)

theorem contents_openTable_frame
    (off : ∀ tier, IsTierOf key tier → ¬IsTierOf (s.keyOf subject) tier) :
    (t.openTable s subject).contents key = t.contents key := by
  simp only [contents, get?_schemas_openTable_of_not_tier (off _ (.inl rfl)),
    get?_schemas_openTable_of_not_tier (off _ (.inr (.inl rfl))),
    get?_schemas_openTable_of_not_tier (off _ (.inr (.inr rfl)))]
  rfl

/-- Only tables that are open have identifying properties. -/
def Listed (t : Tables) : Prop := ∀ key, t.identifying.contains key → t.subjects.contains key

theorem Step.listed (step : Step s t u) (listed : t.Listed) : u.Listed := by
  intro key there
  cases step with
  | opens free => exact Reaches.contains (.single (.opens free)) (listed key there)
  | holds | requires | samples => exact listed key there
  | @identifies own name taken =>
    rw [Dict.contains_eq_isSome, identify, Dict.get?_insert] at there
    split at there
    · rename_i same
      exact same ▸ taken
    · exact listed key there

theorem Reaches.listed (reaches : Reaches s t u) (listed : t.Listed) : u.Listed := by
  induction reaches with
  | refl => exact listed
  | tail _ step ih => exact step.listed ih

/-- A table that is opened starts with the same contents, whatever tables are there. -/
theorem contents_opened (listed : t.Listed) (other_listed : u.Listed)
    (free : t.subjects.get? (s.keyOf subject) = none)
    (other_free : u.subjects.get? (s.keyOf subject) = none) :
    (t.openTable s subject).contents (s.keyOf subject) =
      (u.openTable s subject).contents (s.keyOf subject) := by
  have unlisted {v : Tables} (listed : v.Listed) (free : v.subjects.get? (s.keyOf subject) = none) :
      v.identifying.get? (s.keyOf subject) = none := by
    rw [← Option.not_isSome_iff_eq_none, ← Dict.contains_eq_isSome]
    intro there
    have taken := listed _ there
    rw [Dict.contains_eq_isSome, free] at taken
    contradiction
  have same : (t.openTable s subject).identifying.get? (s.keyOf subject) =
      (u.openTable s subject).identifying.get? (s.keyOf subject) :=
    (unlisted listed free).trans (unlisted other_listed other_free).symm
  simp only [contents, get?_schemas_openTable, same]
  simp

end Tables

namespace Snapshot

open Build Tables

variable {s : Snapshot} {t u v : Tables} {key : String} {subject object player other : Player}
  {schema : Schema} {rank : Player → Nat}

/-! ## Calls with steps enough -/

/-- Steps are never short: the calls that build tables are the same with one step more, and go on
to players of lower rank. -/
structure Ample (s : Snapshot) (rank : Player → Nat) : Prop where
  descends : ∀ {player next}, Player.LeadsTo s.inheritedEdges player next → rank next < rank player
  table : ∀ subject, s.ensureTable (s.buildSteps + 1) subject = s.tableOf subject
  property : ∀ object, s.createProperty (s.buildSteps + 1) object = s.propertyOf object

theorem exists_ample (placed : s.InPlace) (acyclic : s.checkAcyclic = .ok ()) :
    ∃ rank, s.Ample rank := by
  have free := (checkAcyclic_eq_ok_iff placed.edges_subset).mp acyclic
  refine ⟨Player.rank s.inheritedEdges s.subjects, Player.rank_lt placed.edges_subset free, ?_, ?_⟩
  all_goals
    intro player
    have bound := Player.rank_le s.inheritedEdges s.subjects player
    have enough : 2 * Player.rank s.inheritedEdges s.subjects player + 1 < s.buildSteps := by
      rw [buildSteps]
      omega
    obtain ⟨ensures, creates⟩ := agree_of_rank (Player.rank_lt placed.edges_subset free)
      (s.buildSteps + 1) s.buildSteps
  · exact (ensures player (by omega) (by omega)).same
  · exact (creates player (by omega) (by omega)).same

/-- The subjects whose tables a property of an object refers to, be it in its identifier. -/
inductive Mentions (s : Snapshot) : Player → Player → Prop
  | self {object : Player} {players : List Player}
      (identified : s.identification object = .players players) : Mentions s object object
  | part {object player other : Player} {players : List Player}
      (identified : s.identification object = .players players) (listed : player ∈ players)
      (mentions : Mentions s player other) : Mentions s object other

/-- The subjects whose tables the table of a subject needs. -/
inductive Needs (s : Snapshot) : Player → Player → Prop
  | identifier {subject object other : Player} {required : Bool}
      (listed : (object, required) ∈ s.identifiers subject) (mentions : s.Mentions object other) :
      Needs s subject other
  | supertype {subject parent : Player} (above : s.superTypeOf subject = some parent) :
      Needs s subject parent

namespace Ample

variable (ample : s.Ample rank)
include ample

theorem rank_of_identifier {required : Bool} (listed : (object, required) ∈ s.identifiers subject) :
    rank object < rank subject :=
  ample.descends (.single (List.mem_append_left (s.superTypeEdges subject)
    (mem_identifyingPlayers_of_identifiers listed)))

theorem rank_of_supertype (above : s.superTypeOf subject = some player) :
    rank player < rank subject :=
  ample.descends (.single (List.mem_append_right (s.identifyingPlayers subject)
    (Option.mem_toList.mpr above)))

theorem rank_of_part {players : List Player}
    (identified : s.identification object = .players players) (listed : player ∈ players) :
    rank player < rank object :=
  ample.descends (leadsTo_of_identification identified listed)

end Ample

/-! ## What calls complete -/

/-- Identifiers of a subject are put on its table, one after the other. -/
def withIdentifiers (s : Snapshot) (subject : Player) (list : List (Player × Bool)) (t : Tables) :
    Tables :=
  list.foldl (fun t entry => t.identifyBy s subject entry.1 entry.2
    (s.schemaOf s.buildSteps entry.1)) t

/-- What stands under the key of a subject once its table is complete. -/
def completeContents (s : Snapshot) (subject : Player) : TableContents :=
  (s.withIdentifiers subject (s.identifiers subject) (({} : Tables).openTable s subject)).contents
    (s.keyOf subject)

/-- On the way from tables to later ones, tables that were open are left alone, save those that are
still being built, and those that are opened are complete at the end, with all that they need. -/
structure Completes (s : Snapshot) (building : String → Prop) (t u : Tables) : Prop where
  begun : ∀ {key}, building key → t.subjects.contains key
  keeps : ∀ {key player}, t.subjects.get? key = some player → u.subjects.get? key = some player
  listed : t.Listed → u.Listed
  frame : Apart (u.subjects.contains ·) → ∀ {key}, t.subjects.contains key → ¬building key →
    u.contents key = t.contents key
  complete : t.Listed → Apart (u.subjects.contains ·) → ∀ {key player},
    u.subjects.get? key = some player → t.subjects.get? key = some player ∨
      u.contents key = s.completeContents player
  needs : ∀ {key player}, u.subjects.get? key = some player → t.subjects.get? key = some player ∨
    ∀ other, s.Needs player other → u.subjects.get? (s.keyOf other) = some other

namespace Completes

variable {building : String → Prop}

theorem contains (completes : Completes s building t u) (taken : t.subjects.contains key) :
    u.subjects.contains key := by
  obtain ⟨player, taken⟩ := Dict.contains_iff.mp taken
  exact Dict.contains_iff.mpr ⟨player, completes.keeps taken⟩

theorem refl (begun : ∀ {key}, building key → t.subjects.contains key) :
    Completes s building t t where
  begun := begun
  keeps taken := taken
  listed listed := listed
  frame _ _ _ _ := rfl
  complete _ _ _ _ taken := .inl taken
  needs taken := .inl taken

theorem trans (first : Completes s building t u) (second : Completes s building u v) :
    Completes s building t v where
  begun := first.begun
  keeps taken := second.keeps (first.keeps taken)
  listed listed := second.listed (first.listed listed)
  frame apart key taken unbuilt := by
    have before := apart.mono fun _ taken => second.contains taken
    rw [second.frame apart (first.contains taken) unbuilt, first.frame before taken unbuilt]
  complete listed apart key player taken := by
    have before := apart.mono fun _ taken => second.contains taken
    rcases second.complete (first.listed listed) apart taken with earlier | complete
    · rcases first.complete listed before earlier with start | complete
      · exact .inl start
      · by_cases built : building key
        · obtain ⟨owner, start⟩ := Dict.contains_iff.mp (first.begun built)
          cases (first.keeps start).symm.trans earlier
          exact .inl start
        · right
          rw [second.frame apart (Dict.contains_iff.mpr ⟨player, earlier⟩) built, complete]
    · exact .inr complete
  needs taken := by
    rcases second.needs taken with earlier | needs
    · refine (first.needs earlier).imp_right fun needs other needed => ?_
      exact second.keeps (needs other needed)
    · exact .inr needs

/-- What leaves all open tables alone leaves all alone but some of them. -/
theorem save (completes : Completes s (fun _ => False) t u)
    (begun : ∀ {key}, building key → t.subjects.contains key) : Completes s building t u where
  begun := begun
  keeps := completes.keeps
  listed := completes.listed
  frame apart _ taken _ := completes.frame apart taken id
  complete := completes.complete
  needs := completes.needs

/-- A step that opens nothing and changes what stands under one key. -/
theorem of_same_subjects (same : u.subjects = t.subjects) (listed : t.Listed → u.Listed)
    (begun : ∀ {key}, building key → t.subjects.contains key)
    (frame : Apart (t.subjects.contains ·) → ∀ {key}, t.subjects.contains key → ¬building key →
      u.contents key = t.contents key) : Completes s building t u where
  begun := begun
  keeps taken := same ▸ taken
  listed := listed
  frame apart := frame (same ▸ apart)
  complete _ _ _ _ taken := .inl (same ▸ taken)
  needs taken := .inl (same ▸ taken)

end Completes

/-- Putting an identifier on the table of its subject. -/
theorem completes_identifyBy {required : Bool} (taken : t.subjects.contains (s.keyOf subject)) :
    Completes s (· = s.keyOf subject) t (t.identifyBy s subject object required schema) := by
  have same := subjects_identifyBy t s subject object required schema
  refine .of_same_subjects same ?_ (fun own => own ▸ taken) ?_
  · intro listed key there
    rw [same]
    rw [identifyBy_eq, identify, Dict.contains_eq_isSome, Dict.get?_insert,
      identifying_setProperty] at there
    split at there
    · rename_i own
      exact own ▸ taken
    · exact listed key there
  · intro apart key own distinct
    refine contents_identifyBy_frame fun tier of_subject of_key => distinct ?_
    exact apart.tier_unique own taken of_key of_subject

/-- What is left when all tables are open and complete that are mentioned. -/
structure Supplies (s : Snapshot) (mentioned : Player → Prop) (t u : Tables) : Prop where
  completes : Completes s (fun _ => False) t u
  there : ∀ other, mentioned other → u.subjects.get? (s.keyOf other) = some other

theorem supplies_nothing (t : Tables) : Supplies s (fun _ => False) t t :=
  ⟨.refl fun none => none.elim, fun _ none => none.elim⟩

theorem Supplies.trans {mentioned more : Player → Prop} (first : Supplies s mentioned t u)
    (second : Supplies s more u v) :
    Supplies s (fun other => mentioned other ∨ more other) t v where
  completes := first.completes.trans second.completes
  there other listed := listed.elim
    (fun before => second.completes.keeps (first.there other before)) (second.there other)

/-- Whenever the table of a subject is opened, all that is opened is complete. -/
def OpensComplete (s : Snapshot) (subject : Player) : Prop :=
  ∀ t key u, Yields (s.tableOf subject) t key u → Completes s (fun _ => False) t u

/-- Whenever the schema of a property is made, the tables that it mentions are there. -/
def PropertySupplies (s : Snapshot) (object : Player) : Prop :=
  ∀ t schema u, Yields (s.propertyOf object) t schema u → Supplies s (s.Mentions object) t u

/-- Putting identifiers on the table of their subject completes what they mention, and the
contents of the table itself depend on what stood there only. -/
theorem Identifies.completes {list : List (Player × Bool)}
    (identifies : Identifies s s.buildSteps subject list t u)
    (taken : t.subjects.contains (s.keyOf subject))
    (creates : ∀ entry ∈ list, s.PropertySupplies entry.1) :
    Completes s (· = s.keyOf subject) t u ∧
      (∀ entry ∈ list, ∀ other, s.Mentions entry.1 other →
        u.subjects.get? (s.keyOf other) = some other) ∧
      (Apart (u.subjects.contains ·) → ∀ start : Tables,
        t.contents (s.keyOf subject) = start.contents (s.keyOf subject) →
          u.contents (s.keyOf subject) =
            (s.withIdentifiers subject list start).contents (s.keyOf subject)) := by
  induction identifies with
  | done =>
    exact ⟨.refl fun own => own ▸ taken, fun _ listed => absurd listed List.not_mem_nil,
      fun _ _ same => same⟩
  | @next t v u object required rest schema made later ih =>
    have created := creates _ (.head _) _ _ _ made
    have v_taken := created.completes.contains taken
    have put : Completes s (· = s.keyOf subject) v
        (v.identifyBy s subject object required schema) := completes_identifyBy v_taken
    obtain ⟨onward, mentioned, own⟩ :=
      ih (put.contains v_taken) fun entry listed => creates entry (.tail _ listed)
    have made_apart : Completes s (· = s.keyOf subject) t v :=
      created.completes.save fun own => own ▸ taken
    refine ⟨(made_apart.trans put).trans onward, ?_, ?_⟩
    · intro entry listed other mentions
      rcases List.mem_cons.mp listed with rfl | behind
      · exact onward.keeps (put.keeps (created.there other mentions))
      · exact mentioned entry behind other mentions
    · intro apart start same
      have before := apart.mono fun _ taken => (put.trans onward).contains taken
      have framed := (created.completes.frame before taken id).trans same
      rw [own apart (start.identifyBy s subject object required schema)
        (contents_identifyBy_congr framed), createProperty_schema made]
      rfl

/-- A table that was opened is no longer exempt once it is complete. -/
theorem Completes.of_opened (free : t.subjects.get? (s.keyOf subject) = none)
    (completes : Completes s (· = s.keyOf subject) (t.openTable s subject) u)
    (own : t.Listed → Apart (u.subjects.contains ·) →
      u.contents (s.keyOf subject) = s.completeContents subject)
    (needs : ∀ other, s.Needs subject other → u.subjects.get? (s.keyOf other) = some other) :
    Completes s (fun _ => False) t u := by
  have opening : Step s t (t.openTable s subject) := .opens free
  have opened {key player} (taken : (t.openTable s subject).subjects.get? key = some player) :
      t.subjects.get? key = some player ∨ key = s.keyOf subject ∧ player = subject := by
    rw [get?_subjects_openTable] at taken
    split at taken
    · rename_i same
      exact .inr ⟨same, (Option.some.inj taken).symm⟩
    · exact .inl taken
  constructor
  case begun => exact fun none => none.elim
  case keeps => exact fun taken => completes.keeps (opening.keeps taken)
  case listed => exact fun listed => completes.listed (opening.listed listed)
  case frame =>
    intro apart key taken _
    have start_apart := apart.mono fun _ taken => completes.contains taken
    have distinct : key ≠ s.keyOf subject := by
      rintro rfl
      rw [Dict.contains_eq_isSome, free] at taken
      contradiction
    rw [completes.frame apart (Reaches.contains (.single opening) taken) distinct,
      contents_openTable_frame fun tier => not_isTierOf_opened free start_apart taken]
  case complete =>
    intro listed apart key player taken
    rcases completes.complete (opening.listed listed) apart taken with start | complete
    · rcases opened start with earlier | ⟨rfl, rfl⟩
      · exact .inl earlier
      · exact .inr (own listed apart)
    · exact .inr complete
  case needs =>
    intro key player taken
    rcases completes.needs taken with start | supplied
    · rcases opened start with earlier | ⟨rfl, rfl⟩
      · exact .inl earlier
      · exact .inr needs
    · exact .inr supplied

/-- A loop over players, each of which supplies what it mentions. -/
theorem foldlM_supplies {α : Type} {f : α → Player → Build α} {players : List Player} {a b : α}
    (creates : ∀ player ∈ players, ∀ {a t b u}, Yields (f a player) t b u →
      Supplies s (s.Mentions player) t u)
    (ran : Yields (players.foldlM f a) t b u) :
    Supplies s (fun other => ∃ player ∈ players, s.Mentions player other) t u := by
  induction players generalizing a t with
  | nil =>
    obtain ⟨_, rfl⟩ := yields_pure.mp ran
    exact ⟨(supplies_nothing t).completes, fun _ ⟨_, listed, _⟩ => absurd listed List.not_mem_nil⟩
  | cons player rest ih =>
    rw [List.foldlM_cons] at ran
    obtain ⟨c, v, first, ran⟩ := yields_bind.mp ran
    have both := (creates player (.head _) first).trans
      (ih (fun other listed => creates other (.tail _ listed)) ran)
    refine ⟨both.completes, fun other ⟨part, listed, mentions⟩ => both.there other ?_⟩
    rcases List.mem_cons.mp listed with rfl | behind
    · exact .inl mentions
    · exact .inr ⟨part, behind, mentions⟩

theorem Inlines.supplies {players : List Player} {inline : Schema}
    (inlines : Inlines s s.buildSteps players t inline u)
    (creates : ∀ player ∈ players, s.PropertySupplies player) :
    Supplies s (fun other => ∃ player ∈ players, s.Mentions player other) t u := by
  unfold Inlines at inlines
  split at inlines
  · obtain ⟨_, rfl⟩ := inlines
    exact ⟨(supplies_nothing _).completes, fun _ ⟨_, listed, _⟩ => absurd listed List.not_mem_nil⟩
  · have only := creates _ (.head _) _ _ _ inlines
    refine ⟨only.completes, fun other ⟨part, listed, mentions⟩ => only.there other ?_⟩
    exact List.mem_singleton.mp listed ▸ mentions
  · refine foldlM_supplies (fun player listed => ?_) inlines
    intro composite t next u ran
    obtain ⟨member, v, made, ran⟩ := yields_bind.mp ran
    obtain ⟨_, rfl⟩ := yields_pure.mp ran
    exact creates player listed _ _ _ made

section Ranked

variable (ample : s.Ample rank)
include ample

theorem tableOf_completes_step
    (creates : ∀ object, rank object < rank subject → s.PropertySupplies object)
    (ensures : ∀ parent, rank parent < rank subject → s.OpensComplete parent) :
    s.OpensComplete subject := by
  intro t key u ran
  rw [← ample.table] at ran
  obtain ⟨rfl, ⟨_, rfl⟩ | ⟨free, v, identifies, extended⟩⟩ := ensureTable_cases ran
  · exact .refl fun none => none.elim
  have fresh : (t.openTable s subject).subjects.get? (s.keyOf subject) = some subject := by
    rw [get?_subjects_openTable, if_pos rfl]
  have taken := Dict.contains_iff.mpr ⟨subject, fresh⟩
  obtain ⟨put, mentioned, own⟩ := identifies.completes taken fun entry listed =>
    creates entry.1 (ample.rank_of_identifier listed)
  have above : Completes s (fun _ => False) v u ∧ ∀ parent, s.superTypeOf subject = some parent →
      u.subjects.get? (s.keyOf parent) = some parent := by
    rcases extended with ⟨none, rfl⟩ | ⟨parent, key, edge, ran⟩
    · refine ⟨.refl fun none => none.elim, fun parent edge => ?_⟩
      rw [none] at edge
      contradiction
    · have opened := tableOf_grows ran
      refine ⟨ensures parent (ample.rank_of_supertype edge) _ _ _ ran, fun other same => ?_⟩
      cases edge.symm.trans same
      exact opened.key_eq ▸ opened.open_at
  have v_taken := put.contains taken
  have climbed : Completes s (· = s.keyOf subject) v u := above.1.save fun own => own ▸ v_taken
  apply Completes.of_opened free (put.trans climbed)
  · intro listed apart
    have nothing : ({} : Tables).Listed := fun _ there => by contradiction
    rw [above.1.frame apart v_taken id]
    exact own (apart.mono fun _ taken => above.1.contains taken) _
      (contents_opened listed nothing free rfl)
  · intro other needed
    cases needed with
    | identifier listed mentions => exact above.1.keeps (mentioned _ listed other mentions)
    | supertype edge => exact above.2 other edge

theorem propertyOf_supplies_step
    (creates : ∀ player, rank player < rank object → s.PropertySupplies player)
    (ensures : s.OpensComplete object) : s.PropertySupplies object := by
  intro t schema u ran
  rw [← ample.property] at ran
  rcases createProperty_cases ran with ⟨type, value, _, rfl⟩ |
    ⟨players, inline, v, identified, inlines, opened, _⟩
  · refine ⟨(supplies_nothing _).completes, fun other mentions => ?_⟩
    cases mentions with
    | self identified | part identified =>
      rw [value] at identified
      contradiction
  · have parts := inlines.supplies fun player listed =>
      creates player (ample.rank_of_part identified listed)
    have own := ensures _ _ _ opened
    refine ⟨parts.completes.trans own, fun other mentions => ?_⟩
    cases mentions with
    | self => exact (tableOf_grows opened).open_at
    | part also listed mentions =>
      cases identified.symm.trans also
      exact own.keeps (parts.there other ⟨_, listed, mentions⟩)

theorem calls_complete (player : Player) : s.OpensComplete player ∧ s.PropertySupplies player := by
  -- A table needs properties of lower rank only, and a property the table of its own object.
  induction level : rank player using Nat.strong_induction_on generalizing player with
  | _ level ih =>
    subst level
    have creates (object : Player) (lower : rank object < rank player) := (ih _ lower object rfl).2
    have ensures : s.OpensComplete player :=
      tableOf_completes_step ample creates fun parent lower => (ih _ lower parent rfl).1
    exact ⟨ensures, propertyOf_supplies_step ample creates ensures⟩

end Ranked
end Snapshot
end ObjectRole
