import ObjectRole.Proofs.Tables.Contents

/-! Which tables there are. A call opens the tables of the subjects that it is made for and of all
that these need, and no others. So the resources of a model are those that its fact types concern,
with all that these need, each under the key of its subject. -/
namespace ObjectRole

open Relation

namespace Snapshot

open Build Tables

variable {s : Snapshot} {t u v : Tables} {key : String} {subject object other : Player}
  {steps : Nat} {schema : Schema} {wanted more both : Player → Prop}

theorem needs_iff : s.Needs subject other ↔
    (∃ entry ∈ s.identifiers subject, s.Mentions entry.1 other) ∨
      s.superTypeOf subject = some other := by
  constructor
  · rintro (⟨listed, mentions⟩ | above)
    · exact .inl ⟨_, listed, mentions⟩
    · exact .inr above
  · rintro (⟨⟨object, required⟩, listed, mentions⟩ | above)
    · exact .identifier listed mentions
    · exact .supertype above

theorem mentions_iff {players : List Player}
    (identified : s.identification object = .players players) : s.Mentions object other ↔
      (∃ player ∈ players, s.Mentions player other) ∨ other = object := by
  constructor
  · rintro (_ | ⟨also, listed, mentions⟩)
    · exact .inr rfl
    · cases identified.symm.trans also
      exact .inl ⟨_, listed, mentions⟩
  · rintro (⟨player, listed, mentions⟩ | rfl)
    · exact .part identified listed mentions
    · exact .self identified

/-- Tables of the wanted subjects are open in the end. Whoever's table was opened on the way has all
that it needs, and is needed by one that is wanted, at some distance. -/
structure Opens (s : Snapshot) (wanted : Player → Prop) (t u : Tables) : Prop where
  keeps : ∀ {key player}, t.subjects.get? key = some player → u.subjects.get? key = some player
  there : ∀ player, wanted player → u.subjects.get? (s.keyOf player) = some player
  needs : ∀ {key player}, u.subjects.get? key = some player → t.subjects.get? key = some player ∨
    ∀ other, s.Needs player other → u.subjects.get? (s.keyOf other) = some other
  needed : ∀ {key player}, u.subjects.get? key = some player → t.subjects.get? key = some player ∨
    ∃ first, wanted first ∧ ReflTransGen s.Needs first player

namespace Opens

theorem of_there
    (there : ∀ player, wanted player → t.subjects.get? (s.keyOf player) = some player) :
    Opens s wanted t t :=
  ⟨id, there, .inl, .inl⟩

theorem of_nil {α : Type} {wanted : α → Player → Prop} :
    Opens s (fun player => ∃ x ∈ ([] : List α), wanted x player) t t :=
  of_there (by simp)

theorem congr (opens : Opens s wanted t u) (same : ∀ player, more player ↔ wanted player) :
    Opens s more t u :=
  funext (fun player => propext (same player)) ▸ opens

/-- A change that opens no table may follow. -/
theorem of_same_subjects (opens : Opens s wanted t u) (same : v.subjects = u.subjects) :
    Opens s wanted t v := by
  obtain ⟨keeps, there, needs, needed⟩ := opens
  rw [← same] at keeps there needs needed
  exact ⟨keeps, there, needs, needed⟩

theorem trans (first : Opens s wanted t u) (second : Opens s more u v)
    (split : ∀ player, both player ↔ wanted player ∨ more player) : Opens s both t v where
  keeps taken := second.keeps (first.keeps taken)
  there player listed := ((split player).mp listed).elim
    (fun before => second.keeps (first.there player before)) (second.there player)
  needs taken := by
    rcases second.needs taken with earlier | needs
    · refine (first.needs earlier).imp_right fun needs other needed => ?_
      exact second.keeps (needs other needed)
    · exact .inr needs
  needed taken := by
    rcases second.needed taken with earlier | ⟨start, listed, needed⟩
    · refine (first.needed earlier).imp_right ?_
      rintro ⟨start, listed, needed⟩
      exact ⟨start, (split start).mpr (.inl listed), needed⟩
    · exact .inr ⟨start, (split start).mpr (.inr listed), needed⟩

/-- A subject whose table is opened needs what is opened after that. -/
theorem of_opened (free : t.subjects.get? (s.keyOf subject) = none)
    (opens : Opens s (s.Needs subject) (t.openTable s subject) u) :
    Opens s (· = subject) t u := by
  have opening : Step s t (t.openTable s subject) := .opens free
  have opened {key player} (taken : (t.openTable s subject).subjects.get? key = some player) :
      t.subjects.get? key = some player ∨ player = subject := by
    rw [get?_subjects_openTable] at taken
    split at taken
    · exact .inr (Option.some.inj taken).symm
    · exact .inl taken
  constructor
  case keeps => exact fun taken => opens.keeps (opening.keeps taken)
  case there =>
    rintro player rfl
    refine opens.keeps ?_
    rw [get?_subjects_openTable, if_pos rfl]
  case needs =>
    intro key player taken
    rcases opens.needs taken with start | supplied
    · rcases opened start with earlier | rfl
      · exact .inl earlier
      · exact .inr opens.there
    · exact .inr supplied
  case needed =>
    intro key player taken
    rcases opens.needed taken with start | ⟨first, needs, needed⟩
    · refine (opened start).imp_right ?_
      rintro rfl
      exact ⟨player, rfl, .refl⟩
    · exact .inr ⟨subject, rfl, .head needs needed⟩

end Opens

/-- A loop opens what its steps open. -/
theorem forM_opens {α : Type} {f : α → Build Unit} {wanted : α → Player → Prop} {list : List α}
    {a : Unit} (opens : ∀ x {t a u}, Yields (f x) t a u → Opens s (wanted x) t u)
    (ran : Yields (list.forM f) t a u) :
    Opens s (fun player => ∃ x ∈ list, wanted x player) t u := by
  induction list generalizing t with
  | nil =>
    obtain ⟨_, rfl⟩ := yields_pure.mp ran
    exact .of_nil
  | cons x rest ih =>
    obtain ⟨_, v, first, ran⟩ := yields_bind.mp ran
    exact (opens x first).trans (ih ran) (by simp)

theorem foldlM_opens {α β : Type} {f : β → α → Build β} {wanted : α → Player → Prop}
    {list : List α} {b c : β} (opens : ∀ b x {t c u}, Yields (f b x) t c u → Opens s (wanted x) t u)
    (ran : Yields (list.foldlM f b) t c u) :
    Opens s (fun player => ∃ x ∈ list, wanted x player) t u := by
  induction list generalizing b t with
  | nil =>
    obtain ⟨_, rfl⟩ := yields_pure.mp ran
    exact .of_nil
  | cons x rest ih =>
    rw [List.foldlM_cons] at ran
    obtain ⟨d, v, first, ran⟩ := yields_bind.mp ran
    exact (opens b x first).trans (ih ran) (by simp)

section Calls

variable (ensures : ∀ {subject t key u}, Yields (s.ensureTable steps subject) t key u →
    Opens s (· = subject) t u)
  (creates : ∀ {object t schema u}, Yields (s.createProperty steps object) t schema u →
    Opens s (s.Mentions object) t u)

include creates in
theorem Identifies.opens {list : List (Player × Bool)}
    (identifies : Identifies s steps subject list t u) :
    Opens s (fun player => ∃ entry ∈ list, s.Mentions entry.1 player) t u := by
  induction identifies with
  | done => exact .of_nil
  | next made _ ih =>
    exact ((creates made).of_same_subjects (subjects_identifyBy ..)).trans ih (by simp)

include creates in
theorem Inlines.opens {players : List Player} {inline : Schema}
    (inlines : Inlines s steps players t inline u) :
    Opens s (fun player => ∃ part ∈ players, s.Mentions part player) t u := by
  unfold Inlines at inlines
  split at inlines
  · obtain ⟨_, rfl⟩ := inlines
    exact .of_nil
  · exact (creates inlines).congr (by simp)
  · refine foldlM_opens (fun composite player t next u ran => ?_) inlines
    obtain ⟨member, v, made, ran⟩ := yields_bind.mp ran
    obtain ⟨_, rfl⟩ := yields_pure.mp ran
    exact creates made

include ensures creates

theorem ensureTable_opens_step (ran : Yields (s.ensureTable (steps + 1) subject) t key u) :
    Opens s (· = subject) t u := by
  obtain ⟨_, ⟨taken, rfl⟩ | ⟨free, v, identifies, extended⟩⟩ := ensureTable_cases ran
  · exact .of_there fun _ same => same ▸ taken
  refine .of_opened free ?_
  have identified := identifies.opens creates
  rcases extended with ⟨none, rfl⟩ | ⟨parent, key, above, ran⟩
  · exact identified.congr fun other => by simp [needs_iff, none]
  · exact identified.trans (ensures ran) fun other => by simp [needs_iff, above, eq_comm]

theorem createProperty_opens_step (ran : Yields (s.createProperty (steps + 1) object) t schema u) :
    Opens s (s.Mentions object) t u := by
  rcases createProperty_cases ran with ⟨type, value, _, rfl⟩ |
    ⟨players, inline, v, identified, inlines, opened, _⟩
  · refine .of_there fun other mentions => ?_
    cases mentions with
    | self identified | part identified =>
      rw [value] at identified
      contradiction
  · exact (inlines.opens creates).trans (ensures opened) fun _ => mentions_iff identified

end Calls

theorem calls_open (s : Snapshot) (steps : Nat) :
    (∀ {subject t key u}, Yields (s.ensureTable steps subject) t key u →
      Opens s (· = subject) t u) ∧
    (∀ {object t schema u}, Yields (s.createProperty steps object) t schema u →
      Opens s (s.Mentions object) t u) := by
  induction steps with
  | zero => exact ⟨fun ran => absurd ran not_yields_ensureTable_zero,
      fun ran => absurd ran not_yields_createProperty_zero⟩
  | succ steps ih =>
    exact ⟨ensureTable_opens_step ih.1 ih.2, createProperty_opens_step ih.1 ih.2⟩

theorem tableOf_opens (ran : Yields (s.tableOf subject) t key u) : Opens s (· = subject) t u :=
  (calls_open s _).1 ran

theorem propertyOf_opens (ran : Yields (s.propertyOf object) t schema u) :
    Opens s (s.Mentions object) t u :=
  (calls_open s _).2 ran

/-- The players whose tables a fact type of the shape is about: its own, that of the owner and those
that the owner's property refers to, or those of all players that are no plain values. -/
def Concerns (s : Snapshot) (id : FactTypeId) (shape : Shape) (player : Player) : Prop :=
  match shape with
  | .association _ => player = .factType id
  | .functional owner value => player = s.playerOf owner ∨ s.Mentions (s.playerOf value) player
  | .arrayValued owner item => player = s.playerOf owner ∨ s.Mentions (s.playerOf item) player
  | .unary role => player = s.playerOf role
  | .independent => player ∈ s.players id ∧ s.isValueNoun player = false

/-- A fact type opens the tables that it concerns. -/
theorem addFact_opens {pattern : NounPattern} {id : FactTypeId} {shape : Shape} {a : Unit}
    (ran : Yields (s.addFact pattern id shape) t a u) : Opens s (s.Concerns id shape) t u := by
  cases shape with
  | association => exact tableOf_opens (tableOf_of_discard ran)
  | functional owner value =>
    obtain ⟨_, _, _, v, w, _, _, opened, made, rfl⟩ := addFunctional_cases ran
    have both : Opens s (s.Concerns id (.functional owner value)) t w :=
      (tableOf_opens opened).trans (propertyOf_opens made) fun _ => .rfl
    exact both.of_same_subjects (subjects_setProperty ..)
  | arrayValued owner item =>
    obtain ⟨_, _, _, v, w, _, _, opened, made, rfl⟩ := addArrayValued_cases ran
    have both : Opens s (s.Concerns id (.arrayValued owner item)) t w :=
      (tableOf_opens opened).trans (propertyOf_opens made) fun _ => .rfl
    exact both.of_same_subjects rfl
  | unary role =>
    obtain ⟨_, _, v, _, _, opened, rfl⟩ := addUnary_cases ran
    exact (tableOf_opens opened).of_same_subjects (subjects_setProperty ..)
  | independent =>
    have opens : Opens s (fun player => ∃ part ∈ s.players id,
        s.isValueNoun part = false ∧ player = part) t u := by
      refine forM_opens (fun player t a u ran => ?_) ran
      rcases independent_cases ran with ⟨value, rfl⟩ | ⟨plain, opened⟩
      · exact .of_there fun _ plain => by simp [value] at plain
      · exact (tableOf_opens opened).congr (by simp [plain])
    exact opens.congr (by simp [Concerns])

/-- The subjects that have tables: those that a fact type concerns, and all that these need. -/
def HasTable (s : Snapshot) (subject : Player) : Prop :=
  ∃ f ∈ s.factTypes, ∃ shape, s.shapeOf f.id = .ok shape ∧
    ∃ first, s.Concerns f.id shape first ∧ ReflTransGen s.Needs first subject

/-- Where tables can be built, the resources are the subjects that have tables. -/
theorem hasTable_iff {b : BuiltTables} (built : s.buildTables = .ok b) : s.HasTable subject ↔
    ∃ r, b.resources.get? (s.keyOf subject) = some r ∧ r.subject = subject := by
  obtain ⟨shapes, t, shaped, ran, finished⟩ := exists_run_of_buildTables built
  have closes := closes_of_finishTables finished
  have opens := forM_opens (fun _ _ _ _ => addFact_opens) ran
  constructor
  · rintro ⟨f, listed, shape, of_fact, first, concerned, needed⟩
    have ordered : f.id ∈ s.orderedFactTypes :=
      mem_orderedFactTypes.mpr (List.mem_map_of_mem listed)
    obtain ⟨entry, inside, same⟩ := exists_of_mapM_eq_ok shaped ordered
    rw [of_fact] at same
    cases same
    refine closes.exists_resource ?_
    induction needed with
    | refl => exact opens.there first ⟨_, mem_phased.mpr inside, concerned⟩
    | tail _ needs ih =>
      rcases opens.needs ih with none | needed
      · cases none
      · exact needed _ needs
  · rintro ⟨r, taken, rfl⟩
    rcases opens.needed (closes.subject_taken taken) with none | ⟨first, concerned, needed⟩
    · cases none
    · obtain ⟨entry, inside, concerned⟩ := concerned
      have inside := mem_phased.mp inside
      obtain ⟨ids, shape_of⟩ := shapes_of_mapM shaped
      have ordered : entry.1 ∈ s.orderedFactTypes := ids ▸ List.mem_map_of_mem inside
      obtain ⟨f, listed, same⟩ := List.mem_map.mp (mem_orderedFactTypes.mp ordered)
      exact ⟨f, listed, _, same ▸ shape_of inside, first, same ▸ concerned, needed⟩

end Snapshot
end ObjectRole
