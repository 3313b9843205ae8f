import ObjectRole.CompileError
import Mathlib.Data.List.Forall2

/-! Runs of steps that may fail: a run that goes through tells that each of its steps did. -/
namespace ObjectRole

variable {ε α β γ : Type}

theorem bind_eq_ok_iff {x : Except ε α} {f : α → Except ε β} {b : β} :
    x >>= f = .ok b ↔ ∃ a, x = .ok a ∧ f a = .ok b := by
  cases x with
  | error e => simp [bind, Except.bind]
  | ok a => simp [bind, Except.bind]

theorem pure_eq_ok_iff {a b : α} : (pure a : Except ε α) = .ok b ↔ b = a := by
  simp [pure, Except.pure, eq_comm]

theorem eq_ok_of_toOption {x : Except ε α} {a : α} (some : x.toOption = .some a) : x = .ok a := by
  cases x with
  | error => contradiction
  | ok => exact congrArg _ (Option.some.inj some)

theorem map_eq_ok_iff {x : Except ε α} {f : α → β} {b : β} :
    f <$> x = .ok b ↔ ∃ a, x = .ok a ∧ f a = b := by
  cases x with
  | error e => simp [Functor.map, Except.map]
  | ok a => simp [Functor.map, Except.map]

theorem mapM_eq_ok_iff {f : α → Except ε β} {list : List α} {results : List β} :
    list.mapM f = .ok results ↔ List.Forall₂ (fun a b => f a = .ok b) list results := by
  induction list generalizing results with
  | nil => simp [pure, Except.pure, eq_comm]
  | cons a rest ih =>
    rw [List.mapM_cons, bind_eq_ok_iff, List.forall₂_cons_left_iff]
    simp only [bind_eq_ok_iff, ih]
    constructor
    · rintro ⟨b, first, later, rest, same⟩
      cases same
      exact ⟨b, later, first, rest, rfl⟩
    · rintro ⟨b, later, first, rest, rfl⟩
      exact ⟨b, first, later, rest, rfl⟩

theorem option_mapM_eq_ok_iff {f : α → Except ε β} {option : Option α} {result : Option β} :
    option.mapM f = .ok result ↔ Option.Rel (fun a b => f a = .ok b) option result := by
  cases option with
  | none => cases result <;> simp [pure, Except.pure]
  | some a => cases result <;> simp [map_eq_ok_iff]

/-- A list has partners if each of its members has one. -/
theorem exists_forall₂_iff {R : α → β → Prop} {list : List α} :
    (∃ others, List.Forall₂ R list others) ↔ ∀ a ∈ list, ∃ b, R a b := by
  induction list with
  | nil => simp
  | cons a rest ih =>
    rw [List.forall_mem_cons, ← ih]
    constructor
    · rintro ⟨_, pairs⟩
      obtain ⟨b, others, first, later, _⟩ := List.forall₂_cons_left_iff.mp pairs
      exact ⟨⟨b, first⟩, ⟨others, later⟩⟩
    · rintro ⟨⟨b, first⟩, ⟨others, later⟩⟩
      exact ⟨b :: others, .cons first later⟩

theorem exists_rel_iff {R : α → β → Prop} {option : Option α} :
    (∃ other, Option.Rel R option other) ↔ ∀ a ∈ option, ∃ b, R a b := by
  cases option with
  | none => exact ⟨fun _ _ listed => (Option.not_mem_none _ listed).elim, fun _ => ⟨none, .none⟩⟩
  | some a =>
    constructor
    · rintro ⟨_, ⟨related⟩⟩ _ ⟨⟩
      exact ⟨_, related⟩
    · intro each
      obtain ⟨b, related⟩ := each a rfl
      exact ⟨some b, .some related⟩

theorem forall_mem_zipIdx_fst {list : List α} {P : α → Prop} :
    (∀ entry ∈ list.zipIdx, P entry.1) ↔ ∀ a ∈ list, P a := by
  conv_rhs => rw [← List.zipIdx_map_fst 0 list, List.forall_mem_map]

theorem exists_mapM_eq_ok_iff {f : α → Except ε β} {list : List α} :
    (∃ results, list.mapM f = .ok results) ↔ ∀ a ∈ list, ∃ b, f a = .ok b := by
  simp only [mapM_eq_ok_iff, exists_forall₂_iff]

/-- Every member of one list has its partner in the other. -/
theorem exists_of_forall₂ {R : α → β → Prop} {list : List α} {others : List β} {a : α}
    (pairs : List.Forall₂ R list others) (listed : a ∈ list) : ∃ b ∈ others, R a b := by
  induction pairs with
  | nil => contradiction
  | cons first _ ih =>
    rcases List.mem_cons.mp listed with rfl | later
    · exact ⟨_, .head _, first⟩
    · obtain ⟨b, inside, related⟩ := ih later
      exact ⟨b, .tail _ inside, related⟩

/-- What stands in one place of a list has its partner in the same place of the other. -/
theorem exists_getElem?_of_forall₂ {R : α → β → Prop} {list : List α} {others : List β} {a : α}
    {place : Nat} (pairs : List.Forall₂ R list others) (found : list[place]? = some a) :
    ∃ b, others[place]? = some b ∧ R a b := by
  obtain ⟨bound, rfl⟩ := List.getElem?_eq_some_iff.mp found
  have inside := pairs.length_eq ▸ bound
  exact ⟨others[place], List.getElem?_eq_getElem inside, pairs.get bound inside⟩

/-- Where the places are listed with the members, a member has its partner in its own place. -/
theorem exists_getElem?_of_zipIdx {R : α × Nat → β → Prop} {list : List α} {others : List β}
    {a : α} {place : Nat} (pairs : List.Forall₂ R list.zipIdx others)
    (there : list[place]? = some a) : ∃ b, others[place]? = some b ∧ R (a, place) b := by
  refine exists_getElem?_of_forall₂ pairs ?_
  rw [List.getElem?_zipIdx, there, Nat.zero_add, Option.map_some]

/-- There a partner comes from the member in its place. -/
theorem exists_getElem?_zipIdx {R : α × Nat → β → Prop} {list : List α} {others : List β}
    {b : β} {place : Nat} (pairs : List.Forall₂ R list.zipIdx others)
    (found : others[place]? = some b) : ∃ a, list[place]? = some a ∧ R (a, place) b := by
  obtain ⟨_, listed, related⟩ := exists_getElem?_of_forall₂ pairs.flip found
  rw [List.getElem?_zipIdx, Nat.zero_add] at listed
  obtain ⟨a, there, rfl⟩ := Option.map_eq_some_iff.mp listed
  exact ⟨a, there, related⟩

theorem exists_of_some_rel {R : α → β → Prop} {a : α} {option : Option β}
    (related : Option.Rel R (some a) option) : ∃ b, option = some b ∧ R a b := by
  cases related with
  | some same => exact ⟨_, rfl, same⟩

theorem exists_of_rel_some {R : α → β → Prop} {option : Option α} {b : β}
    (related : Option.Rel R option (some b)) : ∃ a, option = some a ∧ R a b := by
  cases related with
  | some same => exact ⟨_, rfl, same⟩

theorem map_eq_map_of_forall₂ {R : α → β → Prop} {list : List α} {others : List β} {f : α → γ}
    {g : β → γ} (pairs : List.Forall₂ R list others) (same : ∀ {a b}, R a b → f a = g b) :
    list.map f = others.map g := by
  induction pairs with
  | nil => rfl
  | cons first _ ih => rw [List.map_cons, List.map_cons, same first, ih]

/-- Partners of the same members correspond. -/
theorem eq_map_of_forall₂ {R : α → β → Prop} {Q : α → γ → Prop} {m : β → γ} {list : List α}
    {partners : List β} {others : List γ} (first : List.Forall₂ R list partners)
    (second : List.Forall₂ Q list others) (same : ∀ {a b c}, R a b → Q a c → c = m b) :
    others = partners.map m := by
  induction first generalizing others with
  | nil => exact List.forall₂_nil_left_iff.mp second
  | cons related _ ih =>
    obtain ⟨c, rest, other_related, later, rfl⟩ := List.forall₂_cons_left_iff.mp second
    rw [List.map_cons, same related other_related, ih later]

theorem eq_map_of_rel {R : α → β → Prop} {Q : α → γ → Prop} {m : β → γ} {option : Option α}
    {partner : Option β} {other : Option γ} (first : Option.Rel R option partner)
    (second : Option.Rel Q option other) (same : ∀ {a b c}, R a b → Q a c → c = m b) :
    other = partner.map m := by
  cases first with
  | none =>
    cases second
    rfl
  | some related =>
    obtain ⟨c, rfl, other_related⟩ := exists_of_some_rel second
    rw [Option.map_some, same related other_related]

/-- The same where the places are listed, too. -/
theorem map_eq_map_of_zipIdx {R : α × Nat → β → Prop} {list : List α} {others : List β} {f : α → γ}
    {g : β → γ} (pairs : List.Forall₂ R list.zipIdx others)
    (same : ∀ {entry b}, R entry b → g b = f entry.1) : others.map g = list.map f := by
  have values : list.zipIdx.map (fun entry => f entry.1) = list.map f :=
    (List.map_map ..).symm.trans (by rw [List.zipIdx_map_fst])
  rw [← values]
  exact (map_eq_map_of_forall₂ pairs fun related => (same related).symm).symm

theorem exists_of_mapM_eq_ok {f : α → Except ε β} {list : List α} {results : List β} {a : α}
    (ran : list.mapM f = .ok results) (listed : a ∈ list) : ∃ b ∈ results, f a = .ok b :=
  exists_of_forall₂ (mapM_eq_ok_iff.mp ran) listed

theorem forM_eq_ok_iff {f : α → Except ε Unit} {list : List α} :
    list.forM f = .ok () ↔ ∀ a ∈ list, f a = .ok () := by
  induction list with
  | nil => simp [pure, Except.pure]
  | cons a rest ih =>
    change (f a >>= fun _ => rest.forM f) = .ok () ↔ _
    rw [bind_eq_ok_iff, List.forall_mem_cons, ← ih]
    exact ⟨fun ⟨_, first, rest⟩ => ⟨first, rest⟩, fun ⟨first, rest⟩ => ⟨(), first, rest⟩⟩

/-- Two runs of which the same is read fail with one error, or go through alike. -/
theorem map_eq_map_cases {x y : Except ε α} {read : α → β} (same : read <$> x = read <$> y) :
    (∃ e, x = .error e ∧ y = .error e) ∨ ∃ a b, x = .ok a ∧ y = .ok b ∧ read a = read b := by
  cases x with
  | error e =>
    cases y with
    | error other =>
      cases same
      exact .inl ⟨e, rfl, rfl⟩
    | ok b => cases same
  | ok a =>
    cases y with
    | error other => cases same
    | ok b => exact .inr ⟨a, b, rfl, rfl, Except.ok.inj same⟩

/-- Loops whose steps cannot be told apart by what is read of them cannot be, either. -/
theorem map_foldlM_congr {f g : β → α → Except ε β} {read : β → γ}
    (step : ∀ b c a, read b = read c → read <$> f b a = read <$> g c a) (list : List α) {b c : β}
    (same : read b = read c) : read <$> list.foldlM f b = read <$> list.foldlM g c := by
  induction list generalizing b c with
  | nil => exact congrArg Except.ok same
  | cons a rest ih =>
    rw [List.foldlM_cons, List.foldlM_cons]
    rcases map_eq_map_cases (step b c a same) with ⟨e, here, there⟩ | ⟨_, _, here, there, alike⟩
    · rw [here, there]
      rfl
    · rw [here, there]
      exact ih alike

/-- What every step of a loop keeps, the loop keeps. -/
theorem foldlM_keeps {P : β → Prop} {f : β → α → Except ε β} {list : List α} {b c : β}
    (keeps : ∀ b, P b → ∀ a ∈ list, ∀ c, f b a = .ok c → P c) (init : P b)
    (ran : list.foldlM f b = .ok c) : P c := by
  induction list generalizing b with
  | nil =>
    cases ran
    exact init
  | cons a rest ih =>
    rw [List.foldlM_cons] at ran
    obtain ⟨middle, first, ran⟩ := bind_eq_ok_iff.mp ran
    exact ih (fun b own other later => keeps b own other (.tail _ later))
      (keeps b init a (.head _) middle first) ran

/-- A loop that fails does so in one of its steps. -/
theorem exists_of_foldlM_eq_error {f : β → α → Except ε β} {list : List α} {b : β} {e : ε}
    (failed : list.foldlM f b = .error e) : ∃ c, ∃ a ∈ list, f c a = .error e := by
  induction list generalizing b with
  | nil => cases failed
  | cons a rest ih =>
    rw [List.foldlM_cons] at failed
    cases first : f b a with
    | error other =>
      rw [first] at failed
      cases failed
      exact ⟨b, a, .head _, first⟩
    | ok c =>
      rw [first] at failed
      obtain ⟨d, later, listed, step⟩ := ih failed
      exact ⟨d, later, .tail _ listed, step⟩

end ObjectRole
