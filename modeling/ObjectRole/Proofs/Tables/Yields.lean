import ObjectRole.Tables.Build

/-! Steps that build tables, as far as they go through: what they return and the tables that they
leave. -/
namespace ObjectRole.Build

variable {α β : Type} {t u v : Tables}

/-- The steps go through, return a value and leave tables. -/
def Yields (x : Build α) (t : Tables) (a : α) (u : Tables) : Prop :=
  Id.run (x.run.run t) = (.ok a, u)

/-- The tables at the start tell what is returned and left. -/
theorem yields_unique {x : Build α} {a b : α} {v : Tables} (ran : Yields x t a u)
    (also_ran : Yields x t b v) : a = b ∧ u = v := by
  have same := ran.symm.trans also_ran
  rwa [Prod.mk.injEq, Except.ok.injEq] at same

theorem yields_pure {a b : α} : Yields (pure a) t b u ↔ a = b ∧ t = u := by
  change ((.ok a, t) : Except CompileError α × Tables) = (.ok b, u) ↔ _
  rw [Prod.mk.injEq, Except.ok.injEq]

theorem yields_bind {x : Build α} {f : α → Build β} {b : β} :
    Yields (x >>= f) t b u ↔ ∃ a v, Yields x t a v ∧ Yields (f a) v b u := by
  change Id.run ((ExceptT.bindCont f (Id.run (x.run.run t)).1).run (Id.run (x.run.run t)).2) =
    (.ok b, u) ↔ _
  unfold Yields
  rcases Id.run (x.run.run t) with ⟨result, v⟩
  cases result with
  | error e =>
    change ((.error e, v) : Except CompileError β × Tables) = (.ok b, u) ↔ _
    simp only [Prod.mk.injEq, reduceCtorEq, false_and, exists_false]
  | ok a =>
    change Id.run ((f a).run.run v) = (.ok b, u) ↔ _
    simp only [Prod.mk.injEq, Except.ok.injEq]
    constructor
    · exact fun rest => ⟨a, v, ⟨rfl, rfl⟩, rest⟩
    · rintro ⟨_, _, ⟨rfl, rfl⟩, rest⟩
      exact rest

theorem yields_get : Yields get t v u ↔ t = v ∧ t = u := by
  change ((.ok t, t) : Except CompileError Tables × Tables) = (.ok v, u) ↔ _
  rw [Prod.mk.injEq, Except.ok.injEq]

theorem yields_modify {f : Tables → Tables} {a : Unit} : Yields (modify f) t a u ↔ f t = u := by
  change ((.ok (), f t) : Except CompileError Unit × Tables) = (.ok a, u) ↔ _
  simp only [Prod.mk.injEq, true_and]

theorem yields_throw {e : CompileError} {a : α} : ¬Yields (throw e) t a u := by
  change ¬((.error e, t) : Except CompileError α × Tables) = (.ok a, u)
  simp only [Prod.mk.injEq, reduceCtorEq, false_and, not_false_eq_true]

theorem yields_lift {x : Except CompileError α} {a : α} :
    Yields (liftM x) t a u ↔ x = .ok a ∧ t = u := by
  change ((x, t) : Except CompileError α × Tables) = (.ok a, u) ↔ _
  rw [Prod.mk.injEq]

theorem yields_map {x : Build α} {f : α → β} {b : β} :
    Yields (f <$> x) t b u ↔ ∃ a, Yields x t a u ∧ f a = b := by
  rw [map_eq_pure_bind, yields_bind]
  simp only [yields_pure]
  constructor
  · rintro ⟨a, _, ran, same, rfl⟩
    exact ⟨a, ran, same⟩
  · rintro ⟨a, ran, same⟩
    exact ⟨a, u, ran, same, rfl⟩

/-- What every step of a loop keeps, the loop keeps. -/
theorem yields_foldlM (kept : β → Tables → Prop) {f : β → α → Build β} {list : List α} {b c : β}
    (keeps : ∀ a ∈ list, ∀ b t c u, kept b t → Yields (f b a) t c u → kept c u) (init : kept b t)
    (ran : Yields (list.foldlM f b) t c u) : kept c u := by
  induction list generalizing b t with
  | nil =>
    obtain ⟨rfl, rfl⟩ := yields_pure.mp ran
    exact init
  | cons a rest ih =>
    rw [List.foldlM_cons] at ran
    obtain ⟨d, v, first, ran⟩ := yields_bind.mp ran
    exact ih (fun other later => keeps other (.tail _ later)) (keeps a (.head _) b t d v init first)
      ran

theorem yields_forM (kept : Tables → Prop) {f : α → Build Unit} {list : List α} {a : Unit}
    (keeps : ∀ a ∈ list, ∀ t b u, kept t → Yields (f a) t b u → kept u) (init : kept t)
    (ran : Yields (list.forM f) t a u) : kept u := by
  induction list generalizing t with
  | nil =>
    obtain ⟨_, rfl⟩ := yields_pure.mp ran
    exact init
  | cons first rest ih =>
    obtain ⟨b, v, ran_first, ran⟩ := yields_bind.mp ran
    exact ih (fun other later => keeps other (.tail _ later))
      (keeps first (.head _) t b v init ran_first) ran

/-- A loop that goes through comes to each of its steps. -/
theorem exists_of_yields_forM {f : α → Build Unit} {list : List α} {a : α} {b : Unit}
    (listed : a ∈ list) (ran : Yields (list.forM f) t b u) : ∃ before after v w c,
      list = before ++ a :: after ∧ Yields (before.forM f) t () v ∧ Yields (f a) v c w ∧
        Yields (after.forM f) w b u := by
  induction list generalizing t with
  | nil => contradiction
  | cons first rest ih =>
    obtain ⟨c, v, own, others⟩ := yields_bind.mp ran
    rcases List.mem_cons.mp listed with rfl | later
    · exact ⟨[], rest, t, v, c, rfl, yields_pure.mpr ⟨rfl, rfl⟩, own, others⟩
    · obtain ⟨before, after, w, x, d, rfl, earlier, step, onward⟩ := ih later others
      exact ⟨first :: before, after, w, x, d, rfl,
        yields_bind.mpr ⟨c, v, own, earlier⟩, step, onward⟩

/-! ### Runs that fail -/

/-- The steps fail with an error and leave these tables. -/
def Fails (x : Build α) (t : Tables) (e : CompileError) (u : Tables) : Prop :=
  Id.run (x.run.run t) = (.error e, u)

theorem fails_throw {e : CompileError} : Fails (throw e : Build α) t e t := rfl

theorem Fails.bind {x : Build α} {e : CompileError} (fails : Fails x t e u) (f : α → Build β) :
    Fails (x >>= f) t e u := by
  change Id.run ((ExceptT.bindCont f (Id.run (x.run.run t)).1).run (Id.run (x.run.run t)).2) = _
  rw [fails]
  rfl

theorem Yields.bind_fails {x : Build α} {f : α → Build β} {a : α} {e : CompileError} {v : Tables}
    (ran : Yields x t a v) (fails : Fails (f a) v e u) : Fails (x >>= f) t e u := by
  change Id.run ((ExceptT.bindCont f (Id.run (x.run.run t)).1).run (Id.run (x.run.run t)).2) = _
  rw [ran]
  exact fails

/-- A loop fails where one of its steps does, once those before it went through. -/
theorem Yields.forM_fails {f : α → Build Unit} {before after : List α} {a : α} {e : CompileError}
    {v : Tables} (ran : Yields (before.forM f) t () v) (fails : Fails (f a) v e u) :
    Fails ((before ++ a :: after).forM f) t e u := by
  induction before generalizing t with
  | nil =>
    obtain ⟨_, rfl⟩ := yields_pure.mp ran
    exact fails.bind _
  | cons first rest ih =>
    obtain ⟨_, w, went, ran⟩ := yields_bind.mp ran
    exact went.bind_fails (ih ran)

end ObjectRole.Build
