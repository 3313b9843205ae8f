import ObjectRole.Proofs.Schema.Fits

/-! Reading and writing values at paths. What is written at a path is read there; a later write at
the same path counts; and where neither of two paths begins with the other, what is written at one
leaves the other as it was, so that two writes may be swapped, even if both of them go through a
value that has to give way to an object. -/
namespace ObjectRole

namespace Json

/-- What a path leads to through the fields of objects. -/
def getAt? : List String → Json → Option Json
  | [], target => some target
  | name :: rest, target => (Entries.get? name target.fieldsOf).bind (getAt? rest)

variable {v w t : Json} {name : String} {p q rest : List String}

theorem getAt?_inside (filled : rest ≠ []) : (t.inside name).getAt? rest =
    t.getAt? (name :: rest) := by
  rw [inside, getAt?]
  cases Entries.get? name t.fieldsOf with
  | some inner => rfl
  | none =>
    obtain ⟨next, more, rfl⟩ := List.exists_cons_of_ne_nil filled
    rfl

/-- What is written is read. -/
theorem getAt?_putAt (v : Json) (p : List String) (t : Json) : (putAt v p t).getAt? p = some v := by
  induction p generalizing t with
  | nil => rfl
  | cons name rest ih => rw [getAt?, get?_putAt, if_pos rfl, Option.bind_some, ih]

/-- Apart from the place that is written nothing changes. -/
theorem getAt?_putAt_of_apart (not_below : ¬p <+: q) (not_above : ¬q <+: p) (v t : Json) :
    (putAt v p t).getAt? q = t.getAt? q := by
  induction p generalizing q t with
  | nil => exact absurd List.nil_prefix not_below
  | cons name rest ih =>
    cases q with
    | nil => exact absurd List.nil_prefix not_above
    | cons other more =>
      rw [getAt?, get?_putAt]
      split
      · rename_i same
        subst same
        rw [List.cons_prefix_cons, not_and] at not_below not_above
        have filled : more ≠ [] := by
          rintro rfl
          exact not_above rfl List.nil_prefix
        rw [Option.bind_some, ih (not_below rfl) (not_above rfl), getAt?_inside filled]
      · rfl

theorem putAt_cons (v : Json) (name : String) (rest : List String) (t : Json) :
    putAt v (name :: rest) t =
      object (Entries.insert name (putAt v rest (t.inside name)) t.fieldsOf) := rfl

theorem inside_putAt (other : String) : (putAt v (name :: rest) t).inside other =
    if other = name then putAt v rest (t.inside name) else t.inside other := by
  rw [inside, get?_putAt]
  split <;> rfl

/-- Writes at places apart may be swapped. -/
theorem putAt_comm (not_below : ¬p <+: q) (not_above : ¬q <+: p) (v w t : Json) :
    putAt w q (putAt v p t) = putAt v p (putAt w q t) := by
  induction p generalizing q t with
  | nil => exact absurd List.nil_prefix not_below
  | cons name rest ih =>
    cases q with
    | nil => exact absurd List.nil_prefix not_above
    | cons other more =>
      rw [putAt_cons w, putAt_cons v name rest (putAt w _ t), inside_putAt, inside_putAt,
        putAt_cons, putAt_cons, fieldsOf, fieldsOf]
      by_cases same : name = other
      · subst same
        rw [List.cons_prefix_cons, not_and] at not_below not_above
        rw [if_pos rfl, if_pos rfl, Entries.insert_insert, Entries.insert_insert,
          ih (not_below rfl) (not_above rfl)]
      · rw [if_neg (Ne.symm same), if_neg same, Entries.insert_comm same]

/-! ### Dotted paths -/

/-- Of two dotted paths with at least one name each: what is written at one is read there, and only
the last of two writes counts. If neither begins with the other, writing at one leaves what the
other leads to, the two writes may be swapped, and a filled error template has both its message and
its code where their paths lead. -/
theorem setPath_lawful (t v w : Json) {p q : String} (p_leads : pathSteps p ≠ [])
    (q_leads : pathSteps q ≠ []) :
    (t.setPath p v).getAt? (pathSteps p) = some v ∧
    (t.setPath p w).setPath p v = t.setPath p v ∧
    (¬pathSteps p <+: pathSteps q → ¬pathSteps q <+: pathSteps p →
      (t.setPath p v).getAt? (pathSteps q) = t.getAt? (pathSteps q) ∧
      (t.setPath p v).setPath q w = (t.setPath q w).setPath p v ∧
      ∀ message code,
        (t.fillError p q message code).getAt? (pathSteps p) = some (string message) ∧
        (t.fillError p q message code).getAt? (pathSteps q) = some (ofNat code)) := by
  have written {p : String} (leads : pathSteps p ≠ []) (t v : Json) :
      t.setPath p v = putAt v (pathSteps p) t := setAt_eq_putAt v leads t
  refine ⟨?_, setAt_setAt_of_over p_leads List.prefix_rfl, fun not_below not_above => ?_⟩
  · rw [written p_leads, getAt?_putAt]
  refine ⟨?_, ?_, fun message code => ⟨?_, ?_⟩⟩
  · rw [written p_leads, getAt?_putAt_of_apart not_below not_above]
  · simp only [written p_leads, written q_leads]
    exact putAt_comm not_below not_above v w t
  · rw [fillError, written q_leads, getAt?_putAt_of_apart not_above not_below, written p_leads,
      getAt?_putAt]
  · rw [fillError, written q_leads, getAt?_putAt]

/-- An error that is a text only, which has to give way to an object with code and message. -/
def plainError : Json := object [("error", string "oops")]

theorem setPath_lawful_of_plainError :
    (pathSteps "error.message" ≠ [] ∧ pathSteps ".error..code" ≠ []) ∧
    ¬pathSteps "error.message" <+: pathSteps ".error..code" ∧
    ¬pathSteps ".error..code" <+: pathSteps "error.message" ∧
    (plainError.setPath "error.message" .null).getAt? (pathSteps ".error..code") =
      plainError.getAt? (pathSteps ".error..code") ∧
    (plainError.setPath "error.message" .null).setPath ".error..code" (.bool true) =
      (plainError.setPath ".error..code" (.bool true)).setPath "error.message" .null ∧
    (plainError.fillError "error.message" ".error..code" "late" 504).getAt?
      (pathSteps "error.message") = some (string "late") := by
  have paths : pathSteps "error.message" = ["error", "message"] ∧
      pathSteps ".error..code" = ["error", "code"] := by decide +kernel
  have leads : pathSteps "error.message" ≠ [] ∧ pathSteps ".error..code" ≠ [] := by
    rw [paths.1, paths.2]
    decide
  have not_below : ¬pathSteps "error.message" <+: pathSteps ".error..code" := by
    rw [paths.1, paths.2]
    decide
  have not_above : ¬pathSteps ".error..code" <+: pathSteps "error.message" := by
    rw [paths.1, paths.2]
    decide
  obtain ⟨_, _, apart⟩ := setPath_lawful plainError .null (.bool true) leads.1 leads.2
  obtain ⟨unchanged, swapped, filled⟩ := apart not_below not_above
  exact ⟨leads, not_below, not_above, unchanged, swapped, (filled "late" 504).1⟩

end Json
end ObjectRole
