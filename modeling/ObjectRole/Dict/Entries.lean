/-! Association lists in strict key order. They stand where a map is a field of the values it
holds; `Dict` carries the order in its type. Keys compare by code point. -/
namespace ObjectRole.Entries

variable {α β : Type}

/-- Keys increase strictly, so no key occurs twice. -/
def Ordered (entries : List (String × α)) : Prop := entries.Pairwise (·.1 < ·.1)

def get? (key : String) (entries : List (String × α)) : Option α := entries.lookup key

def contains (key : String) (entries : List (String × α)) : Bool := (get? key entries).isSome

/-- Puts a value under a key, in the place of the value that was there. -/
def insert (key : String) (value : α) : List (String × α) → List (String × α)
  | [] => [(key, value)]
  | entry :: rest =>
    if key < entry.1 then (key, value) :: entry :: rest
    else if key = entry.1 then (key, value) :: rest
    else entry :: insert key value rest

def erase (key : String) (entries : List (String × α)) : List (String × α) :=
  entries.filter (·.1 != key)

def mapValues (f : α → β) (entries : List (String × α)) : List (String × β) :=
  entries.map fun entry => (entry.1, f entry.2)

/-- Later values replace earlier ones of the same key. -/
def ofList (pairs : List (String × α)) : List (String × α) :=
  pairs.foldl (fun entries pair => insert pair.1 pair.2 entries) []

theorem lt_of_not_lt_of_ne {a b : String} (before : ¬a < b) (distinct : a ≠ b) : b < a := by
  by_cases after : b < a
  · exact after
  · exact absurd (String.le_antisymm (String.not_lt.1 after) (String.not_lt.1 before)) distinct

theorem mem_insert {key : String} {value : α} {entries : List (String × α)}
    {entry : String × α} (member : entry ∈ insert key value entries) :
    entry = (key, value) ∨ entry ∈ entries := by
  induction entries with
  | nil => simpa [insert] using member
  | cons head rest ih =>
    simp only [insert] at member
    split at member
    · simpa using member
    · split at member
      · rcases List.mem_cons.1 member with same | old
        · exact .inl same
        · exact .inr (List.mem_cons_of_mem _ old)
      · rcases List.mem_cons.1 member with same | old
        · exact .inr (same ▸ List.mem_cons_self)
        · exact (ih old).imp_right (List.mem_cons_of_mem _)

theorem Ordered.insert {entries : List (String × α)} (ordered : Ordered entries) (key : String)
    (value : α) : Ordered (insert key value entries) := by
  induction entries with
  | nil => simp [Entries.insert, Ordered]
  | cons head rest ih =>
    obtain ⟨rest_above, rest_ordered⟩ := List.pairwise_cons.1 ordered
    simp only [Entries.insert]
    split
    · rename_i below
      refine List.pairwise_cons.2 ⟨fun entry member => ?_, ordered⟩
      rcases List.mem_cons.1 member with same | old
      · exact same ▸ below
      · exact String.lt_trans below (rest_above entry old)
    · rename_i not_below
      split
      · rename_i same
        exact List.pairwise_cons.2
          ⟨fun entry member => same ▸ rest_above entry member, rest_ordered⟩
      · rename_i distinct
        refine List.pairwise_cons.2 ⟨fun entry member => ?_, ih rest_ordered⟩
        rcases mem_insert member with same | old
        · exact same ▸ lt_of_not_lt_of_ne not_below distinct
        · exact rest_above entry old

theorem Ordered.erase {entries : List (String × α)} (ordered : Ordered entries) (key : String) :
    Ordered (erase key entries) := List.Pairwise.filter _ ordered

theorem Ordered.mapValues {entries : List (String × α)} (ordered : Ordered entries) (f : α → β) :
    Ordered (mapValues f entries) := by
  simpa [Ordered, Entries.mapValues, List.pairwise_map] using ordered

theorem Ordered.ofList (pairs : List (String × α)) : Ordered (ofList pairs) := by
  suffices step : ∀ entries : List (String × α), Ordered entries →
      Ordered (pairs.foldl (fun entries pair => Entries.insert pair.1 pair.2 entries) entries) from
    step [] .nil
  induction pairs with
  | nil => exact fun _ ordered => ordered
  | cons pair rest ih => exact fun _ ordered => ih _ (ordered.insert pair.1 pair.2)

@[simp] theorem get?_nil (key : String) : get? key ([] : List (String × α)) = none := rfl

theorem get?_cons (key : String) (entry : String × α) (rest : List (String × α)) :
    get? key (entry :: rest) = if key = entry.1 then some entry.2 else get? key rest := by
  obtain ⟨k, value⟩ := entry
  simp only [get?, List.lookup_cons]
  by_cases same : key = k
  · simp [same]
  · simp [same, beq_eq_false_iff_ne.2 same]

/-- A key reads the value put under it last; other keys read what they read before. -/
theorem get?_insert (key other : String) (value : α) (entries : List (String × α)) :
    get? other (insert key value entries) =
      if other = key then some value else get? other entries := by
  induction entries with
  | nil => simp [insert, get?_cons]
  | cons head rest ih =>
    simp only [insert]
    split
    · simp [get?_cons]
    · split
      · rename_i same
        simp only [get?_cons, same]
        split <;> rfl
      · rename_i distinct
        simp only [get?_cons, ih]
        by_cases at_head : other = head.1
        · simp [at_head, Ne.symm distinct]
        · simp [at_head]

theorem get?_erase (key other : String) (entries : List (String × α)) :
    get? other (erase key entries) = if other = key then none else get? other entries := by
  induction entries with
  | nil => simp [erase]
  | cons head rest ih =>
    simp only [erase, List.filter_cons] at ih ⊢
    by_cases removed : head.1 = key
    · simp only [removed, bne_self_eq_false, Bool.false_eq_true, if_false, ih, get?_cons]
      split <;> rfl
    · simp only [bne_iff_ne, ne_eq, removed, not_false_eq_true, if_true, get?_cons, ih]
      by_cases at_head : other = head.1
      · simp [at_head, removed]
      · simp [at_head]

theorem get?_mapValues (f : α → β) (key : String) (entries : List (String × α)) :
    get? key (mapValues f entries) = (get? key entries).map f := by
  induction entries with
  | nil => rfl
  | cons head rest ih =>
    simp only [mapValues, List.map_cons, get?_cons] at ih ⊢
    split
    · rfl
    · exact ih

/-- A key below all keys of a list is not in it. -/
theorem get?_eq_none_of_below {key : String} {entries : List (String × α)}
    (below : ∀ entry ∈ entries, key < entry.1) : get? key entries = none := by
  induction entries with
  | nil => rfl
  | cons head rest ih =>
    have distinct : key ≠ head.1 := fun same =>
      String.lt_irrefl _ (same ▸ below head List.mem_cons_self)
    rw [get?_cons, if_neg distinct]
    exact ih fun entry member => below entry (List.mem_cons_of_mem _ member)

/-- Two ordered lists in which every key reads the same value are the same list. -/
theorem Ordered.ext {left right : List (String × α)} (left_ordered : Ordered left)
    (right_ordered : Ordered right) (same : ∀ key, get? key left = get? key right) :
    left = right := by
  induction left generalizing right with
  | nil =>
    cases right with
    | nil => rfl
    | cons head rest => simpa [get?_cons] using same head.1
  | cons head rest ih =>
    obtain ⟨rest_above, rest_ordered⟩ := List.pairwise_cons.1 left_ordered
    cases right with
    | nil => simpa [get?_cons] using same head.1
    | cons head' rest' =>
      obtain ⟨rest_above', rest_ordered'⟩ := List.pairwise_cons.1 right_ordered
      have none_left : ∀ key, key < head.1 → get? key (head :: rest) = none := fun key below =>
        get?_eq_none_of_below fun entry member => by
          rcases List.mem_cons.1 member with first | later
          · exact first ▸ below
          · exact String.lt_trans below (rest_above entry later)
      have none_right : ∀ key, key < head'.1 → get? key (head' :: rest') = none := fun key below =>
        get?_eq_none_of_below fun entry member => by
          rcases List.mem_cons.1 member with first | later
          · exact first ▸ below
          · exact String.lt_trans below (rest_above' entry later)
      have same_key : head.1 = head'.1 := by
        by_cases equal : head.1 = head'.1
        · exact equal
        · by_cases before : head.1 < head'.1
          · simpa [get?_cons, none_right _ before] using same head.1
          · have after := lt_of_not_lt_of_ne before equal
            simpa [get?_cons, none_left _ after] using same head'.1
      have same_value : head.2 = head'.2 := by
        simpa [get?_cons, same_key] using same head.1
      have same_rest : ∀ key, get? key rest = get? key rest' := by
        intro key
        by_cases at_head : key = head.1
        · rw [at_head, get?_eq_none_of_below rest_above, same_key,
            get?_eq_none_of_below rest_above']
        · simpa [get?_cons, at_head, same_key ▸ at_head] using same key
      rw [ih rest_ordered rest_ordered' same_rest, Prod.ext same_key same_value]

end ObjectRole.Entries
