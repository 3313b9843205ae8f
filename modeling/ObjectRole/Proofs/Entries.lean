import ObjectRole.Dict
import Mathlib.Data.List.Basic

/-! Maps as sets of entries: in a list without repeated keys, reading a key and finding an entry are
one. -/
namespace ObjectRole

variable {α β : Type}

namespace Entries

variable {key : String} {value : α} {entries : List (String × α)}

theorem mem_of_get? (found : get? key entries = some value) : (key, value) ∈ entries := by
  induction entries with
  | nil => contradiction
  | cons head rest ih =>
    rw [get?_cons] at found
    split at found
    · rename_i same
      cases Option.some.inj found
      exact same ▸ List.mem_cons_self
    · exact List.mem_cons_of_mem _ (ih found)

theorem get?_of_nodup (nodup : (entries.map (·.1)).Nodup) (member : (key, value) ∈ entries) :
    get? key entries = some value := by
  induction entries with
  | nil => contradiction
  | cons head rest ih =>
    rw [List.map_cons, List.nodup_cons] at nodup
    rw [get?_cons]
    rcases List.mem_cons.mp member with rfl | later
    · exact if_pos rfl
    · have distinct : key ≠ head.1 := by
        rintro rfl
        exact nodup.1 (List.mem_map.mpr ⟨_, later, rfl⟩)
      rw [if_neg distinct]
      exact ih nodup.2 later

theorem Ordered.nodup_keys (ordered : Ordered entries) : (entries.map (·.1)).Nodup := by
  apply List.pairwise_map.mpr (ordered.imp ?_)
  intro _ _ below same
  exact String.lt_irrefl _ (same ▸ below)

theorem get?_of_mem (ordered : Ordered entries) (member : (key, value) ∈ entries) :
    get? key entries = some value := get?_of_nodup ordered.nodup_keys member

theorem get?_eq_some_iff (ordered : Ordered entries) :
    get? key entries = some value ↔ (key, value) ∈ entries :=
  ⟨mem_of_get?, get?_of_mem ordered⟩

theorem length_insert (missing : get? key entries = none) (value : α) :
    (insert key value entries).length = entries.length + 1 := by
  induction entries with
  | nil => rfl
  | cons head rest ih =>
    rw [get?_cons] at missing
    split at missing
    · contradiction
    · rename_i distinct
      rw [insert, if_neg distinct]
      split
      · rfl
      · rw [List.length_cons, ih missing, List.length_cons]

/-- Where no key comes twice, what a key reads does not depend on the order of entries. -/
theorem get?_of_perm {pairs : List (String × α)} (perm : pairs.Perm entries)
    (nodup : (entries.map (·.1)).Nodup) (key : String) : get? key pairs = get? key entries := by
  have also : (pairs.map (·.1)).Nodup := (perm.map _).nodup_iff.mpr nodup
  apply Option.ext
  intro value
  constructor
  · exact fun found => get?_of_nodup nodup (perm.mem_iff.mp (mem_of_get? found))
  · exact fun found => get?_of_nodup also (perm.mem_iff.mpr (mem_of_get? found))

theorem get?_isSome_iff : (get? key entries).isSome ↔ key ∈ entries.map (·.1) := by
  induction entries with
  | nil => simp
  | cons head rest ih =>
    rw [get?_cons, List.map_cons, List.mem_cons]
    split
    · rename_i same
      simp [same]
    · rename_i distinct
      simp only [ih, distinct, false_or]

theorem contains_iff : contains key entries = true ↔ key ∈ entries.map (·.1) := get?_isSome_iff

theorem get?_eq_none_iff : get? key entries = none ↔ key ∉ entries.map (·.1) := by
  rw [← get?_isSome_iff, Option.not_isSome_iff_eq_none]

theorem get?_append (key : String) (front back : List (String × α)) :
    get? key (front ++ back) = (get? key front).or (get? key back) := List.lookup_append

/-- Later pairs hide earlier ones of their key. -/
theorem get?_foldl_insert (pairs entries : List (String × α)) :
    get? key (pairs.foldl (fun entries pair => insert pair.1 pair.2 entries) entries) =
      (get? key pairs.reverse).or (get? key entries) := by
  induction pairs generalizing entries with
  | nil => rfl
  | cons pair rest ih =>
    rw [List.foldl_cons, ih, List.reverse_cons, get?_append, get?_insert, Option.or_assoc, get?_cons]
    split <;> rfl

/-- Entries are put in order whatever order they come in. -/
theorem ofList_of_perm {pairs : List (String × α)} (ordered : Ordered entries)
    (perm : pairs.Perm entries) : ofList pairs = entries := by
  apply (Ordered.ofList pairs).ext ordered
  intro key
  rw [ofList, get?_foldl_insert, get?_nil, Option.or_none]
  exact get?_of_perm ((List.reverse_perm pairs).trans perm) ordered.nodup_keys key

theorem get?_ofList (ordered : Ordered entries) : get? key (ofList entries) = get? key entries := by
  rw [ofList_of_perm ordered (.refl entries)]

theorem mem_ofList {pairs : List (String × α)} {entry : String × α}
    (member : entry ∈ ofList pairs) : entry ∈ pairs := by
  suffices onto : ∀ (pairs entries : List (String × α)),
      entry ∈ pairs.foldl (fun entries pair => insert pair.1 pair.2 entries) entries →
        entry ∈ pairs ∨ entry ∈ entries by
    rcases onto pairs [] member with listed | none
    · exact listed
    · contradiction
  intro pairs
  induction pairs with
  | nil => exact fun entries member => .inr member
  | cons pair rest ih =>
    intro entries member
    rcases ih _ member with later | inserted
    · exact .inl (.tail _ later)
    · rcases mem_insert inserted with rfl | old
      · exact .inl (.head _)
      · exact .inr old

/-! ### Entries in place -/

theorem insert_insert (key : String) (value old : α) (entries : List (String × α)) :
    insert key value (insert key old entries) = insert key value entries := by
  induction entries with
  | nil => simp [insert]
  | cons entry rest ih =>
    rw [insert]
    split
    · simp [insert, *]
    · split
      · simp [insert, *]
      · simp [insert, *]

variable {other : String} {front back : List (String × α)}

theorem insert_comm_of_lt (below : key < other) (value late : α) (entries : List (String × α)) :
    insert other late (insert key value entries) = insert key value (insert other late entries) := by
  have above : ¬other < key := fun above => String.lt_irrefl _ (String.lt_trans below above)
  have distinct : other ≠ key := fun same => String.lt_irrefl _ (same ▸ below)
  induction entries with
  | nil => simp only [insert, if_neg above, if_neg distinct, if_pos below]
  | cons head rest ih =>
    by_cases first : key < head.1
    · -- The smaller key comes in front of the list, whatever happens behind it.
      have in_front : insert key value (insert other late (head :: rest)) =
          (key, value) :: insert other late (head :: rest) := by
        rw [insert]
        split
        · rw [insert, if_pos below]
        · split
          · rw [insert, if_pos below]
          · rw [insert, if_pos first]
      rw [in_front, insert, if_pos first, insert, if_neg above, if_neg distinct]
    · have head_below : head.1 < other := by
        by_cases same : key = head.1
        · exact same ▸ below
        · exact String.lt_trans (lt_of_not_lt_of_ne first same) below
      have behind : ¬other < head.1 :=
        fun above => String.lt_irrefl _ (String.lt_trans head_below above)
      have apart : other ≠ head.1 := fun same => String.lt_irrefl _ (same ▸ head_below)
      have onward : insert other late (head :: rest) = head :: insert other late rest := by
        rw [insert, if_neg behind, if_neg apart]
      rw [onward, insert, insert, if_neg first, if_neg first]
      split
      · rw [insert, if_neg above, if_neg distinct]
      · rw [insert, if_neg behind, if_neg apart, ih]

/-- Entries under different keys may be put in either order. -/
theorem insert_comm (distinct : key ≠ other) (value late : α) (entries : List (String × α)) :
    insert other late (insert key value entries) = insert key value (insert other late entries) := by
  by_cases below : key < other
  · exact insert_comm_of_lt below value late entries
  · exact (insert_comm_of_lt (lt_of_not_lt_of_ne below distinct) late value entries).symm

/-- An entry behind those of smaller keys is replaced where it stands. -/
theorem insert_middle (below : ∀ entry ∈ front, entry.1 < key) (value old : α)
    (back : List (String × α)) :
    insert key value (front ++ (key, old) :: back) = front ++ (key, value) :: back := by
  induction front with
  | nil => rw [List.nil_append, insert, if_neg (String.lt_irrefl _), if_pos rfl, List.nil_append]
  | cons head rest ih =>
    have first : head.1 < key := below head (.head _)
    have behind : ¬key < head.1 := fun above => String.lt_irrefl _ (String.lt_trans first above)
    have distinct : key ≠ head.1 := fun same => String.lt_irrefl _ (same ▸ first)
    rw [List.cons_append, insert, if_neg behind, if_neg distinct,
      ih fun entry listed => below entry (.tail _ listed), List.cons_append]

theorem erase_of_get?_eq_none (missing : get? key entries = none) : erase key entries = entries := by
  refine List.filter_eq_self.mpr fun entry listed => bne_iff_ne.mpr ?_
  rintro rfl
  exact get?_eq_none_iff.mp missing (List.mem_map_of_mem listed)

/-- An entry whose key comes once is removed where it stands. -/
theorem erase_middle (once : key ∉ (front ++ back).map (·.1)) (old : α) :
    erase key (front ++ (key, old) :: back) = front ++ back := by
  have removed : erase key ((key, old) :: back) = erase key back :=
    List.filter_cons_of_neg (by simp)
  rw [List.map_append, List.mem_append, not_or] at once
  have kept := erase_of_get?_eq_none (get?_eq_none_iff.mpr once.1)
  have kept_behind := erase_of_get?_eq_none (get?_eq_none_iff.mpr once.2)
  calc erase key (front ++ (key, old) :: back)
      = erase key front ++ erase key ((key, old) :: back) := List.filter_append ..
    _ = front ++ back := by rw [kept, removed, kept_behind]

end Entries

namespace Dict

variable {d : Dict α} {key : String} {value : α}

theorem get?_eq_some_iff : d.get? key = some value ↔ (key, value) ∈ d.entries :=
  Entries.get?_eq_some_iff d.ordered

theorem mem_keys_iff : key ∈ d.keys ↔ ∃ value, d.get? key = some value := by
  rw [keys, ← Entries.get?_isSome_iff, Option.isSome_iff_exists]
  rfl

theorem contains_eq_isSome (d : Dict α) (key : String) : d.contains key = (d.get? key).isSome := rfl

theorem contains_iff : d.contains key = true ↔ ∃ value, d.get? key = some value := by
  rw [contains, Entries.contains, Option.isSome_iff_exists]
  rfl

theorem contains_of_mem {entry : String × α} (listed : entry ∈ d.entries) : d.contains entry.1 :=
  contains_iff.mpr ⟨entry.2, get?_eq_some_iff.mpr listed⟩

/-- An entry is known by its key. -/
theorem entry_unique {first second : String × α} (first_listed : first ∈ d.entries)
    (second_listed : second ∈ d.entries) (same : first.1 = second.1) : first = second := by
  have found := get?_eq_some_iff.mpr first_listed
  rw [same, get?_eq_some_iff.mpr second_listed] at found
  exact Prod.ext same (Option.some.inj found).symm

theorem keys_ordered (d : Dict α) : d.keys.Pairwise (· < ·) := List.pairwise_map.mpr d.ordered

theorem mapValues_insert (f : α → β) (d : Dict α) (key : String) (value : α) :
    (d.insert key value).mapValues f = (d.mapValues f).insert key (f value) := by
  ext other : 1
  rw [get?_mapValues, get?_insert, get?_insert, get?_mapValues]
  split <;> rfl

theorem ofList_of_perm {pairs : List (String × α)} (perm : pairs.Perm d.entries) :
    ofList pairs = d := by
  obtain ⟨entries, ordered⟩ := d
  have same : Entries.ofList pairs = entries := Entries.ofList_of_perm ordered perm
  subst same
  rfl

theorem size_insert (missing : d.get? key = none) (value : α) :
    (d.insert key value).size = d.size + 1 := Entries.length_insert missing value

/-- What a key reads already may be put there again. -/
theorem insert_of_get? (found : d.get? key = some value) : d.insert key value = d := by
  ext other : 1
  rw [get?_insert]
  split
  · rename_i same
    rw [same, found]
  · rfl

theorem keys_eq_of_contains {d : Dict α} {e : Dict β}
    (same : ∀ key, d.contains key = e.contains key) : d.keys = e.keys := by
  have keys {γ : Type} (d : Dict γ) : (d.mapValues fun _ => ()).keys = d.keys := List.map_map ..
  rw [← keys d, ← keys e]
  congr 1
  ext key : 1
  rw [get?_mapValues, get?_mapValues]
  have there : (d.get? key).isSome = (e.get? key).isSome := same key
  revert there
  cases d.get? key <;> cases e.get? key <;> simp

theorem length_keys (d : Dict α) : d.keys.length = d.size := List.length_map _

theorem get?_ofList_map (d : Dict α) (f : String → α → β) (key : String) :
    (ofList (d.entries.map fun entry => (entry.1, f entry.1 entry.2))).get? key =
      (d.get? key).map (f key) := by
  have ordered : Entries.Ordered (d.entries.map fun entry => (entry.1, f entry.1 entry.2)) :=
    List.pairwise_map.mpr d.ordered
  refine (Entries.get?_ofList ordered).trans ?_
  change Entries.get? key _ = (Entries.get? key d.entries).map (f key)
  induction d.entries with
  | nil => rfl
  | cons head rest ih =>
    rw [List.map_cons, Entries.get?_cons, Entries.get?_cons, ih]
    split
    · rename_i same
      rw [same]
      rfl
    · rfl

end Dict
end ObjectRole
