import ObjectRole.Proofs.Except
import ObjectRole.Reading.NounPattern

/-! What a reading is split at. At every place the longest of the names counts that stand there, so
two patterns split a text alike when each has the names that the other finds in it. -/
namespace ObjectRole.NounPattern

variable {p q : NounPattern} {name other : String} {names : List String} {text : List Char}
  {before : Option Char}

/-- Longer names come first. -/
def Ordered (p : NounPattern) : Prop :=
  p.names.Pairwise fun a b => b.utf8ByteSize ≤ a.utf8ByteSize

theorem mem_place : other ∈ place name names ↔ other = name ∨ other ∈ names := by
  induction names with
  | nil => rw [place, List.mem_singleton, or_iff_left List.not_mem_nil]
  | cons first rest ih =>
    rw [place]
    split
    · rename_i same
      subst same
      simp
    · split
      · rw [List.mem_cons]
      · rw [List.mem_cons, ih, List.mem_cons]
        exact or_left_comm

theorem mem_ofNames : name ∈ (ofNames names).names ↔ name ∈ names ∧ name ≠ "" := by
  have placed : ∀ list : List String, name ∈ list.foldr place [] ↔ name ∈ list := fun list => by
    induction list with
    | nil => rfl
    | cons first rest ih => rw [List.foldr_cons, mem_place, ih, List.mem_cons]
  rw [ofNames, placed, List.mem_filter]
  simp

theorem pairwise_place (ordered : names.Pairwise fun a b => b.utf8ByteSize ≤ a.utf8ByteSize) :
    (place name names).Pairwise fun a b => b.utf8ByteSize ≤ a.utf8ByteSize := by
  induction names with
  | nil => exact List.pairwise_singleton _ _
  | cons first rest ih =>
    obtain ⟨above, rest_ordered⟩ := List.pairwise_cons.mp ordered
    rw [place]
    split
    · exact ordered
    split
    · rename_i first_later
      have longer : first.utf8ByteSize ≤ name.utf8ByteSize := by
        simp only [precedes, Bool.or_eq_true, Bool.and_eq_true, decide_eq_true_eq,
          beq_iff_eq] at first_later
        omega
      refine List.pairwise_cons.mpr ⟨?_, ordered⟩
      intro other listed
      rcases List.mem_cons.mp listed with rfl | later
      · exact longer
      · exact Nat.le_trans (above other later) longer
    · rename_i first_first
      have shorter : name.utf8ByteSize ≤ first.utf8ByteSize := by
        simp only [precedes, Bool.or_eq_true, Bool.and_eq_true, decide_eq_true_eq,
          beq_iff_eq] at first_first
        omega
      refine List.pairwise_cons.mpr ⟨?_, ih rest_ordered⟩
      intro other listed
      rcases mem_place.mp listed with rfl | later
      · exact shorter
      · exact above other later

theorem ordered_ofNames (names : List String) : (ofNames names).Ordered := by
  change (List.foldr place [] (names.filter (!·.isEmpty))).Pairwise _
  induction names.filter (!·.isEmpty) with
  | nil => exact .nil
  | cons first rest ih => exact pairwise_place ih

/-- The name stands at the front of the text and ends at a word boundary. -/
def stands (name : String) (text : List Char) : Bool :=
  match name.toList.isPrefixOf? text with
  | some rest => Text.boundary name.toList.getLast? rest.head?
  | none => false

/-- The name with the hyphen behind it, if there is one. -/
def bound (name : String) (text : List Char) : List Char :=
  if (text.drop name.toList.length).head? = some '-' then name.toList ++ ['-'] else name.toList

/-- The first of the names that stands at the front of the text between word boundaries. -/
def match? (p : NounPattern) (before : Option Char) (text : List Char) : Option String :=
  if Text.boundary before text.head? then p.names.find? (stands · text) else none

theorem occurrence?_eq (p : NounPattern) (before : Option Char) (text : List Char) :
    p.occurrence? before text = (p.match? before text).map (bound · text) := by
  have each : ∀ name : String, (do
      let rest ← name.toList.isPrefixOf? text
      guard (Text.boundary name.toList.getLast? rest.head?)
      return if rest.head? = some '-' then name.toList ++ ['-'] else name.toList) =
        if stands name text then some (bound name text) else none := by
    intro name
    cases front : name.toList.isPrefixOf? text with
    | none =>
      rw [stands, front]
      rfl
    | some rest =>
      have dropped : text.drop name.toList.length = rest := by
        rw [← List.isPrefixOf?_eq_some_iff_append_eq.mp front, List.drop_left]
      have standing : stands name text = Text.boundary name.toList.getLast? rest.head? := by
        rw [stands, front]
      rw [standing, bound, dropped, Option.bind_eq_bind, Option.bind_some]
      by_cases ends : Text.boundary name.toList.getLast? rest.head? = true
      · rw [guard, if_pos ends, if_pos ends]
        rfl
      · rw [guard, if_neg ends, if_neg ends]
        rfl
  rw [occurrence?, match?]
  by_cases starts : Text.boundary before text.head? = true
  · rw [if_pos starts, if_pos starts, funext each]
    induction p.names with
    | nil => rfl
    | cons name rest ih =>
      rw [List.findSome?_cons, List.find?_cons]
      cases stands name text with
      | true => rfl
      | false => exact ih
  · rw [if_neg starts, if_neg starts]
    rfl

theorem prefix_of_stands (there : stands name text) : name.toList <+: text := by
  rw [stands] at there
  split at there
  · rename_i rest front
    exact ⟨rest, List.isPrefixOf?_eq_some_iff_append_eq.mp front⟩
  · contradiction

/-- A prefix that is not shorter in bytes is the whole. -/
theorem eq_of_front (front : name.toList <+: other.toList)
    (size : other.utf8ByteSize ≤ name.utf8ByteSize) : name = other := by
  obtain ⟨rest, joined⟩ := front
  have whole : name ++ .ofList rest = other := by
    rw [← String.toList_inj, String.toList_append, String.toList_ofList, joined]
  rw [← whole, String.utf8ByteSize_append] at size
  have none : (String.ofList rest).utf8ByteSize = 0 := by omega
  rw [← whole, String.utf8ByteSize_eq_zero_iff.mp none, String.append_empty]

/-- A text has only one prefix of a size. -/
theorem eq_of_stands (there : stands name text) (other_there : stands other text)
    (same : name.utf8ByteSize = other.utf8ByteSize) : name = other := by
  rcases List.prefix_or_prefix_of_prefix (prefix_of_stands there) (prefix_of_stands other_there)
    with front | front
  · exact eq_of_front front (Nat.le_of_eq same.symm)
  · exact (eq_of_front front (Nat.le_of_eq same)).symm

theorem match?_eq_some (matched : p.match? before text = some name) :
    Text.boundary before text.head? = true ∧ name ∈ p.names ∧ stands name text := by
  rw [match?] at matched
  split at matched
  · rename_i starts
    exact ⟨starts, List.mem_of_find?_eq_some matched, (List.find?_eq_some_iff_append.mp matched).1⟩
  · contradiction

theorem exists_match (starts : Text.boundary before text.head? = true) (listed : name ∈ p.names)
    (there : stands name text) : ∃ first, p.match? before text = some first := by
  rw [match?, if_pos starts, ← Option.isSome_iff_exists, List.find?_isSome]
  exact ⟨name, listed, there⟩

/-- No name that stands at a place is longer than the one that is found. -/
theorem Ordered.longest (ordered : p.Ordered) (matched : p.match? before text = some name)
    (listed : other ∈ p.names) (there : stands other text) :
    other.utf8ByteSize ≤ name.utf8ByteSize := by
  obtain ⟨starts, _, _⟩ := match?_eq_some matched
  rw [match?, if_pos starts, List.find?_eq_some_iff_append] at matched
  obtain ⟨_, earlier, later, split, none_earlier⟩ := matched
  rw [Ordered, split, List.pairwise_append, List.pairwise_cons] at ordered
  rw [split] at listed
  rcases List.mem_append.mp listed with before_it | behind
  · have absent := none_earlier other before_it
    rw [there] at absent
    contradiction
  · rcases List.mem_cons.mp behind with rfl | behind
    · exact Nat.le_refl _
    · exact ordered.2.1.1 other behind

/-- Two patterns find the same name at a place if each has the name that the other finds. -/
theorem match?_congr (p_ordered : p.Ordered) (q_ordered : q.Ordered)
    (in_q : ∀ name, p.match? before text = some name → name ∈ q.names)
    (in_p : ∀ name, q.match? before text = some name → name ∈ p.names) :
    p.match? before text = q.match? before text := by
  cases matched : p.match? before text with
  | some name =>
    obtain ⟨starts, _, there⟩ := match?_eq_some matched
    obtain ⟨first, found⟩ := exists_match starts (in_q name matched) there
    have first_there := (match?_eq_some found).2.2
    have first_longest := q_ordered.longest found (in_q name matched) there
    have name_longest := p_ordered.longest matched (in_p first found) first_there
    rw [found, eq_of_stands there first_there (Nat.le_antisymm first_longest name_longest)]
  | none =>
    cases found : q.match? before text with
    | none => rfl
    | some name =>
      obtain ⟨starts, _, there⟩ := match?_eq_some found
      obtain ⟨first, matched_too⟩ := exists_match starts (in_p name found) there
      rw [matched] at matched_too
      contradiction

/-- The names that are found in a text, in order. -/
def found (p : NounPattern) (before : Option Char) : List Char → List String
  | [] => []
  | c :: rest =>
    match p.match? before (c :: rest) with
    | some name =>
      let occurrence := bound name (c :: rest)
      name :: p.found occurrence.getLast? (rest.drop (occurrence.length - 1))
    | none => p.found (some c) rest
termination_by text => text.length
decreasing_by all_goals (simp only [List.length_drop, List.length_cons]; omega)

theorem found_of_match {c : Char} (matched : p.match? before (c :: text) = some name) :
    p.found before (c :: text) = name :: p.found (bound name (c :: text)).getLast?
      (text.drop ((bound name (c :: text)).length - 1)) := by
  rw [found, matched]

theorem found_of_none {c : Char} (none : p.match? before (c :: text) = none) :
    p.found before (c :: text) = p.found (some c) text := by
  rw [found, none]

theorem cut_of_match {c : Char} (matched : p.match? before (c :: text) = some name) :
    p.cut before (c :: text) =
      let (gap, more) := p.cut (bound name (c :: text)).getLast?
        (text.drop ((bound name (c :: text)).length - 1))
      ([], (bound name (c :: text), gap) :: more) := by
  rw [cut, occurrence?_eq, matched, Option.map_some]

theorem cut_of_none {c : Char} (none : p.match? before (c :: text) = none) :
    p.cut before (c :: text) =
      let (gap, more) := p.cut (some c) text
      (c :: gap, more) := by
  rw [cut, occurrence?_eq, none, Option.map_none]

theorem mem_names_of_found (listed : name ∈ p.found before text) : name ∈ p.names := by
  induction before, text using found.induct p with
  | case1 =>
    rw [found] at listed
    contradiction
  | case2 before c rest first matched _ ih =>
    rw [found_of_match matched] at listed
    rcases List.mem_cons.mp listed with rfl | later
    · exact (match?_eq_some matched).2.1
    · exact ih later
  | case3 before c rest none ih =>
    rw [found_of_none none] at listed
    exact ih listed

theorem match?_congr_of_found {c : Char} (p_ordered : p.Ordered) (q_ordered : q.Ordered)
    (in_q : ∀ name ∈ p.found before (c :: text), name ∈ q.names)
    (in_p : ∀ name ∈ q.found before (c :: text), name ∈ p.names) :
    p.match? before (c :: text) = q.match? before (c :: text) := by
  refine match?_congr p_ordered q_ordered ?_ ?_
  · intro name matched
    exact in_q name (found_of_match matched ▸ .head _)
  · intro name matched
    exact in_p name (found_of_match matched ▸ .head _)

/-- Two patterns cut a text alike if each has the names that the other finds in it. -/
theorem cut_congr (p_ordered : p.Ordered) (q_ordered : q.Ordered)
    (in_q : ∀ name ∈ p.found before text, name ∈ q.names)
    (in_p : ∀ name ∈ q.found before text, name ∈ p.names) :
    p.cut before text = q.cut before text := by
  induction before, text using found.induct p with
  | case1 before => rw [cut, cut]
  | case2 before c rest name matched _ ih =>
    have also := match?_congr_of_found p_ordered q_ordered in_q in_p ▸ matched
    rw [found_of_match matched] at in_q
    rw [found_of_match also] at in_p
    rw [cut_of_match matched, cut_of_match also,
      ih (fun name later => in_q name (.tail _ later)) fun name later => in_p name (.tail _ later)]
  | case3 before c rest none ih =>
    have also := match?_congr_of_found p_ordered q_ordered in_q in_p ▸ none
    rw [found_of_none none] at in_q
    rw [found_of_none also] at in_p
    rw [cut_of_none none, cut_of_none also, ih in_q in_p]

/-- Only the set of names matters. -/
theorem tokenize_congr {others : List String} (same : ∀ name, name ∈ names ↔ name ∈ others)
    (text : String) : (ofNames names).tokenize text = (ofNames others).tokenize text := by
  have known (name : String) : name ∈ (ofNames names).names ↔ name ∈ (ofNames others).names := by
    rw [mem_ofNames, mem_ofNames, same]
  rw [tokenize, tokenize, cut_congr (ordered_ofNames names) (ordered_ofNames others)
    (fun name found => (known name).mp (mem_names_of_found found))
    fun name found => (known name).mpr (mem_names_of_found found)]

/-- What is cut out are the names that are found, each with a hyphen behind it or without. -/
theorem cut_found (p : NounPattern) (before : Option Char) (text : List Char) :
    List.Forall₂ (fun name piece => piece.1 = name.toList ∨ piece.1 = name.toList ++ ['-'])
      (p.found before text) (p.cut before text).2 := by
  induction before, text using found.induct p with
  | case1 =>
    rw [found, cut]
    exact .nil
  | case2 before c rest name matched _ ih =>
    rw [found_of_match matched, cut_of_match matched]
    refine .cons ?_ ih
    change bound name (c :: rest) = _ ∨ bound name (c :: rest) = _
    unfold bound
    split
    · exact .inr rfl
    · exact .inl rfl
  | case3 before c rest none ih =>
    rw [found_of_none none, cut_of_none none]
    exact ih

theorem nouns_tokenize (p : NounPattern) (reading : String) : (p.tokenize reading).nouns =
    (p.cut none reading.toList).2.map fun piece => (Token.noun (.ofList piece.1)).bare := by
  have no_noun : ∀ gap, (wordTokens gap).filter (·.isNoun) = [] := fun gap => by
    simp [wordTokens, Token.word]
  rw [tokenize, Predicate.nouns]
  generalize p.cut none reading.toList = pieces
  obtain ⟨gap, pieces⟩ := pieces
  dsimp only
  rw [List.filter_append, no_noun, List.nil_append]
  induction pieces with
  | nil => rfl
  | cons piece rest ih =>
    rw [List.flatMap_cons, List.filter_append, List.map_append, ih, List.filter_cons, no_noun]
    rfl

/-- The name ends as bound tokens do. -/
def EndsInHyphen (name : String) : Prop := name.toList.getLast? = some '-'

instance (name : String) : Decidable (EndsInHyphen name) := inferInstanceAs (Decidable (_ = _))

/-- A token is bare again without the hyphen behind its name. -/
theorem bare_noun {piece : List Char} (unbound : ¬EndsInHyphen name)
    (same : piece = name.toList ∨ piece = name.toList ++ ['-']) :
    (Token.noun (.ofList piece)).bare = name := by
  unfold Token.bare Token.isBound Token.noun
  rcases same with rfl | rfl
  · rw [String.toList_ofList, if_neg, String.ofList_toList]
    simpa [EndsInHyphen] using unbound
  · rw [String.toList_ofList, if_pos (by simp), List.dropLast_concat, String.ofList_toList]

theorem nouns_found (p : NounPattern) (reading : String) :
    List.Forall₂ (fun name noun => ¬EndsInHyphen name → noun = name)
      (p.found none reading.toList) (p.tokenize reading).nouns := by
  rw [nouns_tokenize]
  exact List.forall₂_map_right_iff.mpr
    ((p.cut_found none reading.toList).imp fun _ _ same unbound => bare_noun unbound same)

theorem mem_nouns_of_found {reading : String} (unbound : ¬EndsInHyphen name)
    (listed : name ∈ p.found none reading.toList) : name ∈ (p.tokenize reading).nouns := by
  obtain ⟨noun, inside, same⟩ := exists_of_forall₂ (p.nouns_found reading) listed
  exact same unbound ▸ inside

/-- Where no name that is found ends in a hyphen, these names are the nouns of a reading. -/
theorem nouns_tokenize_of_found {reading : String}
    (known : ∀ name ∈ p.found none reading.toList, ¬EndsInHyphen name) :
    (p.tokenize reading).nouns = p.found none reading.toList := by
  have pairs := p.nouns_found reading
  generalize p.found none reading.toList = names at known pairs
  generalize (p.tokenize reading).nouns = nouns at pairs
  induction pairs with
  | nil => rfl
  | cons same _ ih =>
    rw [same (known _ (.head _)), ih fun name later => known name (.tail _ later)]

theorem nouns_tokenize_eq_found (unbound : ∀ name ∈ p.names, ¬EndsInHyphen name)
    (reading : String) : (p.tokenize reading).nouns = p.found none reading.toList :=
  nouns_tokenize_of_found fun name listed => unbound name (mem_names_of_found listed)

end ObjectRole.NounPattern
