import ObjectRole.Proofs.Naming.Separators

/-! A property that is named after its owner. Its name is made from the key of both, while the
owner's own name is only freed of spaces and compared with ASCII's capitals. This module says for
which owners the two agree, so that the owner's name is dropped, and that nothing is dropped for
the others. -/
namespace ObjectRole

namespace Text

variable {c : Char} {head tail text : List Char}

theorem width_append (head tail : List Char) : width (head ++ tail) = width head + width tail := by
  induction head with
  | nil => exact (Nat.zero_add _).symm
  | cons c rest ih => rw [List.cons_append, width, width, ih, Nat.add_assoc]

theorem width_pos (filled : text ≠ []) : 0 < width text := by
  obtain ⟨c, rest, rfl⟩ := List.exists_cons_of_ne_nil filled
  exact Nat.add_pos_left c.utf8Size_pos _

/-- A cut at the width of a first part gives the two parts. -/
theorem cutAt?_append (head tail : List Char) :
    cutAt? (width head) (head ++ tail) = some (head, tail) := by
  induction head with
  | nil => cases tail <;> rfl
  | cons c rest ih =>
    have positive := c.utf8Size_pos
    obtain ⟨n, count⟩ := Nat.exists_eq_add_one.mpr positive
    rw [width, List.cons_append, show c.utf8Size + width rest = n + width rest + 1 by omega,
      cutAt?, if_pos (by omega), show n + width rest + 1 - c.utf8Size = width rest by omega, ih]
    rfl

theorem append_of_cutAt? {n : Nat} (cut : cutAt? n text = some (head, tail)) :
    text = head ++ tail := by
  induction text generalizing n head with
  | nil =>
    cases n with
    | zero => cases cut; rfl
    | succ n => contradiction
  | cons c rest ih =>
    cases n with
    | zero => cases cut; rfl
    | succ n =>
      rw [cutAt?] at cut
      split at cut
      · obtain ⟨⟨l, r⟩, cut_rest, parts⟩ := Option.map_eq_some_iff.mp cut
        cases parts
        rw [List.cons_append, ← ih cut_rest]
      · contradiction

theorem isAscii_of_isAlpha (letter : c.isAlpha) : isAscii c := by
  simp only [Char.isAlpha, Char.isUpper, Char.isLower, Bool.or_eq_true, Bool.and_eq_true,
    decide_eq_true_eq, UInt32.le_iff_toNat_le, ge_iff_le] at letter
  have code : c.toNat = c.val.toNat := rfl
  have ends : 'Z'.val.toNat = 90 ∧ 'z'.val.toNat = 122 := by decide
  refine decide_eq_true ?_
  omega

theorem utf8Size_of_isAscii (ascii : isAscii c) : c.utf8Size = 1 :=
  Char.utf8Size_eq_one_iff.mpr
    (UInt32.le_iff_toNat_le.mpr (Nat.le_of_lt_succ (of_decide_eq_true ascii)))

theorem toUpper_eq_of_not_isAscii (beyond : ¬isAscii c) : c.toUpper = c := by
  refine Char.toUpper_eq_of_not_isLower fun small => beyond (isAscii_of_isAlpha ?_)
  rw [Char.isAlpha, small, Bool.or_true]

theorem toLower_eq_of_not_isAscii (beyond : ¬isAscii c) : c.toLower = c := by
  refine Char.toLower_eq_of_not_isUpper fun capital => beyond (isAscii_of_isAlpha ?_)
  rw [Char.isAlpha, capital, Bool.true_or]

theorem isAscii_toUpper (c : Char) : isAscii c.toUpper = isAscii c := by
  by_cases small : c.isLower
  · have letter : c.isAlpha := by rw [Char.isAlpha, small, Bool.or_true]
    rw [isAscii_of_isAlpha letter]
    exact isAscii_of_isAlpha (by rwa [Char.isAlpha_toUpper_eq_isAlpha])
  · rw [Char.toUpper_eq_of_not_isLower small]

theorem width_map_toUpper (text : List Char) : width (text.map Char.toUpper) = width text := by
  induction text with
  | nil => rfl
  | cons c rest ih =>
    rw [List.map_cons, width, width, ih]
    by_cases ascii : isAscii c
    · rw [utf8Size_of_isAscii ascii, utf8Size_of_isAscii (by rwa [isAscii_toUpper])]
    · rw [toUpper_eq_of_not_isAscii ascii]

theorem small_of_isAscii (ascii : isAscii c) : small c = [c.toLower] := if_pos ascii

/-- A text that ends in a small letter of ASCII is not its own capital form. -/
theorem ne_upper (letter : c.isLower) : text ++ [c] ≠ upper (text ++ [c]) := by
  intro same
  have ascii : isAscii c := isAscii_of_isAlpha (by rw [Char.isAlpha, letter, Bool.or_true])
  rw [upper, List.flatMap_append, List.flatMap_singleton, capital, if_pos ascii] at same
  have last := (List.append_inj' same rfl).2
  rw [(List.cons.inj last).1, Char.isLower_toUpper_eq_false] at letter
  contradiction

end Text

namespace Naming

open Text

variable {c : Char} {name owner property subject suffix head tail : List Char}

theorem key_append (a b : List Char) : key (a ++ b) = key a ++ key b := List.flatMap_append

/-- Without hyphens and ampersands a key is the name without its spaces. -/
theorem key_eq_filter (no_hyphen : '-' ∉ name) (no_ampersand : '&' ∉ name) :
    key name = name.filter (· != ' ') := by
  induction name with
  | nil => rfl
  | cons c rest ih =>
    rw [key, List.flatMap_cons, ← key,
      ih (fun inside => no_hyphen (.tail _ inside)) (fun inside => no_ampersand (.tail _ inside))]
    by_cases space : c = ' '
    · subst space
      rfl
    · have not_hyphen : c ≠ '-' := fun hyphen => no_hyphen (hyphen ▸ List.mem_cons_self)
      have not_ampersand : c ≠ '&' := fun sign => no_ampersand (sign ▸ List.mem_cons_self)
      have kept : keyLetters c = [c] := by
        rw [keyLetters] <;> assumption
      rw [kept, List.filter_cons, if_pos (bne_iff_ne.mpr space), List.singleton_append]

/-! ### Names with a suffix -/

/-- A word of ASCII that has its one capital in front, and a small letter behind it. -/
def Capitalized : List Char → Prop
  | [] => False
  | first :: rest => first.isUpper ∧ rest ≠ [] ∧ ∀ c ∈ rest, c.isLower

-- The instances go through the letters at hand; the one that is found by itself tries all
-- characters that there are.
instance : DecidablePred Capitalized
  | [] => .isFalse id
  | _ :: _ =>
    @instDecidableAnd _ _ inferInstance (@instDecidableAnd _ _ inferInstance
      (List.decidableBAll _ _))

theorem Capitalized.isAlpha (word : Capitalized suffix) : ∀ c ∈ suffix, c.isAlpha := by
  intro c inside
  cases suffix with
  | nil => contradiction
  | cons first rest =>
    obtain ⟨capital, _, small⟩ := word
    rw [Char.isAlpha, Bool.or_eq_true]
    rcases List.mem_cons.mp inside with rfl | later
    · exact .inl capital
    · exact .inr (small c later)

theorem Capitalized.key_eq (word : Capitalized suffix) : key suffix = suffix := by
  have plain {sign : Char} (no_letter : ¬sign.isAlpha) : sign ∉ suffix :=
    fun inside => no_letter (word.isAlpha _ inside)
  rw [key_eq_filter (plain (by decide)) (plain (by decide)), List.filter_eq_self]
  intro c inside
  rw [bne_iff_ne]
  rintro rfl
  exact plain (by decide) inside

theorem Capitalized.ne_upper (word : Capitalized suffix) :
    owner ++ suffix ≠ upper (owner ++ suffix) := by
  cases suffix with
  | nil => contradiction
  | cons first rest =>
    obtain ⟨_, filled, small⟩ := word
    have ends : owner ++ first :: rest =
        (owner ++ first :: rest.dropLast) ++ [rest.getLast filled] := by
      rw [List.append_assoc, List.cons_append, List.dropLast_concat_getLast]
    rw [ends]
    exact Text.ne_upper (small _ (List.getLast_mem filled))

theorem loweredCount_le (letters : List Char) : loweredCount letters ≤ letters.length := by
  have run := (List.takeWhile_sublist isCapital (l := letters)).length_le
  rw [loweredCount]
  split
  · exact run
  · split <;> omega

/-- What a word adds to a key leaves the leading capitals to turn small what they are: where all
are capitals, the one in front of the word begins the next. -/
theorem loweredCount_append {letters : List Char} (filled : letters ≠ [])
    (word : Capitalized suffix) : loweredCount (letters ++ suffix) = loweredCount letters := by
  match suffix, word with
  | first :: second :: rest, ⟨capital, _, small⟩ =>
  have letter : first.isAlpha ∧ second.isAlpha := by
    rw [Char.isAlpha, Char.isAlpha, capital, small second List.mem_cons_self, Bool.or_true]
    exact ⟨rfl, rfl⟩
  have begins : isCapital first := by
    rwa [isCapital, if_pos (isAscii_of_isAlpha letter.1)]
  have goes_on : isSmall second := by
    rw [isSmall, if_pos (isAscii_of_isAlpha letter.2)]
    exact small second List.mem_cons_self
  have stops : ¬isCapital second := by
    rw [isCapital, if_pos (isAscii_of_isAlpha letter.2)]
    exact Char.not_isUpper_of_isLower (small second List.mem_cons_self)
  have size := List.length_pos_iff.mpr filled
  rw [loweredCount, loweredCount, List.takeWhile_append]
  split
  · rename_i all
    have run : (first :: second :: rest).takeWhile isCapital = [first] := by
      rw [List.takeWhile_cons_of_pos begins, List.takeWhile_cons_of_neg stops]
    have next : (letters ++ first :: second :: rest)[letters.length + 1]? = some second := by
      rw [List.getElem?_append_right (by omega), Nat.add_sub_cancel_left]
      rfl
    rw [run, List.length_append, all, List.length_singleton]
    rw [next, List.getElem?_eq_none le_rfl, if_neg (by omega), Option.any_some, if_pos goes_on]
    simp
  · rename_i some_small
    have run := (List.takeWhile_sublist isCapital (l := letters)).length_le
    rw [List.getElem?_append_left (by omega)]

/-- A key with its leading capitals made small. -/
def leadLowered (letters : List Char) : List Char :=
  (letters.take (loweredCount letters)).flatMap small ++ letters.drop (loweredCount letters)

theorem propertyLetters_of_ne (mixed : key name ≠ upper (key name)) :
    propertyLetters name = leadLowered (key name) := if_neg mixed

/-- The property name of a word behind an owner is the owner's key, made small in front, and the
word as it is. -/
theorem propertyLetters_append (filled : key owner ≠ []) (word : Capitalized suffix) :
    propertyLetters (owner ++ suffix) = leadLowered (key owner) ++ suffix := by
  have joined : key (owner ++ suffix) = key owner ++ suffix := by rw [key_append, word.key_eq]
  have inside := loweredCount_le (key owner)
  rw [propertyLetters_of_ne (joined ▸ word.ne_upper), joined, leadLowered,
    loweredCount_append filled word, List.take_append_of_le_length inside,
    List.drop_append_of_le_length inside, leadLowered, List.append_assoc]

theorem propertyLetters_of_key_eq (same : key name = key suffix) :
    propertyLetters name = propertyLetters suffix := by
  rw [propertyLetters, same, propertyLetters]

theorem length_le_leadLowered (letters : List Char) :
    letters.length ≤ (leadLowered letters).length := by
  have grown (lead : List Char) : lead.length ≤ (lead.flatMap small).length := by
    rw [List.length_flatMap]
    induction lead with
    | nil => exact Nat.zero_le _
    | cons c rest ih =>
      have one := List.length_pos_iff.mpr (small_ne_nil c)
      simp only [List.map_cons, List.sum_cons, List.length_cons]
      omega
  have lead := grown (letters.take (loweredCount letters))
  have whole := congrArg List.length (List.take_append_drop (loweredCount letters) letters)
  rw [List.length_append] at whole
  rw [leadLowered, List.length_append]
  omega

/-! ### Comparing a property's front with its owner -/

/-- A name without its spaces, in ASCII's capitals. -/
def compared (subject : List Char) : List Char := (subject.filter (· != ' ')).map Char.toUpper

theorem stripLetters_eq (property subject : List Char) :
    stripLetters property subject =
      if (compared subject).isEmpty || width property ≤ width (compared subject) then property
      else
        match cutAt? (width (compared subject)) property with
        | none => property
        | some (head, tail) =>
          if head.map Char.toUpper = compared subject && beginsWord tail then propertyLetters tail
          else property := rfl

theorem stripLetters_of_head (filled : head ≠ [])
    (same : head.map Char.toUpper = compared subject) (ends : beginsWord tail) :
    stripLetters (head ++ tail) subject = propertyLetters tail := by
  have cut_at : width (compared subject) = width head := by rw [← same, width_map_toUpper]
  have owner_filled : compared subject ≠ [] := same ▸ (List.map_eq_nil_iff.not.mpr filled)
  have tail_filled : tail ≠ [] := by
    rintro rfl
    contradiction
  have longer : width head < width (head ++ tail) := by
    rw [width_append]
    exact Nat.lt_add_of_pos_right (width_pos tail_filled)
  rw [stripLetters_eq, List.isEmpty_eq_false_iff.mpr owner_filled, cut_at, cutAt?_append]
  simp [longer.not_ge, same, ends]

/-- Either nothing is dropped, or a front that compares equal to the owner, at a word's end. -/
theorem stripLetters_cases (property subject : List Char) :
    stripLetters property subject = property ∨
      ∃ head tail, property = head ++ tail ∧ head.map Char.toUpper = compared subject ∧
        beginsWord tail ∧ stripLetters property subject = propertyLetters tail := by
  rw [stripLetters_eq]
  split
  · exact .inl rfl
  · split
    · exact .inl rfl
    · rename_i head tail cut
      split
      · rename_i agrees
        rw [Bool.and_eq_true, decide_eq_true_eq] at agrees
        exact .inr ⟨head, tail, append_of_cutAt? cut, agrees.1, agrees.2, rfl⟩
      · exact .inl rfl

theorem not_beginsWord (letter : c.isLower) : ¬beginsWord (c :: tail) := by
  have ascii : isAscii c := isAscii_of_isAlpha (by rw [Char.isAlpha, letter, Bool.or_true])
  intro begins
  rw [beginsWord, beq_iff_eq, capital, if_pos ascii] at begins
  rw [← (List.cons.inj begins).1, Char.isLower_toUpper_eq_false] at letter
  contradiction

theorem Capitalized.beginsWord (word : Capitalized suffix) : beginsWord suffix := by
  cases suffix with
  | nil => contradiction
  | cons first rest =>
    have letter : first.isAlpha := word.isAlpha _ List.mem_cons_self
    rw [Naming.beginsWord, capital, if_pos (isAscii_of_isAlpha letter),
      Char.toUpper_eq_of_not_isLower (Char.not_isLower_of_isUpper word.1)]
    exact beq_self_eq_true _

/-- The owners whose names compare to what their keys turn into: nothing but spaces is dropped from
them or spelled out, and the capitals that lead them turn small as those of ASCII do. -/
def Comparable (subject : List Char) : Prop :=
  '-' ∉ subject ∧ '&' ∉ subject ∧
    ∀ c ∈ (key subject).take (loweredCount (key subject)), small c = [c.toLower]

instance : DecidablePred Comparable := fun _ =>
  @instDecidableAnd _ _ inferInstance (@instDecidableAnd _ _ inferInstance
    (List.decidableBAll _ _))

theorem Comparable.front_eq (comparable : Comparable subject) :
    (leadLowered (key subject)).map Char.toUpper = compared subject := by
  obtain ⟨no_hyphen, no_ampersand, lead⟩ := comparable
  have capitals {letters : List Char} (each : ∀ c ∈ letters, small c = [c.toLower]) :
      (letters.flatMap small).map Char.toUpper = letters.map Char.toUpper := by
    induction letters with
    | nil => rfl
    | cons c rest ih =>
      rw [List.flatMap_cons, each c List.mem_cons_self, List.singleton_append, List.map_cons,
        Char.toUpper_toLower_eq_toUpper, ih fun d inside => each d (.tail _ inside), List.map_cons]
  rw [leadLowered, List.map_append, capitals lead, ← List.map_append, List.take_append_drop,
    compared, key_eq_filter no_hyphen no_ampersand]

theorem isSign_of_dropped (dropped : c ∈ [' ', '-', '&']) : IsSign c := by
  simp only [List.mem_cons, List.not_mem_nil, or_false] at dropped
  rcases dropped with rfl | rfl | rfl <;> decide

theorem not_mem_leadLowered (dropped : c ∈ [' ', '-', '&']) : c ∉ leadLowered (key name) := by
  have holds := isSign_of_dropped dropped
  intro inside
  rcases List.mem_append.mp inside with lead | rest
  · obtain ⟨letter, among, here⟩ := List.mem_flatMap.mp lead
    exact not_mem_key dropped (eq_of_mem_small holds here ▸ List.mem_of_mem_take among)
  · exact not_mem_key dropped (List.mem_of_mem_drop rest)

/-- Where a front of the small forms compares to the letters themselves, the letters turn small as
those of ASCII do: a letter beyond ASCII only compares to itself. -/
theorem small_eq_of_front {letters rest more : List Char}
    (front : head <+: letters.flatMap small ++ rest)
    (same : head.map Char.toUpper = letters.map Char.toUpper ++ more) :
    ∀ c ∈ letters, small c = [c.toLower] := by
  induction letters generalizing head with
  | nil => exact fun _ inside => nomatch inside
  | cons c letters ih =>
    obtain ⟨d, others, rfl⟩ : ∃ d others, head = d :: others := by
      refine List.exists_cons_of_ne_nil ?_
      rintro rfl
      contradiction
    rw [List.map_cons, List.map_cons, List.cons_append] at same
    obtain ⟨first, later⟩ := List.cons.inj same
    have alone : small c = [c.toLower] := by
      by_cases ascii : isAscii c
      · exact small_of_isAscii ascii
      have beyond : ¬isAscii d := by
        rwa [← isAscii_toUpper, first, isAscii_toUpper]
      rw [toUpper_eq_of_not_isAscii ascii, toUpper_eq_of_not_isAscii beyond] at first
      obtain ⟨e, es, form⟩ := List.exists_cons_of_ne_nil (small_ne_nil c)
      rw [List.flatMap_cons, form, List.cons_append, List.cons_append, List.cons_prefix_cons,
        first] at front
      rw [← front.1] at form
      rw [toLower_eq_of_not_isAscii ascii]
      exact small_eq_of_head form
    rw [List.flatMap_cons, alone, List.singleton_append, List.cons_append,
      List.cons_prefix_cons] at front
    intro letter inside
    rcases List.mem_cons.mp inside with rfl | among
    · exact alone
    · exact ih front.2 later letter among

theorem comparable_of_front (front : head <+: leadLowered (key subject))
    (same : head.map Char.toUpper = compared subject) : Comparable subject := by
  have plain {sign : Char} (dropped : sign ∈ [' ', '-', '&']) (not_space : sign ≠ ' ') :
      sign ∉ subject := by
    have holds := isSign_of_dropped dropped
    intro inside
    have in_compared : sign ∈ head.map Char.toUpper := by
      rw [same, compared]
      exact List.mem_map.mpr ⟨sign, List.mem_filter.mpr ⟨inside, bne_iff_ne.mpr not_space⟩,
        Char.toUpper_eq_of_not_isLower holds.not_isLower⟩
    obtain ⟨c, in_head, turned⟩ := List.mem_map.mp in_compared
    rw [eq_of_toUpper_eq_sign holds turned] at in_head
    exact not_mem_leadLowered dropped (front.subset in_head)
  have no_hyphen : '-' ∉ subject := plain (by simp) (by decide)
  have no_ampersand : '&' ∉ subject := plain (by simp) (by decide)
  have letters : head.map Char.toUpper =
      ((key subject).take (loweredCount (key subject))).map Char.toUpper ++
        ((key subject).drop (loweredCount (key subject))).map Char.toUpper := by
    rw [same, compared, ← key_eq_filter no_hyphen no_ampersand, ← List.map_append,
      List.take_append_drop]
  exact ⟨no_hyphen, no_ampersand, small_eq_of_front front letters⟩

/-- A cut of a name with a suffix that leaves the beginning of a word lies in front of the
suffix: inside it only small letters come. -/
theorem front_of_cut {front : List Char} (word : Capitalized suffix) (begins : beginsWord tail)
    (cut : front ++ suffix = head ++ tail) : head <+: front := by
  rcases List.append_eq_append_iff.mp cut with ⟨inner, rfl, rest⟩ | ⟨between, rfl, _⟩
  · cases inner with
    | nil => rw [List.append_nil]
    | cons first inner =>
      rw [rest] at word
      obtain ⟨_, _, small⟩ := word
      obtain ⟨c, others, rfl⟩ : ∃ c others, tail = c :: others := by
        cases tail with
        | nil => contradiction
        | cons c others => exact ⟨c, others, rfl⟩
      exact absurd begins (not_beginsWord (small c (List.mem_append_right _ List.mem_cons_self)))
  · exact List.prefix_append _ _

/-! ### Properties named after their owner -/

/-- The property name of a capitalized word is the word in small letters. -/
theorem isLower_of_mem_propertyLetters (word : Capitalized suffix) :
    (∀ c ∈ propertyLetters suffix, c.isLower) ∧
      (propertyLetters suffix).length = suffix.length := by
  have mixed : key suffix ≠ upper (key suffix) := by
    rw [word.key_eq]
    change [] ++ suffix ≠ upper ([] ++ suffix)
    exact word.ne_upper
  rw [propertyLetters_of_ne mixed, word.key_eq]
  match suffix, word with
  | first :: second :: rest, ⟨capital, _, small⟩ =>
  have letter : first.isAlpha := by rw [Char.isAlpha, capital, Bool.true_or]
  have one : loweredCount (first :: second :: rest) = 1 := by
    have begins : isCapital first := by rwa [isCapital, if_pos (isAscii_of_isAlpha letter)]
    have ascii : isAscii second := by
      refine isAscii_of_isAlpha ?_
      rw [Char.isAlpha, small second List.mem_cons_self, Bool.or_true]
    have stops : ¬isCapital second := by
      rw [isCapital, if_pos ascii]
      exact Char.not_isUpper_of_isLower (small second List.mem_cons_self)
    rw [loweredCount, List.takeWhile_cons_of_pos begins, List.takeWhile_cons_of_neg stops]
    rfl
  rw [leadLowered, one, List.take_succ_cons, List.take_zero, List.flatMap_singleton,
    small_of_isAscii (isAscii_of_isAlpha letter), List.drop_succ_cons, List.drop_zero]
  refine ⟨fun c inside => ?_, rfl⟩
  rcases List.mem_cons.mp inside with rfl | later
  · rwa [Char.isLower_toLower_eq_isAlpha]
  · exact small c later

/-- From a name in small letters nothing is dropped. -/
theorem stripLetters_of_isLower (small : ∀ c ∈ property, c.isLower) :
    stripLetters property subject = property := by
  rcases stripLetters_cases property subject with same | ⟨head, tail, rfl, _, begins, _⟩
  · exact same
  · cases tail with
    | nil => contradiction
    | cons c rest =>
      exact absurd begins (not_beginsWord (small c (List.mem_append_right _ List.mem_cons_self)))

theorem stripLetters_of_comparable (word : Capitalized suffix) (filled : key owner ≠ [])
    (comparable : Comparable owner) :
    stripLetters (propertyLetters (owner ++ suffix)) owner = propertyLetters suffix := by
  have front : leadLowered (key owner) ≠ [] := by
    have size := length_le_leadLowered (key owner)
    have some_letter := List.length_pos_iff.mpr filled
    exact List.length_pos_iff.mp (by omega)
  rw [propertyLetters_append filled word]
  exact stripLetters_of_head front comparable.front_eq word.beginsWord

theorem stripLetters_of_not_comparable (word : Capitalized suffix) (filled : key owner ≠ [])
    (incomparable : ¬Comparable owner) :
    stripLetters (propertyLetters (owner ++ suffix)) owner = propertyLetters (owner ++ suffix) := by
  rcases stripLetters_cases (propertyLetters (owner ++ suffix)) owner with
    same | ⟨head, tail, cut, compares, begins, _⟩
  · exact same
  · rw [propertyLetters_append filled word] at cut
    exact absurd (comparable_of_front (front_of_cut word begins cut) compares) incomparable

theorem propertyLetters_append_ne (word : Capitalized suffix) (filled : key owner ≠ []) :
    propertyLetters (owner ++ suffix) ≠ propertyLetters suffix := by
  intro same
  have sizes := congrArg List.length same
  rw [propertyLetters_append filled word, List.length_append,
    (isLower_of_mem_propertyLetters word).2] at sizes
  have size := length_le_leadLowered (key owner)
  have some_letter := List.length_pos_iff.mpr filled
  omega

/-- A property whose name is its owner's with a word behind it goes by the word alone exactly if
the owner's name is comparable or leaves no key; otherwise it keeps its whole name. -/
theorem stripSubject_joined (subject : String) {suffix : String}
    (word : Capitalized suffix.toList) :
    (stripSubject (propertyName (subject ++ suffix)) subject = propertyName suffix ↔
      Comparable subject.toList ∨ schemaKey subject = "") ∧
    (¬Comparable subject.toList →
      stripSubject (propertyName (subject ++ suffix)) subject =
        propertyName (subject ++ suffix)) := by
  have no_key : schemaKey subject = "" ↔ key subject.toList = [] := by
    rw [schemaKey, ← String.toList_inj, String.toList_ofList]
    rfl
  simp only [stripSubject, propertyName, String.toList_append, String.toList_ofList,
    String.ofList_inj, no_key]
  by_cases filled : key subject.toList = []
  · have alone : propertyLetters (subject.toList ++ suffix.toList) =
        propertyLetters suffix.toList :=
      propertyLetters_of_key_eq (by rw [key_append, filled, List.nil_append])
    rw [alone, stripLetters_of_isLower (isLower_of_mem_propertyLetters word).1]
    exact ⟨iff_of_true rfl (.inr filled), fun _ => rfl⟩
  by_cases comparable : Comparable subject.toList
  · exact ⟨iff_of_true (stripLetters_of_comparable word filled comparable) (.inl comparable),
      fun incomparable => absurd comparable incomparable⟩
  · have stays := stripLetters_of_not_comparable word filled comparable
    refine ⟨iff_of_false ?_ (not_or.mpr ⟨comparable, filled⟩), fun _ => stays⟩
    rw [stays]
    exact propertyLetters_append_ne word filled

/-- A number named after its order line goes by number alone. -/
theorem stripSubject_joined_of_orderLine :
    Capitalized "Number".toList ∧
      stripSubject (propertyName ("Order Line" ++ "Number")) "Order Line" =
        propertyName "Number" :=
  have word : Capitalized "Number".toList := by decide +kernel
  ⟨word, (stripSubject_joined "Order Line" word).1.mpr (.inl (by decide +kernel))⟩

/-- A hyphen in the owner's name is dropped from the property only, so that both differ. -/
theorem vicePresident_keeps_prefix :
    Capitalized "Name".toList ∧
      stripSubject (propertyName ("Vice-President" ++ "Name")) "Vice-President" =
        "vicePresidentName" ∧
      "vicePresidentName" ≠ propertyName "Name" := by
  decide +kernel

end Naming

end ObjectRole
