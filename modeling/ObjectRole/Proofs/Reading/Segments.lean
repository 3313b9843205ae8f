import ObjectRole.Proofs.Reading.NounPattern

/-! A reading as names and gaps. Each name that is found begins at the leftmost place behind the one
before it where any name stands between word boundaries, and no longer name stands there. What lies
between is free of names and gives the words. This determines how a reading is cut, so that neither
the order of the names matters nor how often one is listed. -/
namespace ObjectRole

namespace Text

variable {separates : Char → Bool} {text : List Char}

/-- The words of a text are its runs of characters between blanks. -/
inductive WordRuns : List Char → List (List Char) → Prop
  | blank {text : List Char} (blank : ∀ c ∈ text, isBlank c) : WordRuns text []
  | word {lead word rest : List Char} {more : List (List Char)} (blank : ∀ c ∈ lead, isBlank c)
      (solid : ∀ c ∈ word, ¬isBlank c) (some_chars : word ≠ [])
      (stops : ∀ c ∈ rest.head?, isBlank c) (later : WordRuns rest more) :
      WordRuns (lead ++ word ++ rest) (word :: more)

theorem WordRuns.behind_blank {c : Char} {words : List (List Char)} (blank : isBlank c)
    (runs : WordRuns text words) : WordRuns (c :: text) words := by
  cases runs with
  | blank all => exact .blank (List.forall_mem_cons.mpr ⟨blank, all⟩)
  | word lead_blank solid some_chars stops later =>
    exact .word (List.forall_mem_cons.mpr ⟨blank, lead_blank⟩) solid some_chars stops later

/-- A text without separators is one piece, and otherwise the first piece ends at the first one. -/
theorem splitWhen_cases (separates : Char → Bool) (text : List Char) :
    (∀ c ∈ text, ¬separates c) ∧ splitWhen separates text = [text] ∨
    ∃ piece sign rest, text = piece ++ sign :: rest ∧ (∀ c ∈ piece, ¬separates c) ∧
      separates sign ∧ splitWhen separates text = piece :: splitWhen separates rest := by
  induction text with
  | nil => exact .inl ⟨nofun, rfl⟩
  | cons c rest ih =>
    by_cases sign : separates c = true
    · refine .inr ⟨[], c, rest, rfl, nofun, sign, ?_⟩
      rw [splitWhen, if_pos sign]
    · rcases ih with ⟨none, whole⟩ | ⟨piece, own, later, split, none, is_sign, pieces⟩
      · refine .inl ⟨List.forall_mem_cons.mpr ⟨sign, none⟩, ?_⟩
        simp [splitWhen, sign, whole]
      · refine .inr ⟨c :: piece, own, later, congrArg _ split,
          List.forall_mem_cons.mpr ⟨sign, none⟩, is_sign, ?_⟩
        simp [splitWhen, sign, pieces]

theorem wordRuns_words (text : List Char) : WordRuns text (words text) := by
  -- The pieces behind the first separator are those of a shorter text.
  generalize size : text.length = n
  induction n using Nat.strongRecOn generalizing text with
  | ind n ih =>
    rcases splitWhen_cases isBlank text with ⟨solid, whole⟩ | ⟨piece, sign, rest, rfl, solid, blank,
      pieces⟩
    · rw [words, piecesWhen, whole]
      cases text with
      | nil => exact .blank nofun
      | cons c text =>
        have runs : WordRuns ([] ++ (c :: text) ++ []) [c :: text] :=
          .word nofun solid (List.cons_ne_nil _ _) nofun (.blank nofun)
        simpa using runs
    · have shorter : rest.length < n := by
        simp only [List.length_append, List.length_cons] at size
        omega
      have later : WordRuns (sign :: rest) (words rest) :=
        (ih rest.length shorter rest rfl).behind_blank blank
      rw [words, piecesWhen, pieces]
      cases piece with
      | nil => exact later
      | cons c piece =>
        have runs : WordRuns ([] ++ (c :: piece) ++ sign :: rest) ((c :: piece) :: words rest) :=
          .word nofun solid (List.cons_ne_nil _ _) (by simpa using blank) later
        exact runs

end Text

namespace NounPattern

open Text

/-- What follows a hyphen continues the word with a capital, if it begins with a small letter. -/
def continuation : List Char → List Char
  | [] => ['-']
  | c :: rest => if c.isLower then c.toUpper :: rest else '-' :: c :: rest

/-- A word with its continuations joined. -/
def continued (word : List Char) : List Char :=
  let pieces := splitWhen (· == '-') word
  pieces.headD [] ++ pieces.tail.flatMap continuation

theorem continued_cons {c : Char} (other : c ≠ '-') (rest : List Char) :
    continued (c :: rest) = c :: continued rest := by
  have not_hyphen : (c == '-') = false := beq_eq_false_iff_ne.mpr other
  rcases splitWhen_cases (· == '-') rest with ⟨_, pieces⟩ | ⟨_, _, _, _, _, _, pieces⟩ <;>
    simp [continued, splitWhen, not_hyphen, pieces]

theorem continued_hyphen (rest : List Char) : continued ('-' :: rest) =
    match rest with
    | [] => ['-']
    | c :: more => if c.isLower then c.toUpper :: continued more else '-' :: continued rest := by
  cases rest with
  | nil => rfl
  | cons c more =>
    by_cases hyphen : c = '-'
    · subst hyphen
      have no_letter : '-'.isLower = false := by decide
      simp [continued, splitWhen, continuation, no_letter]
    · have not_hyphen : (c == '-') = false := beq_eq_false_iff_ne.mpr hyphen
      by_cases letter : c.isLower = true <;>
        rcases splitWhen_cases (· == '-') more with ⟨_, pieces⟩ | ⟨_, _, _, _, _, _, pieces⟩ <;>
          simp [continued, splitWhen, continuation, not_hyphen, pieces, letter]

theorem joinContinuations_eq (word : List Char) : joinContinuations word = continued word := by
  induction word using joinContinuations.induct with
  | case1 => rfl
  | case2 c rest letter ih =>
    rw [joinContinuations, if_pos letter, ih, continued_hyphen]
    exact (if_pos letter).symm
  | case3 c rest no_letter ih =>
    rw [joinContinuations, if_neg no_letter, ih, continued_hyphen]
    exact (if_neg no_letter).symm
  | case4 c rest other ih =>
    rw [joinContinuations, ih]
    · by_cases hyphen : c = '-'
      · cases rest with
        | nil => exact hyphen ▸ rfl
        | cons d more => exact absurd rfl (other d more hyphen)
      · exact (continued_cons hyphen rest).symm
    · exact other

variable {names others : List String} {name other : String} {text gap gap' : List Char}
  {start place : Nat} {pieces pieces' : List (List Char × List Char)}

/-- A place between two characters of which exactly one is a word character. -/
def BoundaryAt (text : List Char) (place : Nat) : Prop :=
  boundary (text.take place).getLast? (text.drop place).head? = true

/-- A name stands at a place, between word boundaries. -/
structure OccursAt (name : String) (text : List Char) (place : Nat) : Prop where
  front : name.toList <+: text.drop place
  starts : BoundaryAt text place
  stops : BoundaryAt text (place + name.toList.length)

/-- One of the names stands at a place, and no longer one does. -/
structure LongestAt (names : List String) (text : List Char) (place : Nat) (name : String) :
    Prop where
  listed : name ∈ names
  some_chars : name ≠ ""
  occurs : OccursAt name text place
  longest : ∀ other ∈ names, OccursAt other text place →
    other.toList.length ≤ name.toList.length

/-- No name stands at a place. -/
def FreeAt (names : List String) (text : List Char) (place : Nat) : Prop :=
  ∀ name ∈ names, name ≠ "" → ¬OccursAt name text place

/-- A text from a place on as a gap and pieces, each with the gap behind it. No name stands in a
gap, and a piece is the longest name that stands there with the hyphen behind it, if any. -/
inductive Cuts (names : List String) (text : List Char) :
    Nat → List Char → List (List Char × List Char) → Prop
  | last {start : Nat} (free : ∀ later ≥ start, FreeAt names text later) :
      Cuts names text start (text.drop start) []
  | next {start place : Nat} {name : String} {gap : List Char}
      {pieces : List (List Char × List Char)} (ahead : start ≤ place)
      (free : ∀ earlier, start ≤ earlier → earlier < place → FreeAt names text earlier)
      (longest : LongestAt names text place name)
      (rest : Cuts names text (place + (bound name (text.drop place)).length) gap pieces) :
      Cuts names text start ((text.drop start).take (place - start))
        ((bound name (text.drop place), gap) :: pieces)

theorem bound_begins (front : name.toList <+: text) : bound name text <+: text := by
  obtain ⟨rest, rfl⟩ := front
  rw [bound, List.drop_left]
  split
  · rename_i hyphen
    obtain ⟨rest, rfl⟩ := List.head?_eq_some_iff.mp hyphen
    exact ⟨rest, by simp⟩
  · exact List.prefix_append _ _

theorem bound_ne_nil (some_chars : name ≠ "") : bound name text ≠ [] := by
  have chars : name.toList ≠ [] := fun none => some_chars (String.toList_eq_nil_iff.mp none)
  unfold bound
  split <;> simp [chars]

/-- The last character before a place behind a piece is the last one of the piece. -/
theorem getLast?_take_add {piece : List Char} (front : piece <+: text.drop place)
    (some_chars : piece ≠ []) :
    (text.take (place + piece.length)).getLast? = piece.getLast? := by
  rw [List.take_add, List.prefix_iff_eq_take.mp front |>.symm,
    List.getLast?_append_of_ne_nil _ some_chars]

theorem occursAt_iff (some_chars : name ≠ "") : OccursAt name text place ↔
    boundary (text.take place).getLast? (text.drop place).head? = true ∧
      stands name (text.drop place) = true := by
  have chars : name.toList ≠ [] := fun none => some_chars (String.toList_eq_nil_iff.mp none)
  have ends (front : name.toList <+: text.drop place) :
      BoundaryAt text (place + name.toList.length) ↔ stands name (text.drop place) = true := by
    have last := getLast?_take_add front chars
    obtain ⟨rest, split⟩ := front
    have behind : text.drop (place + name.toList.length) = rest := by
      rw [← List.drop_drop, ← split, List.drop_left]
    rw [BoundaryAt, last, behind, stands, List.isPrefixOf?_eq_some_iff_append_eq.mpr split]
  constructor
  · intro occurs
    exact ⟨occurs.starts, (ends occurs.front).mp occurs.stops⟩
  · rintro ⟨starts, there⟩
    have front := prefix_of_stands there
    exact ⟨front, starts, (ends front).mpr there⟩

theorem longestAt_of_match? (matched : (ofNames names).match? (text.take place).getLast?
    (text.drop place) = some name) : LongestAt names text place name := by
  obtain ⟨starts, known, there⟩ := match?_eq_some matched
  obtain ⟨listed, some_chars⟩ := mem_ofNames.mp known
  refine ⟨listed, some_chars, (occursAt_iff some_chars).mpr ⟨starts, there⟩, ?_⟩
  intro other other_listed occurs
  by_cases other_some : other = ""
  · simp [other_some]
  · have longer := (ordered_ofNames names).longest matched
      (mem_ofNames.mpr ⟨other_listed, other_some⟩) ((occursAt_iff other_some).mp occurs).2
    -- Of two prefixes of a text the one with fewer bytes has fewer characters.
    rcases List.prefix_or_prefix_of_prefix occurs.front (prefix_of_stands there) with front | front
    · exact front.length_le
    · exact Nat.le_of_eq (congrArg (·.toList.length) (eq_of_front front longer).symm)

theorem freeAt_of_match? (none : (ofNames names).match? (text.take place).getLast?
    (text.drop place) = none) : FreeAt names text place := by
  intro name listed some_chars occurs
  obtain ⟨starts, there⟩ := (occursAt_iff some_chars).mp occurs
  obtain ⟨first, matched⟩ := exists_match starts (mem_ofNames.mpr ⟨listed, some_chars⟩) there
  rw [none] at matched
  contradiction

/-- A character where no name stands belongs to the gap. -/
theorem Cuts.behind {c : Char} {rest : List Char} (inside : text.drop start = c :: rest)
    (free : FreeAt names text start) (cuts : Cuts names text (start + 1) gap pieces) :
    Cuts names text start (c :: gap) pieces := by
  have tail : text.drop (start + 1) = rest := by
    rw [← List.drop_drop, inside, List.drop_one, List.tail_cons]
  cases cuts with
  | last later_free =>
    rw [tail, ← inside]
    refine .last fun later behind => ?_
    rcases Nat.eq_or_lt_of_le behind with rfl | behind
    · exact free
    · exact later_free later behind
  | @next _ place name gap pieces ahead between longest later =>
    have taken : c :: (text.drop (start + 1)).take (place - (start + 1)) =
        (text.drop start).take (place - start) := by
      rw [tail, inside, ← Nat.sub_sub, ← List.take_succ_cons, Nat.sub_add_cancel (by omega)]
    rw [taken]
    refine .next (by omega) (fun earlier behind before => ?_) longest later
    rcases Nat.eq_or_lt_of_le behind with rfl | behind
    · exact free
    · exact between earlier behind before

/-- Where a name stands, the longest one is the next piece. -/
theorem Cuts.here (longest : LongestAt names text start name)
    (later : Cuts names text (start + (bound name (text.drop start)).length) gap pieces) :
    Cuts names text start [] ((bound name (text.drop start), gap) :: pieces) := by
  have cuts := Cuts.next (Nat.le_refl start) (fun earlier _ _ => by omega) longest later
  rwa [Nat.sub_self, List.take_zero] at cuts

theorem cuts_of_ended (ended : text.length ≤ start) : Cuts names text start [] [] := by
  have none : Cuts names text start (text.drop start) [] := by
    refine .last fun later behind name _ some_chars occurs => some_chars ?_
    have front := occurs.front
    rw [List.drop_eq_nil_iff.mpr (by omega), List.prefix_nil] at front
    exact String.toList_eq_nil_iff.mp front
  rwa [List.drop_eq_nil_iff.mpr ended] at none

/-- Cutting a text from a place on cuts it at the leftmost longest names. -/
theorem cuts_cut (names : List String) (text : List Char) (start : Nat) :
    let cut := (ofNames names).cut (text.take start).getLast? (text.drop start)
    Cuts names text start cut.1 cut.2 := by
  -- By induction on what is left of the text.
  generalize size : text.length - start = n
  induction n using Nat.strongRecOn generalizing start with
  | ind n ih =>
    cases inside : text.drop start with
    | nil =>
      rw [cut]
      exact cuts_of_ended (List.drop_eq_nil_iff.mp inside)
    | cons c rest =>
      have left : start < text.length := by
        by_contra ended
        rw [List.drop_eq_nil_iff.mpr (by omega)] at inside
        contradiction
      cases matched : (ofNames names).match? (text.take start).getLast? (c :: rest) with
      | none =>
        have later := ih (text.length - (start + 1)) (by omega) (start + 1) rfl
        have last : (text.take (start + 1)).getLast? = some c := by
          rw [List.take_add, inside, List.take_one, List.head?_cons, Option.toList_some,
            List.getLast?_concat]
        have tail : text.drop (start + 1) = rest := by
          rw [← List.drop_drop, inside, List.drop_one, List.tail_cons]
        rw [last, tail] at later
        rw [cut_of_none matched]
        exact later.behind inside (freeAt_of_match? (inside ▸ matched))
      | some name =>
        have longest : LongestAt names text start name :=
          longestAt_of_match? (inside ▸ matched)
        have front := bound_begins longest.occurs.front
        have some_chars : bound name (text.drop start) ≠ [] := bound_ne_nil longest.some_chars
        have wide := List.length_pos_iff.mpr some_chars
        have later := ih (text.length - (start + (bound name (text.drop start)).length)) (by omega)
          _ rfl
        have behind : text.drop (start + (bound name (text.drop start)).length) =
            rest.drop ((bound name (text.drop start)).length - 1) := by
          obtain ⟨less, size⟩ := Nat.exists_eq_add_of_lt wide
          rw [← List.drop_drop, size, Nat.zero_add, inside, List.drop_succ_cons,
            Nat.add_sub_cancel]
        rw [getLast?_take_add front some_chars, behind] at later
        rw [cut_of_match matched]
        exact inside ▸ .here longest later

/-- There is only one way to cut a text so. -/
theorem Cuts.unique (cuts : Cuts names text start gap pieces)
    (also : Cuts names text start gap' pieces') : gap = gap' ∧ pieces = pieces' := by
  induction cuts generalizing gap' pieces' with
  | last free =>
    cases also with
    | last _ => exact ⟨rfl, rfl⟩
    | next ahead _ longest _ =>
      exact absurd longest.occurs (free _ ahead _ longest.listed longest.some_chars)
  | @next start place name gap pieces ahead free longest rest ih =>
    cases also with
    | last all_free =>
      exact absurd longest.occurs (all_free _ ahead _ longest.listed longest.some_chars)
    | @next _ place' name' gap' pieces' ahead' free' longest' rest' =>
      have same_place : place = place' := by
        rcases Nat.lt_trichotomy place place' with before | same | behind
        · exact absurd longest.occurs (free' place ahead before _ longest.listed longest.some_chars)
        · exact same
        · exact absurd longest'.occurs
            (free place' ahead' behind _ longest'.listed longest'.some_chars)
      subst same_place
      have same_length : name.toList.length = name'.toList.length :=
        Nat.le_antisymm (longest'.longest name longest.listed longest.occurs)
          (longest.longest name' longest'.listed longest'.occurs)
      have same_name : name = name' := by
        rw [← String.toList_inj, List.prefix_iff_eq_take.mp longest.occurs.front, same_length,
          ← List.prefix_iff_eq_take.mp longest'.occurs.front]
      subst same_name
      obtain ⟨rfl, rfl⟩ := ih rest'
      exact ⟨rfl, rfl⟩

/-- The gaps and the pieces make up the text. -/
theorem Cuts.joined (cuts : Cuts names text start gap pieces) :
    gap ++ pieces.flatMap (fun piece => piece.1 ++ piece.2) = text.drop start := by
  induction cuts with
  | last _ => rw [List.flatMap_nil, List.append_nil]
  | @next start place name gap pieces ahead _ longest _ ih =>
    have piece := List.prefix_iff_eq_append.mp (bound_begins longest.occurs.front)
    have reached : (text.drop start).drop (place - start) = text.drop place := by
      rw [List.drop_drop, Nat.add_sub_cancel' ahead]
    rw [List.flatMap_cons, List.append_assoc, ih, ← List.drop_drop, piece, ← reached,
      List.take_append_drop]

/-- The words of a gap as tokens: small, and with continuations joined. -/
def GapTokens (gap : List Char) (tokens : Predicate) : Prop :=
  ∃ words, WordRuns gap words ∧
    tokens = words.map fun word => .word (.ofList (continued (lower word)))

/-- The tokens of a gap and of pieces: names as they are written, and the words of the gaps. -/
inductive PieceTokens : List Char → List (List Char × List Char) → Predicate → Prop
  | last {gap : List Char} {tokens : Predicate} (words : GapTokens gap tokens) :
      PieceTokens gap [] tokens
  | next {gap name behind : List Char} {pieces : List (List Char × List Char)}
      {tokens more : Predicate} (words : GapTokens gap tokens)
      (later : PieceTokens behind pieces more) :
      PieceTokens gap ((name, behind) :: pieces) (tokens ++ .noun (.ofList name) :: more)

theorem gapTokens_wordTokens (gap : List Char) : GapTokens gap (wordTokens gap) := by
  refine ⟨words gap, wordRuns_words gap, ?_⟩
  simp only [wordTokens, joinContinuations_eq]

theorem pieceTokens_of_cut (gap : List Char) (pieces : List (List Char × List Char)) :
    PieceTokens gap pieces (wordTokens gap ++
      pieces.flatMap fun piece => .noun (.ofList piece.1) :: wordTokens piece.2) := by
  induction pieces generalizing gap with
  | nil =>
    rw [List.flatMap_nil, List.append_nil]
    exact .last (gapTokens_wordTokens gap)
  | cons piece pieces ih => exact .next (gapTokens_wordTokens gap) (ih piece.2)

/-- A reading is cut in one way at the leftmost longest names, its tokens are these names and the
words between them, and only the set of the names matters. -/
theorem tokenize_cuts (names : List String) (reading : String) :
    ∃ gap pieces, gap ++ pieces.flatMap (fun piece => piece.1 ++ piece.2) = reading.toList ∧
      Cuts names reading.toList 0 gap pieces ∧
      (∀ gap' pieces', Cuts names reading.toList 0 gap' pieces' →
        gap' = gap ∧ pieces' = pieces) ∧
      PieceTokens gap pieces ((ofNames names).tokenize reading) ∧
      ∀ others : List String, (∀ name, name ∈ others ↔ name ∈ names) →
        (ofNames others).tokenize reading = (ofNames names).tokenize reading := by
  have cuts := cuts_cut names reading.toList 0
  refine ⟨_, _, cuts.joined, cuts, fun _ _ also => also.unique cuts, pieceTokens_of_cut _ _, ?_⟩
  intro others same
  exact tokenize_congr same reading

end NounPattern
end ObjectRole
