import ObjectRole.Proofs.Model.Declared

/-! Readings with a name at each end and no other name in them, be it in part. Both names are found
if they begin and end with characters of words. Other names stand at no word boundary there: they
are passed over, and their roles are missing. -/
namespace ObjectRole

namespace NounPattern

variable {p : NounPattern} {name first last : String} {text gap rest : List Char}
  {before : Option Char}

/-- The name begins and ends with characters of words. -/
def WordEdged (name : String) : Prop :=
  Text.isWordAt name.toList.head? = true ∧ Text.isWordAt name.toList.getLast? = true

instance (name : String) : Decidable (WordEdged name) := inferInstanceAs (Decidable (_ ∧ _))

/-- No name occurs in a text but one at its start and one at its end. -/
def OnlyAtEnds (names : List String) (first last : String) (text : List Char) : Prop :=
  ∀ name ∈ names, ∀ place < text.length, name.toList <+: text.drop place →
    place = 0 ∧ name = first ∨ place + name.toList.length = text.length ∧ name = last

instance (names : List String) (first last : String) (text : List Char) :
    Decidable (OnlyAtEnds names first last text) :=
  inferInstanceAs (Decidable (∀ name ∈ names, ∀ place < text.length, _ → _))

theorem WordEdged.not_endsInHyphen (edged : WordEdged name) : ¬EndsInHyphen name := by
  intro hyphen
  have last := edged.2
  rw [hyphen] at last
  contradiction

/-- No name stands at the front of the text. -/
def Quiet (p : NounPattern) (text : List Char) : Prop := ∀ name ∈ p.names, ¬name.toList <+: text

theorem match?_of_quiet (quiet : p.Quiet text) : p.match? before text = none := by
  cases matched : p.match? before text with
  | none => rfl
  | some name =>
    obtain ⟨_, listed, there⟩ := match?_eq_some matched
    exact absurd (prefix_of_stands there) (quiet name listed)

/-- Nothing is found in a gap that no name begins in. -/
theorem found_append_of_quiet
    (quiet : ∀ place < gap.length, p.Quiet ((gap ++ rest).drop place)) :
    p.found before (gap ++ rest) = p.found (gap.getLast?.or before) rest := by
  induction gap generalizing before with
  | nil => rfl
  | cons c gap ih =>
    have later : ∀ place < gap.length, p.Quiet ((gap ++ rest).drop place) := fun place inside =>
      quiet (place + 1) (Nat.succ_lt_succ inside)
    have first : p.match? before (c :: (gap ++ rest)) = none :=
      match?_of_quiet (quiet 0 (Nat.zero_lt_succ _))
    rw [List.cons_append, found_of_none first, ih later, List.getLast?_cons]
    cases gap.getLast? <;> rfl

section Name

variable (named : name ≠ "") (listed : name ∈ p.names)
  (only : ∀ other ∈ p.names, other.toList <+: name.toList ++ rest → other = name)
  (start : Text.isWordAt before = false) (stop : Text.isWordAt rest.head? = false)
include named listed only start stop

/-- A name that stands free is found exactly if its edges are characters of words. -/
theorem match?_of_only :
    p.match? before (name.toList ++ rest) = if WordEdged name then some name else none := by
  have some_chars : name.toList ≠ [] := fun none => named (String.toList_eq_nil_iff.mp none)
  have starts : Text.boundary before (name.toList ++ rest).head? =
      Text.isWordAt name.toList.head? := by
    rw [Text.boundary, start, List.head?_append_of_ne_nil _ some_chars, Bool.false_bne]
  have ends : stands name (name.toList ++ rest) = Text.isWordAt name.toList.getLast? := by
    rw [stands, List.isPrefixOf?_eq_some_iff_append_eq.mpr rfl]
    dsimp only
    rw [Text.boundary, stop, Bool.bne_false]
  cases matched : p.match? before (name.toList ++ rest) with
  | some other =>
    obtain ⟨began, other_listed, there⟩ := match?_eq_some matched
    obtain rfl := only other other_listed (prefix_of_stands there)
    rw [if_pos ⟨starts ▸ began, ends ▸ there⟩]
  | none =>
    rw [if_neg]
    rintro ⟨begins, stops⟩
    obtain ⟨_, found⟩ := exists_match (starts.trans begins) listed (ends.trans stops)
    rw [matched] at found
    contradiction

theorem found_of_only (unbound : rest.head? ≠ some '-')
    (quiet : ∀ place < name.toList.length, 0 < place →
      p.Quiet ((name.toList ++ rest).drop place)) :
    p.found before (name.toList ++ rest) =
      (if WordEdged name then [name] else []) ++ p.found name.toList.getLast? rest := by
  have matched := match?_of_only named listed only start stop
  cases chars : name.toList with
  | nil => exact absurd (String.toList_eq_nil_iff.mp chars) named
  | cons c tail =>
    rw [chars] at matched quiet
    rw [List.cons_append] at matched ⊢
    split
    · rename_i edged
      rw [if_pos edged] at matched
      have whole : bound name (c :: (tail ++ rest)) = c :: tail := by
        rw [bound, chars, ← List.cons_append, List.drop_left, if_neg unbound]
      rw [found_of_match matched, whole, List.length_cons, Nat.add_sub_cancel, List.drop_left,
        List.singleton_append]
    · rename_i rough
      rw [if_neg rough] at matched
      have later : ∀ place < tail.length, p.Quiet ((tail ++ rest).drop place) :=
        fun place inside => quiet (place + 1) (Nat.succ_lt_succ inside) (Nat.succ_pos place)
      rw [found_of_none matched, found_append_of_quiet later, List.getLast?_cons]
      cases tail.getLast? <;> rfl

end Name

theorem OnlyAtEnds.quiet {place : Nat} (only : OnlyAtEnds p.names first last text)
    (inside : place < text.length) (behind : place ≠ 0)
    (ahead : place + last.toList.length ≠ text.length) : p.Quiet (text.drop place) := by
  intro name listed front
  rcases only name listed place inside front with ⟨start, _⟩ | ⟨stop, rfl⟩
  · exact behind start
  · exact ahead stop

/-- Of the names at the ends of a text those are found that begin and end with characters of
words. -/
theorem found_at_ends {middle : List Char}
    (split : text = first.toList ++ ((' ' :: middle ++ [' ']) ++ last.toList))
    (only : OnlyAtEnds p.names first last text) (first_listed : first ∈ p.names)
    (last_listed : last ∈ p.names) (first_named : first ≠ "") (last_named : last ≠ "") :
    p.found none text = [first, last].filter (WordEdged ·) := by
  generalize gap_eq : ' ' :: middle ++ [' '] = gap at split
  have wide : 0 < gap.length := by simp [← gap_eq]
  have first_long : 0 < first.toList.length :=
    List.length_pos_iff.mpr fun none => first_named (String.toList_eq_nil_iff.mp none)
  have last_long : 0 < last.toList.length :=
    List.length_pos_iff.mpr fun none => last_named (String.toList_eq_nil_iff.mp none)
  have total : text.length = first.toList.length + gap.length + last.toList.length := by
    simp only [split, List.length_append]
    omega
  have behind_first : text.drop first.toList.length = gap ++ last.toList := by
    rw [split, List.drop_left]
  have behind_gap : text.drop (first.toList.length + gap.length) = last.toList := by
    rw [← List.drop_drop, behind_first, List.drop_left]
  have at_first : p.found none text =
      (if WordEdged first then [first] else []) ++
        p.found first.toList.getLast? (gap ++ last.toList) := by
    rw [split]
    refine found_of_only first_named first_listed ?_ rfl ?_ ?_ ?_
    · intro other listed front
      rcases only other listed 0 (by omega) (split ▸ front) with ⟨_, same⟩ | ⟨stop, rfl⟩
      · exact same
      · omega
    · simp only [← gap_eq, List.cons_append, List.head?_cons]
      rfl
    · simp [← gap_eq]
    · intro place inside behind
      rw [← split]
      exact only.quiet (by omega) (by omega) (by omega)
  have at_gap : p.found first.toList.getLast? (gap ++ last.toList) =
      p.found (some ' ') last.toList := by
    have ends : gap.getLast? = some ' ' := gap_eq ▸ List.getLast?_concat
    rw [found_append_of_quiet, ends, Option.some_or]
    · intro place inside
      rw [← behind_first, List.drop_drop]
      exact only.quiet (by omega) (by omega) (by omega)
  have at_last : p.found (some ' ') (last.toList ++ []) =
      (if WordEdged last then [last] else []) ++ p.found last.toList.getLast? [] := by
    refine found_of_only last_named last_listed ?_ rfl rfl nofun ?_
    · intro other listed front
      rw [List.append_nil, ← behind_gap] at front
      rcases only other listed _ (by omega) front with ⟨start, _⟩ | ⟨_, same⟩
      · omega
      · exact same
    · intro place inside behind
      rw [List.append_nil, ← behind_gap, List.drop_drop]
      exact only.quiet (by omega) (by omega) (by omega)
  rw [List.append_nil, found, List.append_nil] at at_last
  rw [at_first, at_gap, at_last]
  by_cases first_edged : WordEdged first <;> by_cases last_edged : WordEdged last <;>
    simp [first_edged, last_edged]

theorem nouns_at_ends {reading middle : String}
    (split : reading = first ++ " " ++ middle ++ " " ++ last)
    (only : OnlyAtEnds p.names first last reading.toList) (first_listed : first ∈ p.names)
    (last_listed : last ∈ p.names) (first_named : first ≠ "") (last_named : last ≠ "") :
    (p.tokenize reading).nouns = [first, last].filter (WordEdged ·) := by
  have chars : reading.toList =
      first.toList ++ ((' ' :: middle.toList ++ [' ']) ++ last.toList) := by
    simp [split]
  have found := found_at_ends chars only first_listed last_listed first_named last_named
  rw [nouns_tokenize_of_found, found]
  intro name listed
  rw [found, List.mem_filter, decide_eq_true_eq] at listed
  exact listed.2.not_endsInHyphen

end NounPattern

namespace Document

open NounPattern

variable {d : Document} {s : Snapshot} {f : FactTypeDeclaration} {id : FactTypeId}
  {subject object reading verb : String}

/-- The names that a document declares, of nouns and of fact types. -/
def names (d : Document) : List String := d.nouns.map (·.name) ++ d.factTypes.filterMap (·.name)

theorem exists_resolvePlayers (resolved : d.resolve = .ok s) (there : f ∈ d.factTypes) :
    ∃ players, d.resolvePlayers d.pattern f = .ok players := by
  obtain ⟨_, made, _, _, _, _⟩ := exists_parts_of_resolve resolved
  rw [resolveParts] at made
  obtain ⟨_, _, made⟩ := bind_eq_ok_iff.mp made
  obtain ⟨_, players_made, _⟩ := bind_eq_ok_iff.mp made
  obtain ⟨players, _, own⟩ := exists_of_mapM_eq_ok players_made there
  exact ⟨players, own⟩

/-- A resolved fact type is played by what its declared or derived names stand for. -/
theorem Resolved.players (resolved : d.Resolved s) (there : d.factTypes[id.place]? = some f) :
    (s.players id).map some = (d.roleNames f).map d.player? := by
  have denotes := (resolved.factType_at there).1
  rw [Snapshot.players, List.map_map]
  refine (map_eq_map_of_forall₂ denotes.roles fun related => ?_).symm
  obtain ⟨player, named, found⟩ := related
  rw [named, Function.comp_apply, Snapshot.playerOf, Snapshot.role, Snapshot.role?, found]
  rfl

/-- The empty name occurs everywhere. -/
theorem ne_empty_of_onlyAtEnds {names : List String} {name : String} {text : List Char}
    (only : OnlyAtEnds names subject object text) (long : 1 < text.length) (listed : name ∈ names) :
    name ≠ "" := by
  rintro rfl
  rcases only _ listed 1 long List.nil_prefix with ⟨start, _⟩ | ⟨stop, _⟩
  · contradiction
  · rw [String.toList_empty, List.length_nil] at stop
    omega

/-- A fact type whose first reading has the names of two nouns at its ends, and no name anywhere
else, is played by those of the two nouns whose names begin and end with characters of words: by
both only if both names do. -/
theorem players_at_ends (resolved : d.resolve = .ok s) (there : d.factTypes[id.place]? = some f)
    (undeclared : f.roles = none) (first : f.texts.head? = some reading)
    (split : reading = subject ++ " " ++ verb ++ " " ++ object)
    (subject_listed : subject ∈ d.nouns.map (·.name))
    (object_listed : object ∈ d.nouns.map (·.name))
    (only : OnlyAtEnds d.names subject object reading.toList) :
    ∃ players, d.declaredPlayers d.pattern f = .ok players ∧
      (d.Numberable → s.players id = players) ∧
      players.map some = ([subject, object].filter (WordEdged ·)).map d.player? ∧
      (players.map some = [d.player? subject, d.player? object] ↔
        WordEdged subject ∧ WordEdged object) := by
  have long : 1 < reading.toList.length := by
    simp [split]
    omega
  have known {name : String} (listed : name ∈ d.nouns.map (·.name)) :
      name ∈ d.pattern.names ∧ name ≠ "" := by
    have some := ne_empty_of_onlyAtEnds only long (List.mem_append_left _ listed)
    exact ⟨mem_pattern.mpr ⟨.inl listed, some⟩, some⟩
  have only_pattern : OnlyAtEnds d.pattern.names subject object reading.toList :=
    fun name listed => only name (mem_ofNames.mp listed).1
  obtain ⟨subject_known, subject_some⟩ := known subject_listed
  obtain ⟨object_known, object_some⟩ := known object_listed
  have nouns := nouns_at_ends split only_pattern subject_known object_known subject_some object_some
  have roles : d.roleNames f = [subject, object].filter (WordEdged ·) := by
    obtain ⟨_, texts⟩ := List.head?_eq_some_iff.mp first
    rw [roleNames, undeclared, texts]
    exact nouns
  obtain ⟨players, made⟩ := exists_resolvePlayers resolved (List.mem_of_getElem? there)
  have named := (resolvePlayers_eq_ok_iff.mp made).1
  have played : players.map some = (d.roleNames f).map d.player? :=
    (map_eq_map_of_forall₂ named fun same => same).symm
  refine ⟨players, declaredPlayers_eq_ok_iff.mpr named, fun numberable => ?_, roles ▸ played, ?_⟩
  · have all := (resolved_of_resolve numberable resolved).players there
    exact List.map_injective_iff.mpr (fun _ _ => Option.some.inj) (all.trans played.symm)
  · rw [played, roles]
    by_cases subject_edged : WordEdged subject <;> by_cases object_edged : WordEdged object <;>
      simp [subject_edged, object_edged]

/-- Persons speak a mother tongue. -/
def speakers : Document where
  nouns := [{ name := "Person" }, { name := "Mother tongue" }]
  factTypes := [{ readings := [.text "Person speaks Mother tongue"] }]

theorem players_at_ends_of_speakers : ∃ s players, speakers.resolve = .ok s ∧
    speakers.Numberable ∧
    OnlyAtEnds speakers.names "Person" "Mother tongue" "Person speaks Mother tongue".toList ∧
    speakers.declaredPlayers speakers.pattern
      { readings := [.text "Person speaks Mother tongue"] } = .ok players ∧
    s.players (.ofNat 0) = players ∧
    players.map some = [speakers.player? "Person", speakers.player? "Mother tongue"] := by
  have passed : speakers.resolvesAnd fun _ => true := by decide +kernel
  obtain ⟨s, resolved, _⟩ := exists_of_resolvesAnd passed
  have numberable : speakers.Numberable := ⟨by decide, by decide, by decide +kernel⟩
  have only : OnlyAtEnds speakers.names "Person" "Mother tongue"
      "Person speaks Mother tongue".toList := by decide +kernel
  have edged : WordEdged "Person" ∧ WordEdged "Mother tongue" := by decide +kernel
  have there : speakers.factTypes[(FactTypeId.ofNat 0).place]? =
      some { readings := [.text "Person speaks Mother tongue"] } := by decide +kernel
  have split : "Person speaks Mother tongue" =
      "Person" ++ " " ++ "speaks" ++ " " ++ "Mother tongue" := by decide
  obtain ⟨players, declared, all, _, both⟩ :=
    players_at_ends resolved there rfl rfl split (by decide) (by decide) only
  exact ⟨s, players, resolved, numberable, only, declared, all numberable, both.mpr edged⟩

/-- Persons know a language whose name ends in no word. -/
def coders : Document where
  nouns := [{ name := "Person" }, { name := "C++" }]
  factTypes := [{ readings := [.text "Person knows C++"] }]

/-- The names stand at the ends of the reading and nowhere else, but the language has no role. -/
theorem coders_play_alone : ∃ s, coders.resolve = .ok s ∧
    OnlyAtEnds coders.names "Person" "C++" "Person knows C++".toList ∧
    coders.declaredPlayers coders.pattern { readings := [.text "Person knows C++"] } =
      .ok [.noun (.ofNat 0)] ∧
    s.players (.ofNat 0) = [.noun (.ofNat 0)] ∧ coders.player? "C++" = some (.noun (.ofNat 1)) := by
  have passed : coders.resolvesAnd fun s => decide <|
      s.players (.ofNat 0) = [.noun (.ofNat 0)] := by decide +kernel
  have declared : (coders.declaredPlayers coders.pattern
      { readings := [.text "Person knows C++"] }).toOption = some [.noun (.ofNat 0)] := by
    decide +kernel
  obtain ⟨s, resolved, checked⟩ := exists_of_resolvesAnd passed
  exact ⟨s, resolved, by decide +kernel, eq_ok_of_toOption declared, of_decide_eq_true checked,
    by decide +kernel⟩

end Document
end ObjectRole
