import ObjectRole.Proofs.Model.Supertypes
import ObjectRole.Proofs.Reading.NounPattern

/-! Readings are split twice: when a document is resolved, at the names of its nouns and named fact
types, and when tables are built, at the names of all nouns and the titles of the fact types that
play roles. Resolution lets nothing through that is no player, so that only titles of fact types
without a name can make a difference. -/
namespace ObjectRole

open NounPattern

/-- The pattern that readings are split with when tables are built. -/
def Snapshot.pattern (s : Snapshot) : NounPattern := .ofNames s.nounNames

/-- The fact type has the name and the readings of its declaration. -/
structure FactTypeDeclaration.Declares (declared : FactTypeDeclaration) (f : FactType) : Prop where
  name : f.name = declared.name
  readings : f.readings = declared.readings.map (·.reading)

theorem FactTypeDeclaration.Declares.title {declared : FactTypeDeclaration} {f : FactType}
    (declares : declared.Declares f) : f.title = declared.title := by
  rw [FactType.title, FactType.primaryReading, declares.name, declares.readings,
    FactTypeDeclaration.title, texts, List.head?_map, List.head?_map, Option.map_map]
  rfl

namespace Document

variable {d : Document} {s : Snapshot} {name : String} {player : Player}

/-- Numbered fact types are declared one after the other, and every player gets a role. -/
theorem number_spec (factType role : Nat) (list : List (FactTypeDeclaration × List Player)) :
    List.Forall₂ (fun entry f => entry.1.Declares f) list (number factType role list).1 ∧
      (∀ place (f : FactType), (number factType role list).1[place]? = some f →
        f.id = .ofNat (factType + place)) ∧
      ∀ entry ∈ list, ∀ player ∈ entry.2, ∃ r ∈ (number factType role list).2,
        r.player = player := by
  induction list generalizing factType role with
  | nil => exact ⟨.nil, fun _ _ found => by contradiction, fun _ listed => by contradiction⟩
  | cons entry rest ih =>
    obtain ⟨f, players⟩ := entry
    obtain ⟨declared, numbered, played⟩ := ih (factType + 1) (role + players.length)
    rw [number]
    refine ⟨.cons ⟨rfl, rfl⟩ declared, ?_, ?_⟩
    · rintro (_ | place) g found
      · cases found
        rfl
      · rw [List.getElem?_cons_succ] at found
        rw [numbered place g found]
        congr 1
        omega
    · intro entry listed player inside
      rcases List.mem_cons.mp listed with rfl | later
      · obtain ⟨place, bound, rfl⟩ := List.getElem_of_mem inside
        refine ⟨⟨.ofNat (role + place), .ofNat factType, players[place]⟩,
          List.mem_append_left _ ?_, rfl⟩
        exact List.mem_mapIdx.mpr ⟨place, bound, rfl⟩
      · obtain ⟨r, inside, same⟩ := played entry later player inside
        exact ⟨r, List.mem_append_right _ inside, same⟩

/-- What resolving leaves of nouns and fact types. -/
structure Resolves (d : Document) (s : Snapshot) : Prop where
  nouns : s.nouns.map (·.name) = d.nouns.map (·.name)
  declared : List.Forall₂ FactTypeDeclaration.Declares d.factTypes s.factTypes
  numbered : ∀ place (f : FactType), s.factTypes[place]? = some f → f.id = .ofNat place
  /-- Nouns of a reading play roles. -/
  played : ∀ declared ∈ d.factTypes, ∀ text ∈ declared.texts,
    ∀ noun ∈ (d.pattern.tokenize text).nouns,
      ∃ player, d.player? noun = some player ∧ ∃ r ∈ s.roles, r.player = player

theorem resolveNoun_name {declared : NounDeclaration} {place : Nat} {noun : Noun}
    (resolved : d.resolveNoun declared place = .ok noun) : noun.name = declared.name := by
  rw [resolveNoun] at resolved
  obtain ⟨_, _, resolved⟩ := bind_eq_ok_iff.mp resolved
  obtain ⟨_, _, resolved⟩ := bind_eq_ok_iff.mp resolved
  cases resolved
  rfl

/-- Nouns keep their names. -/
theorem resolveNouns_names {nouns : List Noun} (resolved : (d.nouns.zipIdx).mapM
    (fun (n, place) => d.resolveNoun n place) = .ok nouns) :
    nouns.map (·.name) = d.nouns.map (·.name) :=
  map_eq_map_of_zipIdx (mapM_eq_ok_iff.mp resolved) resolveNoun_name

theorem resolves_of_resolve (resolved : d.resolve = .ok s) : Resolves d s := by
  obtain ⟨parts, made, nouns_eq, factTypes_eq, roles_eq, _⟩ := exists_parts_of_resolve resolved
  rw [resolveParts] at made
  obtain ⟨nouns, nouns_made, made⟩ := bind_eq_ok_iff.mp made
  obtain ⟨players, players_made, made⟩ := bind_eq_ok_iff.mp made
  cases made
  dsimp only at nouns_eq factTypes_eq roles_eq
  have paired := mapM_eq_ok_iff.mp players_made
  have length : d.factTypes.length = players.length := paired.length_eq
  obtain ⟨declared, numbered, played⟩ := number_spec 0 0 (d.factTypes.zip players)
  rw [← factTypes_eq] at declared numbered
  rw [← roles_eq] at played
  constructor
  case nouns => rw [nouns_eq, resolveNouns_names nouns_made]
  case declared =>
    have whole : d.factTypes = (d.factTypes.zip players).map (·.1) :=
      (List.map_fst_zip (Nat.le_of_eq length)).symm
    rw [whole]
    exact List.forall₂_map_left_iff.mpr declared
  case numbered =>
    intro place f found
    rw [numbered place f found, Nat.zero_add]
  case played =>
    intro f listed text inside noun found
    obtain ⟨place, bound, rfl⟩ := List.getElem_of_mem listed
    have own := paired.get bound (length ▸ bound)
    obtain ⟨player, among, named⟩ := (resolvePlayers_eq_ok_iff.mp own).2 text inside noun found
    have entry : (d.factTypes[place], players[place]) ∈ d.factTypes.zip players :=
      List.mem_iff_getElem.mpr ⟨place, by simp [← length, bound], List.getElem_zip⟩
    exact ⟨player, named, played _ entry player among⟩

namespace Resolves

variable (resolves : Resolves d s)
include resolves

/-- The fact types that are declared are there with their titles. -/
theorem factType_at {place : Nat} {declared : FactTypeDeclaration}
    (there : d.factTypes[place]? = some declared) :
    ∃ f ∈ s.factTypes, f.id = .ofNat place ∧ f.title = declared.title := by
  obtain ⟨bound, rfl⟩ := List.getElem?_eq_some_iff.mp there
  have inside : place < s.factTypes.length := resolves.declared.length_eq ▸ bound
  have declares := resolves.declared.get bound inside
  exact ⟨s.factTypes[place], List.getElem_mem inside,
    resolves.numbered place _ (List.getElem?_eq_getElem inside), declares.title⟩

/-- What plays a role splits readings. -/
theorem mem_nounNames_of_played (named : d.player? name = some player)
    (played : ∃ r ∈ s.roles, r.player = player) : name ∈ s.nounNames := by
  rw [player?, Option.or_eq_some_iff] at named
  rw [Snapshot.nounNames, List.mem_append]
  rcases named with noun | ⟨_, factType⟩
  · left
    obtain ⟨id, found, _⟩ := Option.map_eq_some_iff.mp noun
    obtain ⟨place, found, _⟩ := Option.map_eq_some_iff.mp found
    obtain ⟨bound, same, _⟩ := List.findIdx?_eq_some_iff_getElem.mp found
    rw [resolves.nouns, ← beq_iff_eq.mp same]
    exact List.mem_map_of_mem (List.getElem_mem bound)
  · right
    obtain ⟨id, numbered, rfl⟩ := Option.map_eq_some_iff.mp factType
    obtain ⟨place, found, rfl⟩ := Option.map_eq_some_iff.mp numbered
    obtain ⟨bound, same, _⟩ := List.findIdx?_eq_some_iff_getElem.mp found
    obtain ⟨f, listed, numbered, title⟩ :=
      resolves.factType_at (List.getElem?_eq_getElem bound)
    obtain ⟨r, inside, plays⟩ := played
    have objectified : s.isObjectified f.id = true := by
      rw [numbered, Snapshot.isObjectified, Snapshot.usesOf, Bool.not_eq_true',
        List.isEmpty_eq_false_iff_exists_mem]
      exact ⟨r, List.mem_filter.mpr ⟨inside, beq_iff_eq.mpr plays⟩⟩
    exact List.mem_map.mpr ⟨f, List.mem_filter.mpr ⟨listed, objectified⟩,
      title.trans (beq_iff_eq.mp same)⟩

/-- What splits readings is a noun or the title of a fact type. -/
theorem noun_or_title (listed : name ∈ s.nounNames) :
    name ∈ d.nouns.map (·.name) ∨ ∃ declared ∈ d.factTypes, declared.title = name := by
  rw [Snapshot.nounNames, resolves.nouns, List.mem_append] at listed
  refine listed.imp_right fun title => ?_
  obtain ⟨f, inside, rfl⟩ := List.mem_map.mp title
  obtain ⟨declared, listed, declares⟩ :=
    exists_of_forall₂ resolves.declared.flip (List.mem_of_mem_filter inside)
  exact ⟨declared, listed, (FactTypeDeclaration.Declares.title declares).symm⟩

/-- The readings of a fact type are those of its declaration. -/
theorem exists_declared {f : FactType} {reading : Reading} (listed : f ∈ s.factTypes)
    (inside : reading ∈ f.readings) : ∃ declared ∈ d.factTypes, reading.text ∈ declared.texts := by
  obtain ⟨declared, there, declares⟩ := exists_of_forall₂ resolves.declared.flip listed
  have declares : declared.Declares f := declares
  rw [declares.readings] at inside
  obtain ⟨own, own_inside, rfl⟩ := List.mem_map.mp inside
  exact ⟨declared, there, List.mem_map.mpr ⟨own, own_inside, rfl⟩⟩

end Resolves

theorem mem_pattern : name ∈ d.pattern.names ↔ (name ∈ d.nouns.map (·.name) ∨
    ∃ f ∈ d.factTypes, f.name = some name) ∧ name ≠ "" := by
  rw [pattern, mem_ofNames, List.mem_append, List.mem_filterMap]

/-- The title of a fact type without a name, unless something else is called so. -/
def Nameless (d : Document) (title : String) : Prop :=
  title ∉ d.pattern.names ∧ ∃ f ∈ d.factTypes, f.name = none ∧ f.title = title

instance (d : Document) (title : String) : Decidable (d.Nameless title) :=
  inferInstanceAs (Decidable (_ ∧ _))

namespace Resolves

variable (resolves : Resolves d s)
include resolves

/-- What splits readings when tables are built, splits them before or is nameless. -/
theorem mem_pattern_or_nameless (listed : name ∈ s.pattern.names) :
    name ∈ d.pattern.names ∨ d.Nameless name := by
  obtain ⟨listed, some⟩ := mem_ofNames.mp listed
  by_cases there : name ∈ d.pattern.names
  · exact .inl there
  refine .inr ⟨there, ?_⟩
  rw [mem_pattern, not_and_or, not_or] at there
  obtain ⟨no_noun, unnamed⟩ := there.resolve_right (not_not.mpr some)
  rcases resolves.noun_or_title listed with noun | ⟨f, declared, rfl⟩
  · exact absurd noun no_noun
  · refine ⟨f, declared, ?_, rfl⟩
    cases named : f.name with
    | none => rfl
    | some own =>
      have title : f.title = own := by rw [FactTypeDeclaration.title, named]; rfl
      exact absurd ⟨f, declared, title ▸ named⟩ unnamed

/-- What resolution finds in a reading splits it when tables are built, too. -/
theorem mem_pattern_of_found (named : ∀ f ∈ d.factTypes, ∀ own ∈ f.name, ¬EndsInHyphen own)
    {declared : FactTypeDeclaration} {text : String} (listed : declared ∈ d.factTypes)
    (inside : text ∈ declared.texts) (found : name ∈ d.pattern.found none text.toList) :
    name ∈ s.pattern.names := by
  obtain ⟨known, some⟩ := mem_pattern.mp (mem_names_of_found found)
  refine mem_ofNames.mpr ⟨?_, some⟩
  rcases known with noun | ⟨f, there, own⟩
  · rw [Snapshot.nounNames, resolves.nouns]
    exact List.mem_append_left _ noun
  · have unbound := named f there name own
    obtain ⟨player, is_player, played⟩ :=
      resolves.played declared listed text inside name (mem_nouns_of_found unbound found)
    exact resolves.mem_nounNames_of_played is_player played

end Resolves

variable {f : FactType} {reading : Reading}

/-- A reading is split alike twice if no nameless title is found in it, provided that no fact type
has a name that ends in a hyphen. Where no noun and no title ends so, this is the only case. -/
theorem readings_split_alike (resolved : d.resolve = .ok s)
    (named : ∀ f ∈ d.factTypes, ∀ own ∈ f.name, ¬EndsInHyphen own) (listed : f ∈ s.factTypes)
    (inside : reading ∈ f.readings) :
    ((∀ title ∈ s.pattern.found none reading.text.toList, ¬d.Nameless title) →
      d.pattern.tokenize reading.text = s.pattern.tokenize reading.text) ∧
    ((∀ noun ∈ d.nouns, ¬EndsInHyphen noun.name) → (∀ f ∈ d.factTypes, ¬EndsInHyphen f.title) →
      d.pattern.tokenize reading.text = s.pattern.tokenize reading.text →
        ∀ title ∈ s.pattern.found none reading.text.toList, ¬d.Nameless title) := by
  have resolves := resolves_of_resolve resolved
  obtain ⟨declared, there, text_inside⟩ := resolves.exists_declared listed inside
  constructor
  · intro told
    have same :
        d.pattern.cut none reading.text.toList = s.pattern.cut none reading.text.toList := by
      refine cut_congr (ordered_ofNames _) (ordered_ofNames _) ?_ ?_
      · intro name found
        exact resolves.mem_pattern_of_found named there text_inside found
      · intro name found
        exact (resolves.mem_pattern_or_nameless (mem_names_of_found found)).resolve_right
          (told name found)
    rw [tokenize, tokenize, same]
  · intro nouns titles same title found nameless
    have d_unbound : ∀ name ∈ d.pattern.names, ¬EndsInHyphen name := by
      intro name known
      rcases (mem_pattern.mp known).1 with noun | ⟨f, there, own⟩
      · obtain ⟨own, own_there, rfl⟩ := List.mem_map.mp noun
        exact nouns own own_there
      · exact named f there name own
    have s_unbound : ∀ name ∈ s.pattern.names, ¬EndsInHyphen name := by
      intro name known
      rcases resolves.mem_pattern_or_nameless known with known | ⟨_, f, there, _, rfl⟩
      · exact d_unbound name known
      · exact titles f there
    have all_found : d.pattern.found none reading.text.toList =
        s.pattern.found none reading.text.toList := by
      rw [← nouns_tokenize_eq_found d_unbound, ← nouns_tokenize_eq_found s_unbound, same]
    rw [← all_found] at found
    exact nameless.1 (mem_names_of_found found)

/-- Students take courses, and such an enrollment, which has a name, has a grade. -/
def enrollments : Document where
  nouns := [{ name := "Student" }, { name := "Course" }, { name := "Grade", objectType := .value }]
  factTypes := [
    { name := some "Enrollment", readings := [.text "Student takes Course"],
      relationship := some .manyToMany },
    { readings := [.text "Enrollment has Grade"], relationship := some .manyToOne }]

/-- A document resolves, and what it resolves to passes a check. -/
def resolvesAnd (d : Document) (check : Snapshot → Bool) : Bool :=
  match d.resolve with
  | .error _ => false
  | .ok s => check s

theorem exists_of_resolvesAnd {check : Snapshot → Bool} (passed : d.resolvesAnd check) :
    ∃ s, d.resolve = .ok s ∧ check s = true := by
  rw [resolvesAnd] at passed
  split at passed
  · contradiction
  · rename_i s resolved
    exact ⟨s, resolved, passed⟩

theorem readings_split_alike_of_enrollments : ∃ s, enrollments.resolve = .ok s ∧
    ∃ f ∈ s.factTypes, ∃ reading ∈ f.readings, reading.text = "Enrollment has Grade" ∧
      (∀ g ∈ enrollments.factTypes, ∀ own ∈ g.name, ¬EndsInHyphen own) ∧
      (∀ title ∈ s.pattern.found none reading.text.toList, ¬enrollments.Nameless title) ∧
      enrollments.pattern.tokenize reading.text = s.pattern.tokenize reading.text := by
  have passed : enrollments.resolvesAnd fun s => decide <| ∃ f ∈ s.factTypes,
      ∃ reading ∈ f.readings, reading.text = "Enrollment has Grade" ∧
        ∀ title ∈ s.pattern.found none reading.text.toList, ¬enrollments.Nameless title := by
    decide +kernel
  have named : ∀ g ∈ enrollments.factTypes, ∀ own ∈ g.name, ¬EndsInHyphen own := by
    decide +kernel
  obtain ⟨s, resolved, checked⟩ := exists_of_resolvesAnd passed
  obtain ⟨f, listed, reading, inside, text, none_found⟩ := of_decide_eq_true checked
  exact ⟨s, resolved, f, listed, reading, inside, text, named, none_found,
    (readings_split_alike resolved named listed inside).1 none_found⟩

/-- Persons smoke, and that a person smokes, which has no name, is diagnosed by a doctor. -/
def smokers : Document where
  nouns := [{ name := "Person" }, { name := "Doctor" }]
  factTypes := [
    { readings := [.text "Person smokes"] },
    { readings := [.text "it is diagnosed by Doctor"],
      roles := some ["Person smokes", "Doctor"] }]

/-- That a person smokes is a noun followed by a word to resolution, and a noun when tables are
built. -/
theorem smokers_split_differently : ∃ s, smokers.resolve = .ok s ∧
    ∃ f ∈ s.factTypes, ∃ reading ∈ f.readings,
      smokers.pattern.tokenize reading.text ≠ s.pattern.tokenize reading.text := by
  have passed : smokers.resolvesAnd fun s => decide <| ∃ f ∈ s.factTypes,
      ∃ reading ∈ f.readings, smokers.pattern.tokenize reading.text ≠
        s.pattern.tokenize reading.text := by decide +kernel
  obtain ⟨s, resolved, checked⟩ := exists_of_resolvesAnd passed
  exact ⟨s, resolved, of_decide_eq_true checked⟩

end Document
end ObjectRole
