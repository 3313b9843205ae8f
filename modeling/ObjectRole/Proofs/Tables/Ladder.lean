import ObjectRole.Proofs.Keys
import ObjectRole.Proofs.Schema.Gathers
import ObjectRole.Proofs.Tables.ReadOrder
import ObjectRole.Proofs.Tables.Tiers

/-! Along a chain of supertypes the flat update and new tiers tell what the nearest update tier
does. The flat read tier does so, too, if its new tier comes before it. Otherwise it meets update
tiers two rounds late, and supertypes whose read tiers are flat already overtake them. -/
namespace ObjectRole

open Schema SchemaMap

/-- A chain of keys with their tiers among built schemas: each tier inherits from the finer one of
its key and from the same tier of the next key. A reading finds nothing but in update tiers. -/
inductive Ladder {β : Type} (m : SchemaMap) (φ : Schema → Option β) : List String → Prop
  | nil : Ladder m φ []
  | cons {key : String} {rest : List String}
      (there : ∀ tier, IsTierOf key tier → m.contains tier)
      (update : m.above (updateKey key) = rest.head?.toList.map updateKey)
      (new : m.above (newKey key) = updateKey key :: rest.head?.toList.map newKey)
      (read : m.above key = newKey key :: rest.head?.toList)
      (silent : m.tell φ (newKey key) = none ∧ m.tell φ key = none)
      (later : Ladder m φ rest) : Ladder m φ (key :: rest)

section Reading

variable {β : Type} {m flat : SchemaMap} {φ : Schema → Option β}
  {key parent goal tier : String} {rest more chain : List String} {value found : Option β}

/-- What the first key of an order tells whose update tier tells anything. -/
def nearest (m : SchemaMap) (φ : Schema → Option β) (order : List String) : Option β :=
  order.findSome? fun key => m.tell φ (updateKey key)

theorem nearest_cons (m : SchemaMap) (φ : Schema → Option β) (key : String) (rest : List String) :
    nearest m φ (key :: rest) = (m.tell φ (updateKey key)).or (nearest m φ rest) := by
  rw [nearest, List.findSome?_cons]
  cases m.tell φ (updateKey key) <;> rfl

theorem nearest_readOrder_eq_none :
    nearest m φ (readOrder chain) = none ↔ nearest m φ chain = none := by
  simp only [nearest, List.findSome?_eq_none_iff, (readOrder_perm chain).mem_iff]

/-- Keys that were asked already have nothing to tell after a key that they overtook. -/
theorem nearest_overtakes (m : SchemaMap) (φ : Schema → Option β) (key : String)
    (chain : List String) : (nearest m φ (readOrder chain)).or (nearest m φ (key :: chain)) =
      nearest m φ (readOrder chain ++ [key]) := by
  have split : nearest m φ (readOrder chain ++ [key]) =
      (nearest m φ (readOrder chain)).or (m.tell φ (updateKey key)) := by
    rw [nearest, List.findSome?_append]
    congr 1
    exact (nearest_cons m φ key []).trans (Option.or_none)
  rw [split]
  cases nothing : nearest m φ (readOrder chain) with
  | some b => rfl
  | none =>
    rw [Option.none_or, Option.none_or, nearest_cons, nearest_readOrder_eq_none.mp nothing,
      Option.or_none]

/-- Flat tiers along a chain tell what the nearest update tier does, the read tier in its order. -/
inductive Finds (m flat : SchemaMap) (φ : Schema → Option β) : List String → Prop
  | nil : Finds m flat φ []
  | cons {key : String} {rest : List String}
      (update : flat.tell φ (updateKey key) = nearest m φ (key :: rest))
      (new : flat.tell φ (newKey key) = nearest m φ (key :: rest))
      (read : flat.tell φ key = nearest m φ (readOrder (key :: rest)))
      (later : Finds m flat φ rest) : Finds m flat φ (key :: rest)

theorem Finds.tail (finds : Finds m flat φ (key :: rest)) : Finds m flat φ rest := by
  cases finds
  assumption

/-- Repetitions of the first answer, and answers that follow anyway, do not count. -/
theorem findSome?_or {α : Type} {f : α → Option β} {a : α} {list : List α} {b : Option β}
    (each : ∀ other ∈ list, f other = none ∨ f other = f a ∨ f other = b) :
    ((a :: list).findSome? f).or b = (f a).or b := by
  rw [List.findSome?_cons]
  cases first : f a with
  | some v => rfl
  | none =>
    dsimp only
    cases rest : list.findSome? f with
    | none => rfl
    | some v =>
      obtain ⟨other, listed, told⟩ := List.exists_of_findSome?_eq_some rest
      have same := each other listed
      rw [told, first] at same
      rcases same with none | none | same
      · cases none
      · cases none
      · rw [← same, Option.some_or, Option.none_or]

theorem findSome?_cons_eq {α : Type} {f : α → Option β} {a : α} {list : List α}
    (each : ∀ other ∈ list, f other = none ∨ f other = f a) : (a :: list).findSome? f = f a := by
  have once := findSome?_or (b := none) fun other listed => (each other listed).imp_right .inl
  rwa [Option.or_none, Option.or_none] at once

/-- What follows anyway is found if one of the keys tells it. -/
theorem findSome?_eq_or {α : Type} {f : α → Option β} {a : α} {list : List α} {b : Option β}
    (each : ∀ other ∈ list, f other = none ∨ f other = f a ∨ f other = b)
    (covered : ∃ other ∈ list, f other = b) : (a :: list).findSome? f = (f a).or b := by
  rw [← findSome?_or each]
  cases told : (a :: list).findSome? f with
  | some v => rfl
  | none =>
    obtain ⟨other, listed, same⟩ := covered
    rw [Option.none_or, ← same]
    exact (List.findSome?_eq_none_iff.mp told other (.tail _ listed)).symm

theorem told_of_lt (before : tier < goal) : m.told flat φ goal tier = flat.tell φ tier :=
  if_pos before

theorem told_of_not_lt (behind : ¬tier < goal) : m.told flat φ goal tier = m.tell φ tier :=
  if_neg behind

theorem led_of_lt (before : tier < goal) : m.led goal tier = [] := if_pos before

theorem led_of_not_lt (behind : ¬tier < goal) : m.led goal tier = m.above tier := if_neg behind

/-- A flat read tier was there before, and tells what it found in its order. -/
theorem Finds.told_read (finds : Finds m flat φ (key :: rest)) (before : key < goal) :
    m.told flat φ goal key = nearest m φ (readOrder (key :: rest)) := by
  cases finds with
  | cons _ _ read _ => exact (told_of_lt before).trans read

namespace Ladder

theorem tail (ladder : Ladder m φ (key :: rest)) : Ladder m φ rest := by
  cases ladder
  assumption

theorem led_update (ladder : Ladder m φ (key :: rest)) (behind : ¬updateKey key < goal) :
    m.led goal (updateKey key) = rest.head?.toList.map updateKey := by
  cases ladder with
  | cons _ update _ _ _ _ => exact (led_of_not_lt behind).trans update

/-- A tier that finds nothing itself tells nothing until it is flat. -/
theorem told_built_new (ladder : Ladder m φ (key :: rest)) (behind : ¬newKey key < goal) :
    m.told flat φ goal (newKey key) = none := by
  cases ladder with
  | cons _ _ _ _ silent _ => exact (told_of_not_lt behind).trans silent.1

theorem led_built_new (ladder : Ladder m φ (key :: rest)) (behind : ¬newKey key < goal) :
    m.led goal (newKey key) = updateKey key :: rest.head?.toList.map newKey := by
  cases ladder with
  | cons _ _ new _ _ _ => exact (led_of_not_lt behind).trans new

theorem told_built_read (ladder : Ladder m φ (key :: rest)) (behind : ¬key < goal) :
    m.told flat φ goal key = none := by
  cases ladder with
  | cons _ _ _ _ silent _ => exact (told_of_not_lt behind).trans silent.2

theorem led_built_read (ladder : Ladder m φ (key :: rest)) (behind : ¬key < goal) :
    m.led goal key = newKey key :: rest.head?.toList := by
  cases ladder with
  | cons _ _ _ read _ _ => exact (led_of_not_lt behind).trans read

/-- While any tier is flattened, the update tiers above it tell what the nearest one does. -/
theorem gathers_update (ladder : Ladder m φ chain) (finds : Finds m flat φ chain)
    (gathers : Gathers (m.told flat φ goal) (m.led goal) value
      (chain.head?.toList.map updateKey) found) : found = value.or (nearest m φ chain) := by
  induction ladder generalizing value with
  | nil => exact gathers.eq_of_nil.trans (Option.or_none).symm
  | @cons key rest _ update _ _ _ _ ih =>
    cases finds with
    | cons flat_update _ _ later =>
      have next := gathers.next
      simp only [List.head?_cons, Option.toList_some, List.map_cons, List.map_nil,
        List.findSome?_singleton, List.flatMap_singleton] at next
      by_cases before : updateKey key < goal
      · rw [told_of_lt before, led_of_lt before, flat_update] at next
        exact next.eq_of_nil
      · rw [told_of_not_lt before, led_of_not_lt before, update] at next
        rw [ih later next, nearest_cons, Option.or_assoc]

/-- While a flat new tier may be there already, it tells what follows anyway. -/
theorem told_new (ladder : Ladder m φ chain) (finds : Finds m flat φ chain)
    (listed : tier ∈ chain.head?.toList.map newKey) :
    m.told flat φ goal tier = none ∨ m.told flat φ goal tier = nearest m φ chain := by
  cases ladder with
  | nil => contradiction
  | cons _ _ _ _ silent _ =>
    cases finds with
    | cons _ flat_new _ _ =>
      obtain rfl : tier = newKey _ := List.mem_singleton.mp listed
      rw [told]
      split
      · exact .inr flat_new
      · exact .inl silent.1

theorem led_new (ladder : Ladder m φ chain) (listed : tier ∈ chain.head?.toList.map newKey)
    {next : String} (leads : next ∈ m.led goal tier) :
    next ∈ chain.head?.toList.map updateKey ∨ next ∈ chain.tail.head?.toList.map newKey := by
  cases ladder with
  | nil => contradiction
  | cons _ _ new _ _ _ =>
    obtain rfl : tier = newKey _ := List.mem_singleton.mp listed
    rw [led] at leads
    split at leads
    · contradiction
    · rw [new] at leads
      exact (List.mem_cons.mp leads).imp_left List.mem_singleton.mpr

/-- What one round over the update tier of a key finds, with all that it will find behind it. -/
theorem asked_new (ladder : Ladder m φ rest) (finds : Finds m flat φ rest)
    (raw : ∀ other, ¬updateKey other < goal)
    (inside : ∀ tier ∈ more, tier = updateKey key ∨ tier ∈ rest.head?.toList.map newKey) :
    ((updateKey key :: more).findSome? (m.told flat φ goal)).or (nearest m φ rest) =
      nearest m φ (key :: rest) := by
  have own : m.told flat φ goal (updateKey key) = m.tell φ (updateKey key) :=
    told_of_not_lt (raw key)
  rw [nearest_cons, ← own]
  apply findSome?_or
  intro tier listed
  rcases inside tier listed with rfl | new
  · exact .inr (.inl rfl)
  · exact (ladder.told_new finds new).imp_right .inr

/-- Once the built update tier of a key is met, and besides it the new tier of the next key at most,
the nearest one of the chain is found. -/
theorem gathers_new (ladder : Ladder m φ (key :: rest)) (finds : Finds m flat φ rest)
    (raw : ∀ other, ¬updateKey other < goal)
    (inside : ∀ tier ∈ more, tier = updateKey key ∨ tier ∈ rest.head?.toList.map newKey)
    (gathers : Gathers (m.told flat φ goal) (m.led goal) value (updateKey key :: more) found) :
    found = value.or (nearest m φ (key :: rest)) := by
  induction rest generalizing key value more with
  | nil =>
    have own : m.led goal (updateKey key) = [] := ladder.led_update (raw key)
    have nowhere : (updateKey key :: more).flatMap (m.led goal) = [] := by
      apply List.flatMap_eq_nil_iff.mpr
      intro tier listed
      rcases List.mem_cons.mp listed with rfl | later
      · exact own
      · rw [(inside tier later).resolve_right List.not_mem_nil]
        exact own
    have next := gathers.next
    rw [nowhere] at next
    rw [next.eq_of_nil, ← ladder.tail.asked_new finds raw inside]
    exact congrArg _ Option.or_none.symm
  | cons parent rest ih =>
    have own : m.led goal (updateKey key) = [updateKey parent] := ladder.led_update (raw key)
    have next := gathers.next
    rw [List.flatMap_cons, own, List.singleton_append] at next
    have onward : ∀ tier ∈ more.flatMap (m.led goal),
        tier = updateKey parent ∨ tier ∈ rest.head?.toList.map newKey := by
      intro tier listed
      obtain ⟨old, old_listed, leads⟩ := List.mem_flatMap.mp listed
      rcases inside old old_listed with rfl | new
      · rw [own] at leads
        exact .inl (List.mem_singleton.mp leads)
      · exact (ladder.tail.led_new new leads).imp_left List.mem_singleton.mp
    rw [ih ladder.tail finds.tail onward next, Option.or_assoc,
      ladder.tail.asked_new finds raw inside]

/-- What one round over an update tier, the next new tier and the read tier after that leads to. -/
theorem led_read {grand : String} (ladder : Ladder m φ (key :: parent :: rest))
    (raw : ∀ other, ¬updateKey other < goal) (late : ¬newKey parent < goal)
    (inside : ∀ tier ∈ more, tier = updateKey key ∨ tier = newKey parent ∨ tier = grand) :
    ∀ tier ∈ more.flatMap (m.led goal), tier = updateKey parent ∨
      tier ∈ rest.head?.toList.map newKey ∨ tier ∈ m.led goal grand := by
  intro tier listed
  obtain ⟨old, old_listed, leads⟩ := List.mem_flatMap.mp listed
  rcases inside old old_listed with rfl | rfl | rfl
  · rw [ladder.led_update (raw key)] at leads
    exact .inl (List.mem_singleton.mp leads)
  · rw [ladder.tail.led_built_new late] at leads
    exact (List.mem_cons.mp leads).imp_right .inl
  · exact .inr (.inr leads)

/-- A read tier before its own new tier meets its own update tier first. From then on it meets the
read tier of the next key but one together with the update tier before. -/
theorem gathers_read (ladder : Ladder m φ (key :: parent :: rest))
    (finds : Finds m flat φ (parent :: rest)) (early : goal < newKey goal)
    (behind : goal < parent) (apart : goal ∉ rest)
    (inside : ∀ tier ∈ more, tier = updateKey key ∨ tier = newKey parent ∨ tier ∈ rest.head?)
    (covers : ∀ tier ∈ rest.head?, tier ∈ more)
    (gathers : Gathers (m.told flat φ goal) (m.led goal) value (updateKey key :: more) found) :
    found = value.or (nearest m φ (key :: overtaken goal parent rest)) := by
  have raw : ∀ other, ¬updateKey other < goal := fun _ => not_updateKey_lt early
  induction rest generalizing key parent value more with
  | nil =>
    apply ladder.gathers_new finds raw ?_ gathers
    intro tier listed
    exact (inside tier listed).imp_right fun new => List.mem_singleton.mpr (new.resolve_right nofun)
  | cons grand rest ih =>
    rw [List.mem_cons, not_or] at apart
    have late := not_newKey_lt early behind
    have own_told : m.told flat φ goal (updateKey key) = m.tell φ (updateKey key) :=
      told_of_not_lt (raw key)
    have new_told : m.told flat φ goal (newKey parent) = none := ladder.tail.told_built_new late
    have inside : ∀ tier ∈ more, tier = updateKey key ∨ tier = newKey parent ∨ tier = grand := by
      intro tier listed
      exact (inside tier listed).imp_right (Or.imp_right fun next => (Option.some.inj next).symm)
    have grand_listed : grand ∈ more := covers grand rfl
    have leads := ladder.led_read raw late inside
    have next := gathers.next
    rw [List.flatMap_cons, ladder.led_update (raw key)] at next
    simp only [List.head?_cons, Option.toList_some, List.map_cons, List.map_nil,
      List.singleton_append] at next leads
    rw [overtaken_cons]
    split
    · rename_i after
      have grand_told : m.told flat φ goal grand = none :=
        ladder.tail.tail.told_built_read (String.lt_asymm after)
      have grand_led := ladder.tail.tail.led_built_read (String.lt_asymm after)
      have asked : (updateKey key :: more).findSome? (m.told flat φ goal) =
          m.tell φ (updateKey key) := by
        rw [← own_told]
        apply findSome?_cons_eq
        intro tier listed
        rcases inside tier listed with rfl | rfl | rfl
        · exact .inr rfl
        · exact .inl new_told
        · exact .inl grand_told
      rw [grand_led] at leads
      have onward : ∀ tier ∈ more.flatMap (m.led goal),
          tier = updateKey parent ∨ tier = newKey grand ∨ tier ∈ rest.head? := by
        intro tier listed
        rcases leads tier listed with update | new | led
        · exact .inl update
        · exact .inr (.inl (List.mem_singleton.mp new))
        · exact .inr ((List.mem_cons.mp led).imp_right Option.mem_toList.mp)
      have covers_next : ∀ tier ∈ rest.head?, tier ∈ more.flatMap (m.led goal) := by
        intro tier is_next
        refine List.mem_flatMap.mpr ⟨grand, grand_listed, ?_⟩
        rw [grand_led]
        exact .tail _ (Option.mem_toList.mpr is_next)
      rw [ih ladder.tail finds.tail after apart.2 onward covers_next next, asked, Option.or_assoc,
        nearest_cons m φ key]
    · rename_i before
      have before : grand < goal := Entries.lt_of_not_lt_of_ne before apart.1
      have grand_told := finds.tail.told_read before
      have asked : (updateKey key :: more).findSome? (m.told flat φ goal) =
          (m.tell φ (updateKey key)).or (nearest m φ (readOrder (grand :: rest))) := by
        rw [← own_told]
        refine findSome?_eq_or ?_ ⟨grand, grand_listed, grand_told⟩
        intro tier listed
        rcases inside tier listed with rfl | rfl | rfl
        · exact .inr (.inl rfl)
        · exact .inl new_told
        · exact .inr (.inr grand_told)
      rw [led_of_lt before] at leads
      have onward : ∀ tier ∈ more.flatMap (m.led goal),
          tier = updateKey parent ∨ tier ∈ [newKey grand] := by
        intro tier listed
        exact (leads tier listed).imp_right fun new => new.resolve_right List.not_mem_nil
      rw [ladder.tail.gathers_new finds.tail raw onward next, asked, nearest_cons m φ key,
        ← nearest_overtakes, Option.or_assoc, Option.or_assoc]

/-- Tiers of a chain inherit from tiers of the chain. -/
theorem above_tier (ladder : Ladder m φ chain) (listed : key ∈ chain) (is_tier : IsTierOf key tier)
    {next : String} (leads : next ∈ m.above tier) : ∃ other ∈ chain, IsTierOf other next := by
  induction ladder with
  | nil => contradiction
  | @cons first rest _ update new read _ _ ih =>
    have parent : ∀ other ∈ rest.head?, other ∈ first :: rest := fun other is_head =>
      .tail _ (List.mem_of_mem_head? is_head)
    rcases List.mem_cons.mp listed with rfl | later
    · rcases is_tier with rfl | rfl | rfl
      · rw [update] at leads
        obtain ⟨other, is_head, rfl⟩ := List.mem_map.mp leads
        exact ⟨other, parent other (Option.mem_toList.mp is_head), .inl rfl⟩
      · rw [new] at leads
        rcases List.mem_cons.mp leads with rfl | leads
        · exact ⟨_, .head _, .inl rfl⟩
        · obtain ⟨other, is_head, rfl⟩ := List.mem_map.mp leads
          exact ⟨other, parent other (Option.mem_toList.mp is_head), .inr (.inl rfl)⟩
      · rw [read] at leads
        rcases List.mem_cons.mp leads with rfl | leads
        · exact ⟨_, .head _, .inr (.inl rfl)⟩
        · exact ⟨next, parent next (Option.mem_toList.mp leads), .inr (.inr rfl)⟩
    · obtain ⟨other, inside, is_tier⟩ := ih later
      exact ⟨other, .tail _ inside, is_tier⟩

/-- Where no update tier of a chain tells anything, none of its tiers does. -/
theorem told_eq_none (ladder : Ladder m φ chain) (finds : Finds m flat φ chain)
    (nothing : nearest m φ chain = none) (listed : key ∈ chain) (is_tier : IsTierOf key tier) :
    m.told flat φ goal tier = none := by
  induction ladder with
  | nil => contradiction
  | @cons first rest _ _ _ _ silent _ ih =>
    have all := nothing
    rw [nearest_cons, Option.or_eq_none_iff] at all
    rcases List.mem_cons.mp listed with rfl | later
    · obtain ⟨built, flattened⟩ : m.tell φ tier = none ∧ flat.tell φ tier = none := by
        cases finds with
        | cons flat_update flat_new flat_read _ =>
          rcases is_tier with rfl | rfl | rfl
          · exact ⟨all.1, flat_update.trans nothing⟩
          · exact ⟨silent.1, flat_new.trans nothing⟩
          · exact ⟨silent.2, flat_read.trans (nearest_readOrder_eq_none.mpr nothing)⟩
      rw [told]
      split
      · exact flattened
      · exact built
    · exact ih finds.tail all.2 later

/-- A flat read tier whose new tier is flat already tells what that one does. -/
theorem gathers_late (ladder : Ladder m φ (key :: rest)) (finds : Finds m flat φ rest)
    (flat_new : flat.tell φ (newKey key) = nearest m φ (key :: rest)) (late : newKey key < key)
    (gathers : Gathers (m.told flat φ key) (m.led key) none (newKey key :: rest.head?.toList)
      found) : found = nearest m φ (key :: rest) := by
  have new_told : m.told flat φ key (newKey key) = nearest m φ (key :: rest) :=
    (told_of_lt late).trans flat_new
  cases all : nearest m φ (key :: rest) with
  | some b =>
    have next := gathers.next
    rw [Option.none_or, List.findSome?_cons, new_told, all] at next
    exact next.eq_of_isSome rfl
  | none =>
    rw [all] at new_told
    rw [nearest_cons, Option.or_eq_none_iff] at all
    cases ladder with
    | cons _ _ _ _ _ above =>
      refine gathers.eq_of_quiet
        (fun tier => tier = newKey key ∨ ∃ other ∈ rest, IsTierOf other tier) ?_ ?_
      · rintro tier (rfl | ⟨other, listed, is_tier⟩)
        · rw [led_of_lt late]
          exact ⟨new_told, nofun⟩
        · refine ⟨above.told_eq_none finds all.2 listed is_tier, fun next leads => .inr ?_⟩
          rw [led] at leads
          split at leads
          · contradiction
          · exact above.above_tier listed is_tier leads
      · intro tier listed
        rcases List.mem_cons.mp listed with rfl | is_head
        · exact .inl rfl
        · have inside := List.mem_of_mem_head? (Option.mem_toList.mp is_head)
          exact .inr ⟨tier, inside, .inr (.inr rfl)⟩

/-- A flat read tier that comes before its new tier tells what it meets first in its order. -/
theorem gathers_early (ladder : Ladder m φ (key :: rest)) (finds : Finds m flat φ rest)
    (nodup : (key :: rest).Nodup) (late : ¬newKey key < key)
    (gathers : Gathers (m.told flat φ key) (m.led key) none (newKey key :: rest.head?.toList)
      found) : found = nearest m φ (overtaken key key rest) := by
  have early : key < newKey key := Entries.lt_of_not_lt_of_ne late newKey_ne_self
  have raw : ∀ other, ¬updateKey other < key := fun _ => not_updateKey_lt early
  have new_told : m.told flat φ key (newKey key) = none := ladder.told_built_new late
  have next := gathers.next
  rw [Option.none_or, List.findSome?_cons, new_told, List.flatMap_cons, ladder.led_built_new late,
    List.cons_append] at next
  cases rest with
  | nil =>
    have nowhere : ∀ tier ∈ ([] : List String), tier = updateKey key ∨ tier ∈ [] := nofun
    exact (ladder.gathers_new finds raw nowhere next).trans Option.none_or
  | cons parent rest =>
    obtain ⟨apart, _⟩ := List.nodup_cons.mp nodup
    rw [List.mem_cons, not_or] at apart
    simp only [List.head?_cons, Option.toList_some, List.findSome?_singleton, List.map_cons,
      List.map_nil, List.flatMap_singleton, List.singleton_append] at next
    rw [overtaken_cons]
    split
    · rename_i after
      have parent_told : m.told flat φ key parent = none :=
        ladder.tail.told_built_read (String.lt_asymm after)
      rw [parent_told, ladder.tail.led_built_read (String.lt_asymm after)] at next
      have inside : ∀ tier ∈ newKey parent :: newKey parent :: rest.head?.toList,
          tier = updateKey key ∨ tier = newKey parent ∨ tier ∈ rest.head? := by
        intro tier listed
        exact .inr (by simpa using listed)
      have covers : ∀ tier ∈ rest.head?,
          tier ∈ newKey parent :: newKey parent :: rest.head?.toList := by
        intro tier is_next
        exact .tail _ (.tail _ (Option.mem_toList.mpr is_next))
      exact (ladder.gathers_read finds early after apart.2 inside covers next).trans Option.none_or
    · rename_i before
      have before : parent < key := Entries.lt_of_not_lt_of_ne before apart.1
      rw [finds.told_read before, led_of_lt before] at next
      have inside : ∀ tier ∈ [newKey parent], tier = updateKey key ∨ tier ∈ [newKey parent] :=
        fun _ => .inr
      exact (ladder.gathers_new finds raw inside next).trans
        (nearest_overtakes m φ key (parent :: rest))

/-- All tiers along a chain tell what the nearest update tier does, read tiers in their order. -/
theorem finds (ladder : Ladder m φ chain) (flattens : Flattens m flat) (first : FirstWins φ)
    (nodup : chain.Nodup) : Finds m flat φ chain := by
  induction ladder with
  | nil => exact .nil
  | @cons key rest there update new read silent later ih =>
    have finds := ih (List.nodup_cons.mp nodup).2
    have ladder : Ladder m φ (key :: rest) := .cons there update new read silent later
    have flat_update : flat.tell φ (updateKey key) = nearest m φ (key :: rest) := by
      have gathers := flattens.gathers first (there _ (.inl rfl))
      rw [update] at gathers
      rw [later.gathers_update finds gathers, nearest_cons]
    have flat_new : flat.tell φ (newKey key) = nearest m φ (key :: rest) := by
      have gathers := flattens.gathers first (there _ (.inr (.inl rfl)))
      rw [new, silent.1] at gathers
      have raw : ∀ other, ¬updateKey other < newKey key :=
        fun _ => String.lt_asymm newKey_lt_updateKey
      rw [ladder.gathers_new finds raw (fun _ => .inr) gathers, Option.none_or]
    have gathers := flattens.gathers first (there _ (.inr (.inr rfl)))
    rw [read, silent.2] at gathers
    refine .cons flat_update flat_new ?_ finds
    rw [readOrder]
    split
    · rename_i late
      exact ladder.gathers_late finds flat_new late gathers
    · rename_i early
      exact ladder.gathers_early finds nodup early gathers

end Ladder
end Reading

end ObjectRole
