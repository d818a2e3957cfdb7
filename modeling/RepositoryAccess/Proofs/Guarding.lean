import Mathlib.Data.List.Induction
import RepositoryAccess.Cache.Guarded

namespace RepositoryAccess.Cache.Guarded

inductive Use (Key Value : Type)
  | get (key : Key)
  | insert (key : Key) (value : Value)
  | insertWeighted (key : Key) (value : Value) (weight : Nat)
  | clear

-- What is put in; what is put in without a weight counts nothing towards the accumulated weight.
structure Insertion (Key Value : Type) where
  key : Key
  value : Value
  weight : Nat

namespace Use
variable {Key Value : Type}

def insertion? : Use Key Value → Option (Insertion Key Value)
  | insert key value => some ⟨key, value, 0⟩
  | insertWeighted key value weight => some ⟨key, value, weight⟩
  | get _ | clear => none

def clears : Use Key Value → Bool
  | clear => true
  | get _ | insert _ _ | insertWeighted _ _ _ => false

def Plain : Use Key Value → Prop
  | insertWeighted _ _ _ => False
  | get _ | insert _ _ | clear => True

-- The guard goes by the accumulated weight; no weight carries it past the end of a word.
def Weighted (highWater : Nat) : Use Key Value → Prop
  | insert _ _ => False
  | insertWeighted _ _ weight => 1 ≤ weight ∧ highWater + weight < wordSpan
  | get _ | clear => True

end Use

def sumOf {α : Type} (weigh : α → Nat) (items : List α) : Nat :=
  items.foldr (fun item rest => weigh item + rest) 0

section Runs
variable {Key Value : Type} [DecidableEq Key]

def after (cache : Guarded Key Value) : Use Key Value → Guarded Key Value
  | .get key => (cache.get key).2
  | .insert key value => cache.insert key value
  | .insertWeighted key value weight => cache.insertWeighted key value weight
  | .clear => cache.clear

def run (cache : Guarded Key Value) (history : List (Use Key Value)) : Guarded Key Value :=
  history.foldl after cache

omit [DecidableEq Key] in
def trips (cache : Guarded Key Value) : Use Key Value → Bool
  | .insert _ _ => cache.highWater < cache.size
  | .insertWeighted _ _ _ => cache.highWater < cache.weight
  | .get _ | .clear => false

def tripCount (cache : Guarded Key Value) : List (Use Key Value) → Nat
  | [] => 0
  | use :: history => (cache.trips use).toNat + (cache.after use).tripCount history

omit [DecidableEq Key] in
def recentAfter (cache : Guarded Key Value) (recent : List (Insertion Key Value)) (use : Use Key Value) :
    List (Insertion Key Value) :=
  (if cache.trips use || use.clears then [] else recent) ++ use.insertion?.toList

def recentFrom (cache : Guarded Key Value) (recent : List (Insertion Key Value)) :
    List (Use Key Value) → List (Insertion Key Value)
  | [] => recent
  | use :: history => (cache.after use).recentFrom (cache.recentAfter recent use) history

def recent (cache : Guarded Key Value) (history : List (Use Key Value)) : List (Insertion Key Value) :=
  cache.recentFrom [] history

def lastOf (key : Key) (recent : List (Insertion Key Value)) : Option (Insertion Key Value) :=
  recent.reverse.find? (·.key = key)

def weightOf (recent : List (Insertion Key Value)) (key : Key) : Nat :=
  ((lastOf key recent).map (·.weight)).getD 0

def heldWeight (cache : Guarded Key Value) (recent : List (Insertion Key Value)) : Nat :=
  sumOf (weightOf recent) (cache.entries.map (·.1))

end Runs

section Sums
variable {α : Type} {weigh other : α → Nat} {items : List α}

theorem sumOf_append (items more : List α) :
    sumOf weigh (items ++ more) = sumOf weigh items + sumOf weigh more := by
  induction items with
  | nil => simp [sumOf]
  | cons item items ih =>
    simp only [sumOf, List.cons_append, List.foldr_cons] at ih ⊢
    omega

theorem sumOf_congr (same : ∀ item ∈ items, weigh item = other item) : sumOf weigh items = sumOf other items := by
  induction items with
  | nil => rfl
  | cons item items ih =>
    obtain ⟨first, rest⟩ := List.forall_mem_cons.mp same
    simp only [sumOf, List.foldr_cons] at ih ⊢
    rw [first, ih rest]

theorem sumOf_filter_le (keep : α → Bool) : sumOf weigh (items.filter keep) ≤ sumOf weigh items := by
  induction items with
  | nil => exact Nat.le_refl _
  | cons item items ih =>
    cases kept : keep item <;> simp only [sumOf, List.filter_cons, kept, List.foldr_cons] at ih ⊢ <;> simp <;> omega

theorem length_le_sumOf (weighty : ∀ item ∈ items, 1 ≤ weigh item) : items.length ≤ sumOf weigh items := by
  induction items with
  | nil => exact Nat.le_refl _
  | cons item items ih =>
    obtain ⟨first, rest⟩ := List.forall_mem_cons.mp weighty
    have ih := ih rest
    simp only [sumOf, List.length_cons, List.foldr_cons] at ih ⊢
    omega

end Sums

variable {Key Value : Type} [DecidableEq Key] {cache : Guarded Key Value} {key other : Key} {value : Value}
  {weight found highWater : Nat} {history : List (Use Key Value)} {use : Use Key Value}
  {recent : List (Insertion Key Value)} {insertion : Insertion Key Value}

theorem lastOf_concat : lastOf key (recent ++ [insertion]) =
    if insertion.key = key then some insertion else lastOf key recent := by
  by_cases same : insertion.key = key <;> simp [lastOf, same]

omit [DecidableEq Key] in
theorem guardAt_spared (few : found ≤ cache.highWater) : cache.guardAt found = cache :=
  if_neg (Nat.not_lt.mpr few)

omit [DecidableEq Key] in
theorem guardAt_tripped (many : cache.highWater < found) :
    cache.guardAt found = { cache.clear with tally := cache.tally.reset } := if_pos many

theorem lookup_store (cache : Guarded Key Value) (key other : Key) (value : Value) :
    (cache.store key value).lookup other = if other = key then some value else cache.lookup other := by
  by_cases same : other = key
  · simp [lookup, store, same]
  · have different : ¬ key = other := fun back => same back.symm
    have spared : (cache.entries.filter (·.1 ≠ key)).find? (·.1 = other) = cache.entries.find? (·.1 = other) := by
      rw [List.find?_filter]
      congr 1
      funext entry
      by_cases named : entry.1 = other <;> simp [named, same]
    simp only [lookup, store, if_neg same]
    rw [List.find?_cons_of_neg (by simp [different]), spared]

theorem keys_store (cache : Guarded Key Value) (key : Key) (value : Value) :
    (cache.store key value).entries.map (·.1) = key :: (cache.entries.map (·.1)).filter (· ≠ key) := by
  rw [List.filter_map]
  rfl

theorem lookup_insert (cache : Guarded Key Value) (key : Key) (value : Value) :
    (cache.insert key value).lookup key = some value := by
  rw [insert, lookup_store, if_pos rfl]

theorem size_store_le (cache : Guarded Key Value) (key : Key) (value : Value) :
    (cache.store key value).size ≤ cache.size + 1 := by
  have fewer : (cache.entries.filter (·.1 ≠ key)).length ≤ cache.entries.length := List.length_filter_le _ _
  exact Nat.succ_le_succ fewer

theorem size_insert_le (cache : Guarded Key Value) (key : Key) (value : Value) :
    (cache.insert key value).size ≤ cache.highWater + 1 := by
  refine Nat.le_trans (size_store_le _ key value) (Nat.succ_le_succ ?_)
  by_cases many : cache.highWater < cache.size
  · rw [guardAt_tripped many]
    exact Nat.zero_le _
  · rw [guardAt_spared (Nat.not_lt.mp many)]
    exact Nat.not_lt.mp many

-- An insertion drops everything else exactly if the guard finds more than it allows, and then counts a reset.
structure Guards (cache after : Guarded Key Value) (found : Nat) (key : Key) (value : Value) : Prop where
  tripped : cache.highWater < found →
    after.entries = [(key, value)] ∧ after.tally.resets = cache.tally.resets + 1
  spared : found ≤ cache.highWater →
    after.entries = (key, value) :: cache.entries.filter (·.1 ≠ key) ∧ after.tally.resets = cache.tally.resets

theorem guardAt_guards (cache : Guarded Key Value) (found : Nat) (key : Key) (value : Value) :
    cache.Guards ((cache.guardAt found).store key value) found key value := by
  refine ⟨fun many => ?_, fun few => ?_⟩
  · rw [guardAt_tripped many]
    exact ⟨rfl, rfl⟩
  · rw [guardAt_spared few]
    exact ⟨rfl, rfl⟩

theorem insert_guards (cache : Guarded Key Value) (key : Key) (value : Value) :
    cache.Guards (cache.insert key value) cache.size key value := guardAt_guards cache _ key value

theorem resets_le_insert (cache : Guarded Key Value) (key : Key) (value : Value) :
    cache.tally.resets ≤ (cache.insert key value).tally.resets := by
  rcases Nat.lt_or_ge cache.highWater cache.size with many | few
  · exact Nat.le_of_lt (((insert_guards cache key value).tripped many).2 ▸ Nat.lt_succ_self _)
  · exact Nat.le_of_eq ((insert_guards cache key value).spared few).2.symm

theorem lookup_insert_kept (kept : (cache.insert key value).tally.resets = cache.tally.resets)
    (different : other ≠ key) : (cache.insert key value).lookup other = cache.lookup other := by
  rcases Nat.lt_or_ge cache.highWater cache.size with many | few
  · exact absurd (((insert_guards cache key value).tripped many).2.symm.trans kept) (Nat.succ_ne_self _)
  · rw [insert, guardAt_spared few, lookup_store, if_neg different]

theorem insertWeighted_guards (cache : Guarded Key Value) (key : Key) (value : Value) (weight : Nat) :
    cache.Guards (cache.insertWeighted key value weight) cache.weight key value := by
  have guards := guardAt_guards cache cache.weight key value
  exact ⟨guards.tripped, guards.spared⟩

theorem get_same (cache : Guarded Key Value) (key : Key) : (cache.get key).2.highWater = cache.highWater ∧
    (cache.get key).2.weight = cache.weight ∧ (cache.get key).2.tally.resets = cache.tally.resets := by
  unfold get
  split <;> exact ⟨rfl, rfl, rfl⟩

omit [DecidableEq Key] in
theorem guardAt_highWater (cache : Guarded Key Value) (found : Nat) :
    (cache.guardAt found).highWater = cache.highWater := by
  unfold guardAt
  split <;> rfl

omit [DecidableEq Key] in
theorem recentAfter_get : cache.recentAfter recent (.get key) = recent := List.append_nil _

omit [DecidableEq Key] in
theorem recentAfter_insert : cache.recentAfter recent (.insert key value) =
    (if cache.highWater < cache.size then [] else recent) ++ [⟨key, value, 0⟩] := by
  simp [recentAfter, trips, Use.clears, Use.insertion?]

omit [DecidableEq Key] in
theorem recentAfter_insertWeighted : cache.recentAfter recent (.insertWeighted key value weight) =
    (if cache.highWater < cache.weight then [] else recent) ++ [⟨key, value, weight⟩] := by
  simp [recentAfter, trips, Use.clears, Use.insertion?]

theorem run_concat (cache : Guarded Key Value) (history : List (Use Key Value)) (use : Use Key Value) :
    cache.run (history ++ [use]) = (cache.run history).after use := List.foldl_append

theorem recentFrom_concat (cache : Guarded Key Value) (recent : List (Insertion Key Value))
    (history : List (Use Key Value)) (use : Use Key Value) : cache.recentFrom recent (history ++ [use]) =
      (cache.run history).recentAfter (cache.recentFrom recent history) use := by
  induction history generalizing cache recent with
  | nil => rfl
  | cons first history ih => exact ih (cache.after first) (cache.recentAfter recent first)

theorem tripCount_concat (cache : Guarded Key Value) (history : List (Use Key Value)) (use : Use Key Value) :
    cache.tripCount (history ++ [use]) = cache.tripCount history + ((cache.run history).trips use).toNat := by
  induction history generalizing cache with
  | nil => exact Nat.add_comm _ _
  | cons first history ih =>
    show (cache.trips first).toNat + (cache.after first).tripCount (history ++ [use]) = _
    rw [ih, ← Nat.add_assoc]
    rfl

-- The cache holds what was put in since it was emptied last, each key with its last value.
structure Tracks (highWater : Nat) (recent : List (Insertion Key Value)) (cache : Guarded Key Value) : Prop where
  mark : cache.highWater = highWater
  found : ∀ key, cache.lookup key = (lastOf key recent).map (·.value)
  size : cache.size ≤ recent.length
  held : cache.heldWeight recent ≤ sumOf (·.weight) recent

namespace Tracks

theorem emptied (mark : cache.highWater = highWater) (empty : cache.entries = []) : cache.Tracks highWater [] where
  mark := mark
  found key := by rw [lookup, empty]; rfl
  size := by rw [Guarded.size, empty]; exact Nat.le_refl _
  held := by rw [heldWeight, empty]; exact Nat.le_refl _

theorem of_entries (tracks : cache.Tracks highWater recent) {same : Guarded Key Value}
    (mark : same.highWater = cache.highWater) (entries : same.entries = cache.entries) :
    same.Tracks highWater recent where
  mark := mark.trans tracks.mark
  found key := by rw [lookup, entries]; exact tracks.found key
  size := by rw [Guarded.size, entries]; exact tracks.size
  held := by rw [heldWeight, entries]; exact tracks.held

theorem store (tracks : cache.Tracks highWater recent) (insertion : Insertion Key Value) :
    (cache.store insertion.key insertion.value).Tracks highWater (recent ++ [insertion]) where
  mark := tracks.mark
  found key := by
    rw [lookup_store, lastOf_concat, tracks.found]
    by_cases same : key = insertion.key
    · rw [if_pos same, if_pos same.symm]
      rfl
    · rw [if_neg same, if_neg (Ne.symm same)]
  size := by
    rw [List.length_append]
    exact Nat.le_trans (size_store_le ..) (Nat.succ_le_succ tracks.size)
  held := by
    have own : weightOf (recent ++ [insertion]) insertion.key = insertion.weight := by
      rw [weightOf, lastOf_concat, if_pos rfl]
      rfl
    have others : ∀ key ∈ (cache.entries.map (·.1)).filter (· ≠ insertion.key),
        weightOf (recent ++ [insertion]) key = weightOf recent key := fun key kept => by
      have different : key ≠ insertion.key := by simpa using (List.mem_filter.mp kept).2
      rw [weightOf, lastOf_concat, if_neg different.symm, weightOf]
    have fewer : sumOf (weightOf recent) ((cache.entries.map (·.1)).filter (· ≠ insertion.key)) ≤
      cache.heldWeight recent := sumOf_filter_le _
    calc heldWeight (cache.store insertion.key insertion.value) (recent ++ [insertion])
        = insertion.weight + sumOf (weightOf (recent ++ [insertion]))
            ((cache.entries.map (·.1)).filter (· ≠ insertion.key)) := by
          rw [heldWeight, keys_store, ← own]
          rfl
      _ = insertion.weight + sumOf (weightOf recent)
            ((cache.entries.map (·.1)).filter (· ≠ insertion.key)) := by rw [sumOf_congr others]
      _ ≤ insertion.weight + sumOf (·.weight) recent := Nat.add_le_add_left (Nat.le_trans fewer tracks.held) _
      _ = sumOf (·.weight) (recent ++ [insertion]) := by
          rw [sumOf_append, Nat.add_comm]
          rfl

theorem guarded (tracks : cache.Tracks highWater recent) (found : Nat) :
    (cache.guardAt found).Tracks highWater (if cache.highWater < found then [] else recent) := by
  by_cases many : cache.highWater < found
  · rw [guardAt_tripped many, if_pos many]
    exact emptied tracks.mark rfl
  · rw [guardAt_spared (Nat.not_lt.mp many), if_neg many]
    exact tracks

theorem after (tracks : cache.Tracks highWater recent) (use : Use Key Value) :
    (cache.after use).Tracks highWater (cache.recentAfter recent use) := by
  cases use with
  | get key =>
    rw [recentAfter_get]
    exact tracks.of_entries (get_same cache key).1 (get_entries cache key)
  | insert key value =>
    rw [recentAfter_insert]
    exact (tracks.guarded cache.size).store ⟨key, value, 0⟩
  | insertWeighted key value weight =>
    rw [recentAfter_insertWeighted]
    exact ((tracks.guarded cache.weight).store ⟨key, value, weight⟩).of_entries rfl rfl
  | clear => exact emptied tracks.mark rfl

theorem run (highWater : Nat) (history : List (Use Key Value)) :
    ((new highWater).run history).Tracks highWater ((new highWater).recent history) := by
  induction history using List.reverseRecOn with
  | nil => exact emptied rfl rfl
  | append_singleton history use ih =>
    rw [run_concat, recent, recentFrom_concat]
    exact ih.after use

end Tracks

-- Every trip of the guard is counted, and nothing else is.
theorem resets_after (cache : Guarded Key Value) (use : Use Key Value) :
    (cache.after use).tally.resets = cache.tally.resets + (cache.trips use).toNat := by
  have guarded (found : Nat) : (cache.guardAt found).tally.resets =
      cache.tally.resets + (decide (cache.highWater < found)).toNat := by
    by_cases many : cache.highWater < found
    · rw [guardAt_tripped many, decide_eq_true many]
      rfl
    · rw [guardAt_spared (Nat.not_lt.mp many), decide_eq_false many]
      rfl
  cases use with
  | get key => exact (get_same cache key).2.2
  | insert key value => exact guarded cache.size
  | insertWeighted key value weight => exact guarded cache.weight
  | clear => rfl

theorem resets_run (highWater : Nat) (history : List (Use Key Value)) :
    ((new highWater).run history).tally.resets = (new highWater).tripCount history := by
  induction history using List.reverseRecOn with
  | nil => rfl
  | append_singleton history use ih => rw [run_concat, tripCount_concat, resets_after, ih]

theorem run_highWater (highWater : Nat) (history : List (Use Key Value)) :
    ((new highWater).run history).highWater = highWater := (Tracks.run highWater history).mark

theorem size_after (plain : use.Plain) (fits : cache.size ≤ cache.highWater + 1) :
    (cache.after use).size ≤ cache.highWater + 1 := by
  cases use with
  | get key =>
    show (cache.get key).2.entries.length ≤ _
    rw [get_entries]
    exact fits
  | insert key value => exact size_insert_le cache key value
  | insertWeighted key value weight => exact plain.elim
  | clear => exact Nat.zero_le _

theorem size_run (plain : ∀ use ∈ history, use.Plain) : ((new highWater).run history).size ≤ highWater + 1 := by
  induction history using List.reverseRecOn with
  | nil => exact Nat.zero_le _
  | append_singleton history use ih =>
    have earlier := ih fun use member => plain use (List.mem_append_left _ member)
    have mark := run_highWater highWater history
    rw [run_concat]
    have kept := size_after (plain use (List.mem_concat_self ..)) (by rw [mark]; exact earlier)
    rwa [mark] at kept

-- The weight is that of all insertions since the cache was emptied last.  What the guard let pass before the
-- last one was not too much.
structure Weighs (highWater : Nat) (recent : List (Insertion Key Value)) (cache : Guarded Key Value) : Prop where
  mark : cache.highWater = highWater
  weight : cache.weight = sumOf (·.weight) recent
  word : cache.weight < wordSpan
  earlier : sumOf (·.weight) recent.dropLast ≤ highWater
  weighty : ∀ insertion ∈ recent, 1 ≤ insertion.weight

def lastWeight {Key Value : Type} (recent : List (Insertion Key Value)) : Nat :=
  (recent.getLast?.map (·.weight)).getD 0

omit [DecidableEq Key] in
theorem sumOf_dropLast (recent : List (Insertion Key Value)) :
    sumOf (·.weight) recent = sumOf (·.weight) recent.dropLast + lastWeight recent := by
  induction recent using List.reverseRecOn with
  | nil => rfl
  | append_singleton recent insertion =>
    rw [List.dropLast_concat, sumOf_append, lastWeight, List.getLast?_concat]
    rfl

namespace Weighs

omit [DecidableEq Key] in
theorem emptied (mark : cache.highWater = highWater) (empty : cache.weight = 0) : cache.Weighs highWater [] where
  mark := mark
  weight := empty
  word := by rw [empty]; decide
  earlier := Nat.zero_le _
  weighty _ member := absurd member List.not_mem_nil

omit [DecidableEq Key] in
theorem guarded (weighs : cache.Weighs highWater recent) :
    (cache.guardAt cache.weight).Weighs highWater (if cache.highWater < cache.weight then [] else recent) ∧
      (cache.guardAt cache.weight).weight ≤ highWater := by
  by_cases many : cache.highWater < cache.weight
  · rw [guardAt_tripped many, if_pos many]
    exact ⟨emptied weighs.mark rfl, Nat.zero_le _⟩
  · rw [guardAt_spared (Nat.not_lt.mp many), if_neg many]
    exact ⟨weighs, weighs.mark ▸ Nat.not_lt.mp many⟩

theorem after (weighs : cache.Weighs highWater recent) (weighted : use.Weighted highWater) :
    (cache.after use).Weighs highWater (cache.recentAfter recent use) := by
  cases use with
  | get key =>
    rw [recentAfter_get]
    obtain ⟨mark, weight, -⟩ := get_same cache key
    exact ⟨mark.trans weighs.mark, weight.trans weighs.weight, weight ▸ weighs.word, weighs.earlier,
      weighs.weighty⟩
  | insert key value => exact weighted.elim
  | insertWeighted key value weight =>
    rw [recentAfter_insertWeighted]
    obtain ⟨guarded, room⟩ := weighs.guarded
    obtain ⟨some, fits⟩ := weighted
    refine ⟨guarded.mark, ?_, Nat.mod_lt _ (by decide), ?_, ?_⟩
    · show ((cache.guardAt cache.weight).weight + weight) % wordSpan = _
      rw [Nat.mod_eq_of_lt (Nat.lt_of_le_of_lt (Nat.add_le_add_right room weight) fits), guarded.weight,
        sumOf_append]
      rfl
    · rw [List.dropLast_concat, ← guarded.weight]
      exact room
    · intro insertion member
      rcases List.mem_append.mp member with early | last
      · exact guarded.weighty insertion early
      · rw [List.mem_singleton.mp last]
        exact some
  | clear => exact emptied weighs.mark rfl

theorem run (weighted : ∀ use ∈ history, use.Weighted highWater) :
    ((new highWater).run history).Weighs highWater ((new highWater).recent history) := by
  induction history using List.reverseRecOn with
  | nil => exact emptied rfl rfl
  | append_singleton history use ih =>
    rw [run_concat, recent, recentFrom_concat]
    exact (ih fun use member => weighted use (List.mem_append_left _ member)).after
      (weighted use (List.mem_concat_self ..))

omit [DecidableEq Key] in
theorem length_le (weighs : cache.Weighs highWater recent) : recent.length ≤ highWater + 1 := by
  have counted : recent.dropLast.length ≤ sumOf (·.weight) recent.dropLast :=
    length_le_sumOf fun insertion member => weighs.weighty insertion ((List.dropLast_sublist recent).subset member)
  have earlier := weighs.earlier
  rw [List.length_dropLast] at counted
  omega

omit [DecidableEq Key] in
theorem total_le (weighs : cache.Weighs highWater recent) :
    sumOf (·.weight) recent ≤ highWater + lastWeight recent := by
  rw [sumOf_dropLast]
  exact Nat.add_le_add_right weighs.earlier _

end Weighs

end RepositoryAccess.Cache.Guarded
