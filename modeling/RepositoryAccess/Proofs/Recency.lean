import Mathlib.Data.List.Dedup
import Mathlib.Data.List.DropRight
import RepositoryAccess.Cache.Recent

namespace RepositoryAccess.Cache.Recent

inductive Use (Key : Type)
  | insert (key : Key) (now : Nat)
  | contains (key : Key) (now : Nat)
  | clear

namespace Use
variable {Key : Type}

def insertion? : Use Key → Option (Key × Nat)
  | insert key now => some (key, now)
  | contains _ _ | clear => none

def asks : Use Key → Bool
  | contains _ _ => true
  | insert _ _ | clear => false

def clears : Use Key → Bool
  | clear => true
  | insert _ _ | contains _ _ => false

end Use

def insertions {Key : Type} (history : List (Use Key)) : List (Key × Nat) := history.filterMap Use.insertion?

-- No key is put in before an earlier one, nor at the same moment.
def Timely {Key : Type} (history : List (Use Key)) : Prop := (insertions history).Pairwise (·.2 < ·.2)

section Runs
variable {Key : Type} [DecidableEq Key]

def after (set : Recent Key) : Use Key → Recent Key
  | .insert key now => set.insert key now
  | .contains key now => (set.contains key now).2
  | .clear => set.clear

def run (set : Recent Key) (history : List (Use Key)) : Recent Key := history.foldl after set

def evicts (set : Recent Key) : Use Key → Bool
  | .insert key now => set.keys.any (· ∉ (set.insert key now).keys)
  | .contains _ _ | .clear => false

def evictions (set : Recent Key) : List (Use Key) → Nat
  | [] => 0
  | use :: history => (set.evicts use).toNat + (set.after use).evictions history

-- The different keys put in since the set was last cleared, in the order in which each was put in last.
def lately (history : List (Use Key)) : List Key :=
  ((insertions (history.rtakeWhile (!·.clears))).map (·.1)).dedup

end Runs

theorem size_keys {Key : Type} (set : Recent Key) : set.size = set.keys.length := (List.length_map ..).symm

theorem spared_or_full {Key : Type} (set : Recent Key) (key : Key) :
    (key ∈ set.keys ∨ set.size < set.capacity) ∨ (key ∉ set.keys ∧ set.capacity ≤ set.size) := by
  rw [← Nat.not_lt, ← not_or]
  exact Classical.em _

theorem insertions_concat {Key : Type} (history : List (Use Key)) (use : Use Key) :
    insertions (history ++ [use]) = insertions history ++ use.insertion?.toList := by
  cases use <;> simp [insertions, Use.insertion?]

theorem timely_concat {Key : Type} {history : List (Use Key)} {use : Use Key} : Timely (history ++ [use]) ↔
    Timely history ∧ ∀ earlier ∈ insertions history, ∀ last ∈ use.insertion?, earlier.2 < last.2 := by
  rw [Timely, insertions_concat, List.pairwise_append]
  cases use <;> simp [Use.insertion?, Timely]

variable {Key : Type} [DecidableEq Key] {set : Recent Key} {key : Key} {now capacity : Nat} {ttl : Option Nat}
  {history : List (Use Key)} {use : Use Key}

theorem dedup_concat (keys : List Key) (key : Key) :
    (keys ++ [key]).dedup = keys.dedup.filter (· ≠ key) ++ [key] := by
  induction keys with
  | nil => rfl
  | cons first keys ih =>
    by_cases again : first ∈ keys
    · rw [List.cons_append, List.dedup_cons_of_mem (List.mem_append_left _ again), ih, List.dedup_cons_of_mem again]
    · rw [List.dedup_cons_of_notMem again]
      by_cases same : first = key
      · rw [List.cons_append, List.dedup_cons_of_mem (by simp [same]), ih, List.filter_cons_of_neg (by simp [same])]
      · rw [List.cons_append, List.dedup_cons_of_notMem (by simp [again, same]), ih,
          List.filter_cons_of_pos (by simp [same]), List.cons_append]

theorem lately_insert : lately (history ++ [.insert key now]) = (lately history).filter (· ≠ key) ++ [key] := by
  rw [lately, List.rtakeWhile_concat_pos _ _ _ rfl, insertions_concat, List.map_append]
  exact dedup_concat _ key

theorem lately_contains : lately (history ++ [.contains key now]) = lately history := by
  rw [lately, List.rtakeWhile_concat_pos _ _ _ rfl, insertions_concat, Use.insertion?, Option.toList_none,
    List.append_nil]
  rfl

theorem lately_clear : lately (history ++ [.clear]) = [] := by
  rw [lately, List.rtakeWhile_concat_neg _ _ _ (by simp [Use.clears])]
  rfl

theorem run_concat (set : Recent Key) (history : List (Use Key)) (use : Use Key) :
    set.run (history ++ [use]) = (set.run history).after use := List.foldl_append

theorem evictions_concat (set : Recent Key) (history : List (Use Key)) (use : Use Key) :
    set.evictions (history ++ [use]) =
      set.evictions history + ((set.run history).evicts use).toNat := by
  induction history generalizing set with
  | nil => simp [evictions, run]
  | cons first history ih => simp [evictions, run, ih, Nat.add_assoc]

theorem insert_sparing (spared : key ∈ set.keys ∨ set.size < set.capacity) :
    set.insert key now = { set with entries := (set.drop key).entries ++ [(key, now)] } := by
  have roomy : ¬ (set.size ≥ set.capacity ∧ set.insertedAt key = none) := by
    intro ⟨full, absent⟩
    cases spared with
    | inl held => exact insertedAt_eq_none_iff.mp absent held
    | inr room => exact Nat.not_le.mpr room full
  rw [insert, if_neg roomy]

theorem insert_evicting (absent : key ∉ set.keys) (full : set.capacity ≤ set.size) :
    set.insert key now =
      { set.evictOldest with entries := (set.evictOldest.drop key).entries ++ [(key, now)] } := by
  rw [insert, if_pos ⟨full, insertedAt_eq_none_iff.mpr absent⟩]

theorem filter_absent {keys : List Key} (absent : key ∉ keys) : keys.filter (· ≠ key) = keys := by
  apply List.filter_eq_self.mpr
  intro other member
  exact decide_eq_true fun same => absent (same ▸ member)

theorem filter_behind {front back : List (Key × Nat)}
    (apart : ∀ before ∈ front.map (·.1), ∀ behind ∈ back.map (·.1), before ≠ behind) :
    (front ++ back).filter (·.1 ∉ front.map (·.1)) = back := by
  have gone : front.filter (·.1 ∉ front.map (·.1)) = [] := by
    apply List.filter_eq_nil_iff.mpr
    intro entry member
    simpa using ⟨entry.2, member⟩
  have kept : back.filter (·.1 ∉ front.map (·.1)) = back := by
    apply List.filter_eq_self.mpr
    intro entry member
    exact decide_eq_true fun before => apart _ before _ (List.mem_map_of_mem member) rfl
  rw [List.filter_append, gone, kept, List.nil_append]

-- The held keys are all different, and their entries stand in the order in which they were put in.
structure Ordered (set : Recent Key) : Prop where
  distinct : set.keys.Nodup
  ascending : set.entries.Pairwise (·.2 < ·.2)

namespace Ordered

-- So the keys that make room are the first ones.
theorem evicted (ordered : set.Ordered) : set.evictOldest.entries = set.entries.drop set.batch := by
  have sorted : (set.entries.mergeSort fun earlier later => earlier.2 ≤ later.2) = set.entries := by
    apply List.mergeSort_of_pairwise
    exact ordered.ascending.imp fun before => decide_eq_true (Nat.le_of_lt before)
  have oldest : set.oldest = (set.entries.take set.batch).map (·.1) := by rw [Recent.oldest, sorted]
  have distinct := ordered.distinct
  rw [keys, ← List.take_append_drop set.batch set.entries, List.map_append, List.nodup_append] at distinct
  obtain ⟨_, _, apart⟩ := distinct
  calc
    set.evictOldest.entries
      = (set.entries.take set.batch ++ set.entries.drop set.batch).filter
          (·.1 ∉ (set.entries.take set.batch).map (·.1)) := by rw [evictOldest, oldest, List.take_append_drop]
    _ = set.entries.drop set.batch := filter_behind apart

end Ordered

theorem insert_entries (set : Recent Key) (key : Key) (now : Nat) :
    ∃ kept, (set.insert key now).entries = kept ++ [(key, now)] ∧ kept.Sublist set.entries ∧
      key ∉ kept.map (·.1) := by
  cases spared_or_full set key with
  | inl spared =>
    rw [insert_sparing spared]
    exact ⟨_, rfl, List.filter_sublist, by simp [drop]⟩
  | inr new =>
    rw [insert_evicting new.1 new.2]
    exact ⟨_, rfl, List.filter_sublist.trans List.filter_sublist, by simp [drop]⟩

theorem keys_insert_sparing (spared : key ∈ set.keys ∨ set.size < set.capacity) :
    (set.insert key now).keys = set.keys.filter (· ≠ key) ++ [key] := by
  rw [insert_sparing spared, ← keys_drop]
  exact List.map_append

theorem size_insert_room (absent : key ∉ set.keys) (room : set.size < set.capacity) :
    (set.insert key now).size = set.size + 1 := by
  rw [size_keys, keys_insert_sparing (.inr room), filter_absent absent, List.length_append,
    List.length_singleton, size_keys]

namespace Ordered

theorem insert (ordered : set.Ordered) (later : ∀ entry ∈ set.entries, entry.2 < now) :
    (set.insert key now).Ordered := by
  obtain ⟨kept, entries, fewer, other⟩ := insert_entries set key now
  refine ⟨?_, ?_⟩
  · rw [keys, entries, List.map_append, List.map_singleton, ← List.concat_eq_append]
    exact (ordered.distinct.sublist (fewer.map _)).concat other
  · rw [entries, List.pairwise_append]
    refine ⟨ordered.ascending.sublist fewer, List.pairwise_singleton _ _, ?_⟩
    intro entry member last isLast
    rw [List.mem_singleton.mp isLast]
    exact later entry (fewer.subset member)

theorem keys_insert_evicting (ordered : set.Ordered) (absent : key ∉ set.keys) (full : set.capacity ≤ set.size) :
    (set.insert key now).keys = set.keys.drop set.batch ++ [key] := by
  have evicted : set.evictOldest.keys = set.keys.drop set.batch := by
    rw [keys, ordered.evicted, List.map_drop]
    rfl
  have kept : (set.evictOldest.drop key).keys = set.keys.drop set.batch := by
    rw [keys_drop, evicted]
    exact filter_absent fun member => absent (List.mem_of_mem_drop member)
  rw [insert_evicting absent full, ← kept]
  exact List.map_append

theorem keys_insert (ordered : set.Ordered) (key : Key) (now : Nat) :
    ∃ kept, (set.insert key now).keys = kept ++ [key] ∧ kept <:+ set.keys.filter (· ≠ key) := by
  cases spared_or_full set key with
  | inl spared => exact ⟨_, keys_insert_sparing spared, List.suffix_rfl⟩
  | inr new =>
    rw [filter_absent new.1]
    exact ⟨_, ordered.keys_insert_evicting new.1 new.2, List.drop_suffix _ _⟩

theorem size_insert_held (ordered : set.Ordered) (held : key ∈ set.keys) :
    (set.insert key now).size = set.size := by
  have one : (set.keys.erase key).length + 1 = set.keys.length := List.length_erase_add_one held
  rw [size_keys, keys_insert_sparing (.inl held), List.length_append, List.length_singleton, size_keys, ← one,
    ordered.distinct.erase_eq_filter]
  simp [bne, beq_eq_decide]

theorem size_insert_full (ordered : set.Ordered) (absent : key ∉ set.keys) (full : set.capacity ≤ set.size) :
    (set.insert key now).size = set.size - set.batch + 1 := by
  rw [size_keys, ordered.keys_insert_evicting absent full, List.length_append, List.length_drop,
    List.length_singleton, size_keys]

theorem size_insert_le (ordered : set.Ordered) (positive : 0 < set.capacity) (fits : set.size ≤ set.capacity) :
    (set.insert key now).size ≤ set.capacity := by
  by_cases held : key ∈ set.keys
  · rw [ordered.size_insert_held held]
    exact fits
  by_cases room : set.size < set.capacity
  · rw [size_insert_room held room]
    exact room
  · have some : 1 ≤ set.batch := Nat.le_max_right _ _
    rw [ordered.size_insert_full held (Nat.not_lt.mp room)]
    omega

end Ordered

theorem evicts_insert_iff (ordered : set.Ordered) (positive : 0 < set.capacity) :
    set.evicts (.insert key now) = true ↔ key ∉ set.keys ∧ set.capacity ≤ set.size := by
  rw [evicts, List.any_eq_true]
  constructor
  · intro ⟨other, held, gone⟩
    apply (spared_or_full set key).resolve_left
    intro spared
    rw [keys_insert_sparing spared] at gone
    by_cases same : other = key <;> simp [same] at gone
    exact gone held
  · intro ⟨absent, full⟩
    rw [size_keys] at full
    obtain ⟨first, others, keys⟩ := List.exists_cons_of_length_pos (Nat.lt_of_lt_of_le positive full)
    have distinct := ordered.distinct
    rw [keys, List.nodup_cons] at distinct
    obtain ⟨more, batch⟩ : ∃ more, set.batch = more + 1 := Nat.exists_eq_add_one.mpr (Nat.le_max_right _ _)
    refine ⟨first, by simp [keys], decide_eq_true ?_⟩
    rw [ordered.keys_insert_evicting absent (size_keys set ▸ full), batch, keys, List.drop_succ_cons]
    intro member
    cases List.mem_append.mp member with
    | inl still => exact distinct.1 (List.mem_of_mem_drop still)
    | inr new => exact absent (by simp [keys, List.mem_singleton.mp new])

structure Inserted (before after : Recent Key) (evicted : Bool) : Prop where
  capacity : after.capacity = before.capacity
  ttl : after.ttl = before.ttl
  hits : after.tally.hits = before.tally.hits
  misses : after.tally.misses = before.tally.misses
  resets : after.tally.resets = before.tally.resets + evicted.toNat

theorem insert_inserted (ordered : set.Ordered) (positive : 0 < set.capacity) :
    set.Inserted (set.insert key now) (set.evicts (.insert key now)) := by
  have evicts := @evicts_insert_iff _ _ set key now ordered positive
  cases evicted : set.evicts (.insert key now) with
  | true =>
    obtain ⟨absent, full⟩ := evicts.mp evicted
    rw [insert_evicting absent full]
    exact ⟨rfl, rfl, rfl, rfl, rfl⟩
  | false =>
    have spared : key ∈ set.keys ∨ set.size < set.capacity := by
      apply (spared_or_full set key).resolve_right
      intro new
      exact absurd (evicts.mpr new) (by simp [evicted])
    rw [insert_sparing spared]
    exact ⟨rfl, rfl, rfl, rfl, rfl⟩

structure Asked (before after : Recent Key) : Prop where
  capacity : after.capacity = before.capacity
  ttl : after.ttl = before.ttl
  fewer : after.entries.Sublist before.entries
  counted : after.tally.hits + after.tally.misses = before.tally.hits + before.tally.misses + 1
  resets : after.tally.resets = before.tally.resets

theorem contains_asked (set : Recent Key) (key : Key) (now : Nat) : set.Asked (set.contains key now).2 := by
  cases found : set.insertedAt key with
  | none =>
    simp only [contains, found]
    exact ⟨rfl, rfl, .refl _, rfl, rfl⟩
  | some moment =>
    by_cases stale : set.expired (now - moment) = true
    · simp only [contains, found, stale, if_true]
      exact ⟨rfl, rfl, List.filter_sublist, rfl, rfl⟩
    · simp only [contains, found, stale]
      exact ⟨rfl, rfl, .refl _, Nat.add_right_comm _ _ _, rfl⟩

theorem contains_lasting (lasting : set.ttl = none) (key : Key) (now : Nat) :
    (set.contains key now).2.entries = set.entries ∧ ((set.contains key now).1 = true ↔ key ∈ set.keys) := by
  have held := @insertedAt_eq_none_iff _ _ set key
  cases found : set.insertedAt key with
  | none => simp [contains, found, held.mp found]
  | some moment => simp [contains, found, expired, lasting, mem_of_insertedAt found]

structure Tracks (start : Recent Key) (history : List (Use Key)) (set : Recent Key) : Prop extends Ordered set where
  capacity : set.capacity = start.capacity
  ttl : set.ttl = start.ttl
  fits : set.size ≤ start.capacity
  inserted : set.entries ⊆ insertions history
  asked : set.tally.hits + set.tally.misses = history.countP Use.asks
  evicted : set.tally.resets = start.evictions history

namespace Tracks
variable {start : Recent Key}

theorem begin (capacity : Nat) (ttl : Option Nat) : (new capacity ttl : Recent Key).Tracks [] (new capacity ttl) where
  distinct := List.nodup_nil
  ascending := .nil
  capacity := rfl
  ttl := rfl
  fits := Nat.zero_le _
  inserted := List.nil_subset _
  asked := rfl
  evicted := rfl

theorem insert (tracks : start.Tracks history (start.run history)) (positive : 0 < start.capacity)
    (later : ∀ entry ∈ insertions history, entry.2 < now) :
    start.Tracks (history ++ [.insert key now]) ((start.run history).insert key now) := by
  have ordered := tracks.toOrdered
  have still : 0 < (start.run history).capacity := tracks.capacity ▸ positive
  have fits : (start.run history).size ≤ (start.run history).capacity := tracks.capacity ▸ tracks.fits
  have inserted := @insert_inserted _ _ _ key now ordered still
  obtain ⟨kept, entries, fewer, _⟩ := insert_entries (start.run history) key now
  refine ⟨ordered.insert fun entry member => later entry (tracks.inserted member),
    inserted.capacity.trans tracks.capacity, inserted.ttl.trans tracks.ttl,
    tracks.capacity ▸ ordered.size_insert_le still fits, ?_, ?_, ?_⟩
  · rw [entries, insertions_concat]
    have old : kept ⊆ insertions history := List.Subset.trans fewer.subset tracks.inserted
    exact List.append_subset.mpr
      ⟨List.Subset.trans old (List.subset_append_left _ _), List.subset_append_right _ _⟩
  · rw [inserted.hits, inserted.misses, tracks.asked, List.countP_append]
    rfl
  · rw [inserted.resets, tracks.evicted, evictions_concat]

theorem contains (tracks : start.Tracks history set) :
    start.Tracks (history ++ [.contains key now]) (set.contains key now).2 := by
  have asked := contains_asked set key now
  refine ⟨⟨tracks.distinct.sublist (asked.fewer.map _), tracks.ascending.sublist asked.fewer⟩,
    asked.capacity.trans tracks.capacity, asked.ttl.trans tracks.ttl,
    asked.fewer.length_le.trans tracks.fits, ?_, ?_, ?_⟩
  · rw [insertions_concat]
    have old : (set.contains key now).2.entries ⊆ insertions history :=
      List.Subset.trans asked.fewer.subset tracks.inserted
    exact List.Subset.trans old (List.subset_append_left _ _)
  · rw [asked.counted, tracks.asked, List.countP_append]
    rfl
  · rw [asked.resets, tracks.evicted, evictions_concat]
    rfl

theorem clear (tracks : start.Tracks history set) : start.Tracks (history ++ [.clear]) set.clear where
  distinct := List.nodup_nil
  ascending := .nil
  capacity := tracks.capacity
  ttl := tracks.ttl
  fits := Nat.zero_le _
  inserted := List.nil_subset _
  asked := by
    rw [List.countP_append]
    exact tracks.asked
  evicted := by
    rw [evictions_concat]
    exact tracks.evicted

end Tracks

theorem tracks (capacity : Nat) (ttl : Option Nat) (timely : Timely history) :
    (new capacity ttl).Tracks history ((new capacity ttl).run history) := by
  induction history using List.reverseRecOn with
  | nil => exact .begin capacity ttl
  | append_singleton history use ih =>
    obtain ⟨before, later⟩ := timely_concat.mp timely
    have before := ih before
    rw [run_concat]
    cases use with
    | insert key now =>
      exact before.insert (Nat.le_max_right _ _) fun entry member => later entry member (key, now) rfl
    | contains key now => exact before.contains
    | clear => exact before.clear

-- The set holds the last keys of all that were put in since it was cleared, and not many fewer than fit in.
structure Latest (history : List (Use Key)) (set : Recent Key) : Prop where
  last : set.keys <:+ lately history
  enough : min (set.capacity - set.batch + 1) (lately history).length ≤ set.size

namespace Latest

theorem insert (latest : set.Latest history) (ordered : set.Ordered) (positive : 0 < set.capacity)
    (fits : set.size ≤ set.capacity) : (set.insert key now).Latest (history ++ [.insert key now]) := by
  have capacity := (@insert_inserted _ _ _ key now ordered positive).capacity
  have batch : (set.insert key now).batch = set.batch := by rw [Recent.batch, Recent.batch, capacity]
  have enough := latest.enough
  refine ⟨?_, ?_⟩
  · obtain ⟨kept, keys, last⟩ := ordered.keys_insert key now
    obtain ⟨front, whole⟩ := last.trans (latest.last.filter _)
    rw [keys, lately_insert, ← whole, List.append_assoc]
    exact List.suffix_append _ _
  · rw [capacity, batch, lately_insert, List.length_append, List.length_singleton]
    by_cases held : key ∈ set.keys
    · have fewer : ((lately history).filter (· ≠ key)).length < (lately history).length :=
        List.length_filter_lt_length_iff_exists.mpr ⟨key, latest.last.subset held, by simp⟩
      rw [ordered.size_insert_held held]
      omega
    have fewer : ((lately history).filter (· ≠ key)).length ≤ (lately history).length :=
      List.length_filter_le _ _
    by_cases room : set.size < set.capacity
    · rw [size_insert_room held room]
      omega
    · rw [ordered.size_insert_full held (Nat.not_lt.mp room)]
      omega

theorem contains (latest : set.Latest history) (lasting : set.ttl = none) :
    (set.contains key now).2.Latest (history ++ [.contains key now]) := by
  have asked := contains_asked set key now
  obtain ⟨same, _⟩ := contains_lasting lasting key now
  refine ⟨?_, ?_⟩
  · rw [lately_contains, keys, same]
    exact latest.last
  · rw [lately_contains, batch, asked.capacity, size, same]
    exact latest.enough

theorem clear : set.clear.Latest (history ++ [.clear]) := by
  refine ⟨List.nil_suffix, ?_⟩
  rw [lately_clear]
  exact Nat.min_le_right _ _

end Latest

theorem latest (capacity : Nat) (timely : Timely history) : ((new capacity none).run history).Latest history := by
  induction history using List.reverseRecOn with
  | nil => exact ⟨List.nil_suffix, Nat.min_le_right _ _⟩
  | append_singleton history use ih =>
    obtain ⟨before, _⟩ := timely_concat.mp timely
    have tracks := tracks capacity none before
    have latest := ih before
    rw [run_concat]
    cases use with
    | insert key now =>
      have positive : 0 < ((new capacity none).run history).capacity := by
        rw [tracks.capacity]
        exact Nat.le_max_right _ _
      exact latest.insert tracks.toOrdered positive (tracks.capacity ▸ tracks.fits)
    | contains key now => exact latest.contains tracks.ttl
    | clear => exact .clear

theorem keeps_most_recent (capacity : Nat) (ttl : Option Nat) (timely : Timely history) :
    let limit := max capacity 1
    let batch := max (limit / 10) 1
    let set := (new capacity ttl).run history
    set.size ≤ limit ∧
    (∀ key now, key ∈ set.keys ∨ set.size < limit → set.keys ⊆ (set.insert key now).keys) ∧
    set.tally.hits + set.tally.misses = history.countP Use.asks ∧
    set.tally.resets = (new capacity ttl).evictions history ∧
    (ttl = none →
      set.keys = (lately history).rtake set.size ∧
      min (limit - batch + 1) (lately history).length ≤ set.size ∧
      ∀ key now, (set.contains key now).1 = true ↔ key ∈ set.keys) := by
  intro limit batch set
  have tracks := tracks capacity ttl timely
  refine ⟨tracks.fits, ?_, tracks.asked, tracks.evicted, ?_⟩
  · intro key now spared other held
    rw [keys_insert_sparing (tracks.capacity.symm ▸ spared)]
    by_cases same : other = key <;> simp [same, held]
  · intro lasting
    have latest : set.Latest history := by
      rw [show set = (new capacity none).run history from by rw [← lasting]]
      exact latest capacity timely
    refine ⟨?_, ?_, ?_⟩
    · rw [List.rtake, size_keys]
      exact List.suffix_iff_eq_drop.mp latest.last
    · have enough := latest.enough
      rw [Recent.batch, tracks.capacity] at enough
      exact enough
    · intro key now
      exact (contains_lasting (tracks.ttl.trans lasting) key now).2

theorem refreshed_key_stays :
    let history : List (Use String) :=
      [.insert "a" 1, .insert "b" 2, .insert "c" 3, .insert "a" 4, .contains "b" 5, .insert "d" 6]
    let set := (new 3 none).run history
    Timely history ∧ set.keys = ["c", "a", "d"] ∧ (set.contains "b" 7).1 = false := by
  intro history set
  have timely : Timely history := by
    unfold Timely
    decide
  obtain ⟨fits, _, _, _, lasting⟩ := keeps_most_recent 3 none timely
  obtain ⟨keys, enough, found⟩ := lasting rfl
  have lately : lately history = ["b", "c", "a", "d"] := by decide +kernel
  rw [lately] at keys enough
  have three : set.size = 3 := Nat.le_antisymm fits enough
  have kept : set.keys = ["c", "a", "d"] := by
    rw [keys, three]
    rfl
  refine ⟨timely, kept, ?_⟩
  rw [Bool.eq_false_iff, Ne, found, kept]
  simp

end RepositoryAccess.Cache.Recent
