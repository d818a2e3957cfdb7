import RepositoryAccess.Cache.Tally

namespace RepositoryAccess.Cache

-- Each key stands with the moment of its last insertion, in nanoseconds.  A full set makes room for a
-- new key by dropping the oldest tenth.
structure Recent (Key : Type) where
  capacity : Nat
  ttl : Option Nat
  entries : List (Key × Nat)
  tally : Tally

namespace Recent
variable {Key : Type} [DecidableEq Key]

def new (capacity : Nat) (ttl : Option Nat) : Recent Key := ⟨max capacity 1, ttl, [], {}⟩

instance : Inhabited (Recent Key) := ⟨new 1 none⟩

def size (set : Recent Key) : Nat := set.entries.length

def insertedAt (set : Recent Key) (key : Key) : Option Nat :=
  (set.entries.find? (·.1 = key)).map (·.2)

def drop (set : Recent Key) (key : Key) : Recent Key :=
  { set with entries := set.entries.filter (·.1 ≠ key) }

def expired (set : Recent Key) (age : Nat) : Bool :=
  match set.ttl with
  | some ttl => age > ttl
  | none => false

def contains (set : Recent Key) (key : Key) (now : Nat) : Bool × Recent Key :=
  match set.insertedAt key with
  | none => (false, { set with tally := set.tally.miss })
  | some moment =>
    if set.expired (now - moment) then (false, { set.drop key with tally := set.tally.miss })
    else (true, { set with tally := set.tally.hit })

def batch (set : Recent Key) : Nat := max (set.capacity / 10) 1

def oldest (set : Recent Key) : List Key :=
  ((set.entries.mergeSort fun earlier later => earlier.2 ≤ later.2).take set.batch).map (·.1)

def evictOldest (set : Recent Key) : Recent Key :=
  { set with entries := set.entries.filter (·.1 ∉ set.oldest), tally := set.tally.reset }

def insert (set : Recent Key) (key : Key) (now : Nat) : Recent Key :=
  let roomy := if set.size ≥ set.capacity ∧ set.insertedAt key = none then set.evictOldest else set
  { roomy with entries := (roomy.drop key).entries ++ [(key, now)] }

def clear (set : Recent Key) : Recent Key := { set with entries := [] }

def keys (set : Recent Key) : List Key := set.entries.map (·.1)

def stats (set : Recent Key) : Stats := set.tally.stats set.size

variable {set : Recent Key} {key other : Key} {now : Nat}

theorem insertedAt_eq_none_iff : set.insertedAt key = none ↔ key ∉ set.keys := by
  simp only [insertedAt, keys, Option.map_eq_none_iff, List.find?_eq_none, decide_eq_true_eq, List.mem_map,
    not_exists, not_and]

theorem keys_drop : (set.drop key).keys = set.keys.filter (· ≠ key) := by
  simp [drop, keys, List.filter_map, Function.comp_def]

theorem mem_of_insertedAt {moment : Nat} (found : set.insertedAt key = some moment) :
    key ∈ set.keys := by
  apply Classical.byContradiction
  intro absent
  rw [insertedAt_eq_none_iff.mpr absent] at found
  cases found

theorem mem_of_contains (found : (set.contains key now).1 = true) : key ∈ set.keys := by
  unfold contains at found
  cases inserted : set.insertedAt key with
  | none => simp [inserted] at found
  | some moment => exact mem_of_insertedAt inserted

theorem mem_contains (member : other ∈ (set.contains key now).2.keys) : other ∈ set.keys := by
  unfold contains at member
  split at member
  · exact member
  · split at member
    · have kept : other ∈ (set.drop key).keys := member
      rw [keys_drop] at kept
      exact (List.mem_filter.mp kept).1
    · exact member

theorem not_mem_of_contains (absent : (set.contains key now).1 = false) :
    key ∉ (set.contains key now).2.keys := by
  unfold contains at absent ⊢
  cases inserted : set.insertedAt key with
  | none => exact insertedAt_eq_none_iff.mp inserted
  | some moment =>
    simp only [inserted] at absent ⊢
    split at absent
    · rename_i stale
      rw [if_pos stale]
      show key ∉ (set.drop key).keys
      simp [keys_drop]
    · cases absent

theorem mem_insert (member : other ∈ (set.insert key now).keys) : other = key ∨ other ∈ set.keys := by
  obtain ⟨entry, held, rfl⟩ := List.mem_map.mp member
  rcases List.mem_append.mp held with old | new
  · have before := (List.mem_filter.mp old).1
    right
    split at before
    · exact List.mem_map_of_mem (List.mem_filter.mp before).1
    · exact List.mem_map_of_mem before
  · rw [List.mem_singleton.mp new]
    exact .inl rfl

end Recent
end RepositoryAccess.Cache
