import RepositoryAccess.Cache.Tally

namespace RepositoryAccess.Cache

-- An insertion that finds more than the high-water mark allows drops everything else.  What it finds
-- is the number of entries, or the weight accumulated since the cache was last empty.
structure Guarded (Key Value : Type) where
  highWater : Nat
  entries : List (Key × Value)
  weight : Nat
  tally : Tally

namespace Guarded
variable {Key Value : Type} [DecidableEq Key]

def new (highWater : Nat) : Guarded Key Value := ⟨highWater, [], 0, {}⟩

instance : Inhabited (Guarded Key Value) := ⟨new 0⟩

def size (cache : Guarded Key Value) : Nat := cache.entries.length

def lookup (cache : Guarded Key Value) (key : Key) : Option Value :=
  (cache.entries.find? (·.1 = key)).map (·.2)

def get (cache : Guarded Key Value) (key : Key) : Option Value × Guarded Key Value :=
  match cache.lookup key with
  | some value => (some value, { cache with tally := cache.tally.hit })
  | none => (none, { cache with tally := cache.tally.miss })

def clear (cache : Guarded Key Value) : Guarded Key Value := { cache with entries := [], weight := 0 }

-- The guard: above the high-water mark everything goes, and the reset is counted.
def guardAt (cache : Guarded Key Value) (found : Nat) : Guarded Key Value :=
  if found > cache.highWater then { cache.clear with tally := cache.tally.reset } else cache

def store (cache : Guarded Key Value) (key : Key) (value : Value) : Guarded Key Value :=
  { cache with entries := (key, value) :: cache.entries.filter (·.1 ≠ key) }

def insert (cache : Guarded Key Value) (key : Key) (value : Value) : Guarded Key Value :=
  (cache.guardAt cache.size).store key value

def insertWeighted (cache : Guarded Key Value) (key : Key) (value : Value) (weight : Nat) :
    Guarded Key Value :=
  let stored := (cache.guardAt cache.weight).store key value
  { stored with weight := (stored.weight + weight) % wordSpan }

def stats (cache : Guarded Key Value) : Stats := cache.tally.stats cache.size

variable {cache : Guarded Key Value} {key : Key} {value : Value}

theorem mem_of_lookup (found : cache.lookup key = some value) : (key, value) ∈ cache.entries := by
  unfold lookup at found
  cases entry : cache.entries.find? (·.1 = key) with
  | none => simp [entry] at found
  | some pair =>
    have same : pair.1 = key := by simpa using List.find?_some entry
    have held : pair.2 = value := by simpa [entry] using found
    rw [← same, ← held]
    exact List.mem_of_find?_eq_some entry

theorem lookup_eq_none : cache.lookup key = none ↔ ∀ entry ∈ cache.entries, entry.1 ≠ key := by
  simp [lookup]

theorem get_lookup (cache : Guarded Key Value) (key : Key) :
    (cache.get key).1 = cache.lookup key := by
  unfold get
  split <;> rename_i found <;> exact found.symm

theorem get_entries (cache : Guarded Key Value) (key : Key) :
    (cache.get key).2.entries = cache.entries := by
  unfold get
  split <;> rfl

theorem get_keeps (cache : Guarded Key Value) (key other : Key) :
    (cache.get key).2.lookup other = cache.lookup other := by
  unfold lookup
  rw [get_entries]

theorem lookup_insertWeighted (cache : Guarded Key Value) (key : Key) (value : Value) (weight : Nat) :
    (cache.insertWeighted key value weight).lookup key = some value := by
  simp [lookup, insertWeighted, store]

omit [DecidableEq Key] in
theorem guardAt_entries (cache : Guarded Key Value) (found : Nat) :
    ∀ entry ∈ (cache.guardAt found).entries, entry ∈ cache.entries := by
  intro entry member
  unfold guardAt at member
  split at member
  · exact absurd member List.not_mem_nil
  · exact member

theorem mem_insert {entry : Key × Value} (member : entry ∈ (cache.insert key value).entries) :
    entry = (key, value) ∨ entry ∈ cache.entries := by
  rcases List.mem_cons.mp member with new | old
  · exact .inl new
  · exact .inr (guardAt_entries _ _ entry (List.mem_filter.mp old).1)

theorem mem_insertWeighted {entry : Key × Value} {weight : Nat}
    (member : entry ∈ (cache.insertWeighted key value weight).entries) :
    entry = (key, value) ∨ entry ∈ cache.entries := by
  rcases List.mem_cons.mp member with new | old
  · exact .inl new
  · exact .inr (guardAt_entries _ _ entry (List.mem_filter.mp old).1)

end Guarded
end RepositoryAccess.Cache
