import RepositoryAccess.Proofs.Spans

namespace RepositoryAccess.Pattern

variable {round : Nat → Nat → Prop} {body : Nat → List Nat} {first last place n : Nat} {places : List Nat}

theorem mem_kept {kept : List Nat} :
    last ∈ (if kept.contains place then kept else place :: kept) ↔ last = place ∨ last ∈ kept := by
  split
  · rename_i known
    rw [List.contains_iff_mem] at known
    constructor
    · exact .inr
    · rintro (rfl | member)
      · exact known
      · exact member
  · exact List.mem_cons

theorem mem_kept_all {kept : List Nat} :
    last ∈ places.foldl (fun kept place => if kept.contains place then kept else place :: kept) kept ↔
      last ∈ kept ∨ last ∈ places := by
  induction places generalizing kept with
  | nil => simp
  | cons place others ih =>
    rw [List.foldl_cons, ih, mem_kept, List.mem_cons]
    tauto

theorem mem_dedup : last ∈ dedup places ↔ last ∈ places := by
  rw [dedup, List.mem_reverse, mem_kept_all]
  simp

def Lists (body : Nat → List Nat) (round : Nat → Nat → Prop) : Prop :=
  ∀ first last, last ∈ body first ↔ round first last

theorem Lists.exactRounds (lists : Lists body round) (count : Nat) :
    last ∈ exactRounds body count places ↔ ∃ first ∈ places, Rounds round count first last := by
  induction count generalizing places with
  | zero => simp [Pattern.exactRounds, Rounds]
  | succ count ih =>
    cases places with
    | nil => simp [Pattern.exactRounds]
    | cons place others =>
      simp only [Pattern.exactRounds, List.isEmpty_cons, Bool.false_eq_true, if_false, ih]
      constructor
      · rintro ⟨middle, reached, rest⟩
        obtain ⟨first, member, taken⟩ := List.mem_flatMap.mp (mem_dedup.mp reached)
        exact ⟨first, member, middle, (lists first middle).mp taken, rest⟩
      · rintro ⟨first, member, middle, taken, rest⟩
        exact ⟨middle, mem_dedup.mpr (List.mem_flatMap.mpr ⟨first, member, (lists first middle).mpr taken⟩),
          rest⟩

theorem exists_rounds_iff : (∃ count, Rounds round count first last) ↔
    last = first ∨ ∃ count, Rounds round (count + 1) first last := by
  constructor
  · rintro ⟨count, all⟩
    cases count with
    | zero => exact .inl (Eq.symm all)
    | succ count => exact .inr ⟨count, all⟩
  · rintro (rfl | ⟨count, all⟩)
    · exact ⟨0, rfl⟩
    · exact ⟨count + 1, all⟩

section Walks

-- What a stretch of a walk adds: places that were entered are left in all ways, and what was left for is
-- entered and found.
structure Walk.Grew (round : Nat → Nat → Prop) (before after : Walk) : Prop where
  entered : before.entered ⊆ after.entered
  left : before.left ⊆ after.left
  found : before.found ⊆ after.found
  done : ∀ first ∈ after.entered, first ∉ before.entered → ∀ last, round first last → last ∈ after.left
  settled : ∀ last ∈ after.left, last ∉ before.left → last ∈ after.entered ∧ last ∈ after.found

variable {walk before middle after : Walk} {greedy : Bool} {depth : Nat}

namespace Walk

theorem Grew.refl : walk.Grew round walk :=
  ⟨List.Subset.refl _, List.Subset.refl _, List.Subset.refl _, fun _ member new => absurd member new,
    fun _ member new => absurd member new⟩

theorem Grew.trans (one : before.Grew round middle) (two : middle.Grew round after) : before.Grew round after where
  entered := fun _ member => two.entered (one.entered member)
  left := fun _ member => two.left (one.left member)
  found := fun _ member => two.found (one.found member)
  done := by
    intro first member new last taken
    by_cases early : first ∈ middle.entered
    · exact two.left (one.done first early new last taken)
    · exact two.done first member early last taken
  settled := by
    intro last member new
    by_cases early : last ∈ middle.left
    · obtain ⟨entered, found⟩ := one.settled last early new
      exact ⟨two.entered entered, two.found found⟩
    · exact two.settled last member early

@[simp] theorem emit_entered : (walk.emit place).entered = walk.entered := by unfold emit; split <;> rfl

@[simp] theorem emit_left : (walk.emit place).left = walk.left := by unfold emit; split <;> rfl

@[simp] theorem mem_emit : last ∈ (walk.emit place).found ↔ last = place ∨ last ∈ walk.found := by
  rw [← mem_kept, emit, apply_ite Walk.found]

theorem Grew.emit (grew : before.Grew round after) : before.Grew round (after.emit place) where
  entered := by simpa using grew.entered
  left := by simpa using grew.left
  found := fun _ member => mem_emit.mpr (.inr (grew.found member))
  done := by simpa using grew.done
  settled := by
    intro last member new
    obtain ⟨entered, found⟩ := grew.settled last (by simpa using member) new
    exact ⟨by simpa using entered, mem_emit.mpr (.inr found)⟩

theorem Grew.emitted (grew : (before.emit place).Grew round after) : before.Grew round after where
  entered := by simpa using grew.entered
  left := by simpa using grew.left
  found := fun _ member => grew.found (mem_emit.mpr (.inr member))
  done := by simpa using grew.done
  settled := by simpa using grew.settled

theorem Grew.marked (grew : ({ before with left := place :: before.left } : Walk).Grew round after)
    (entered : place ∈ after.entered) (found : place ∈ after.found) : before.Grew round after where
  entered := grew.entered
  left := fun _ member => grew.left (List.mem_cons_of_mem _ member)
  found := grew.found
  done := grew.done
  settled := by
    intro last member new
    by_cases same : last = place
    · exact same ▸ ⟨entered, found⟩
    · exact grew.settled last member (by simp [same, new])

theorem Grew.began (grew : ({ before with entered := place :: before.entered } : Walk).Grew round after)
    (all : ∀ last, round place last → last ∈ after.left) : before.Grew round after where
  entered := fun _ member => grew.entered (List.mem_cons_of_mem _ member)
  left := grew.left
  found := grew.found
  done := by
    intro first member new last taken
    by_cases same : first = place
    · exact all last (same ▸ taken)
    · exact grew.done first member (by simp [same, new]) last taken
  settled := grew.settled

def visit (body : Nat → List Nat) (greedy : Bool) (depth : Nat) (walk : Walk) (reached : Nat) : Walk :=
  if walk.left.contains reached then walk
  else
    let walk := { walk with left := reached :: walk.left }
    if greedy then (rounds body greedy depth walk reached).emit reached
    else rounds body greedy depth (walk.emit reached) reached

theorem rounds_succ : rounds body greedy (depth + 1) walk place =
    if walk.entered.contains place then walk
    else (body place).foldl (visit body greedy depth) { walk with entered := place :: walk.entered } := rfl

-- The places that a walk has not entered yet, of those that it may come to.
def unentered (bounds : Finset Nat) (walk : Walk) : Finset Nat := bounds \ walk.entered.toFinset

theorem unentered_grew (bounds : Finset Nat) (subset : before.entered ⊆ after.entered) :
    (unentered bounds after).card ≤ (unentered bounds before).card := by
  apply Finset.card_le_card
  intro place
  simp only [unentered, Finset.mem_sdiff, List.mem_toFinset]
  rintro ⟨bounded, new⟩
  exact ⟨bounded, fun old => new (subset old)⟩

theorem unentered_enters {bounds : Finset Nat} (bounded : place ∈ bounds) (new : place ∉ walk.entered) :
    (unentered bounds { walk with entered := place :: walk.entered }).card < (unentered bounds walk).card := by
  apply Finset.card_lt_card
  constructor
  · intro other
    simp only [unentered, Finset.mem_sdiff, List.mem_toFinset, List.mem_cons]
    tauto
  · intro smaller
    have left : place ∈ unentered bounds walk := by simp [unentered, bounded, new]
    have right := smaller left
    simp [unentered] at right

variable {bounds : Finset Nat}

def Complete (round : Nat → Nat → Prop) (bounds : Finset Nat) (body : Nat → List Nat) (greedy : Bool)
    (depth : Nat) : Prop :=
  ∀ walk place, place ∈ bounds → (unentered bounds walk).card ≤ depth →
    walk.Grew round (rounds body greedy depth walk place) ∧ place ∈ (rounds body greedy depth walk place).entered

theorem Complete.visit (complete : Complete round bounds body greedy depth) (bounded : place ∈ bounds)
    (enough : (unentered bounds walk).card ≤ depth) :
    walk.Grew round (walk.visit body greedy depth place) ∧ place ∈ (walk.visit body greedy depth place).left := by
  unfold Walk.visit
  split
  · rename_i known
    exact ⟨.refl, List.contains_iff_mem.mp known⟩
  · rename_i new
    cases greedy with
    | true =>
      obtain ⟨grew, entered⟩ := complete { walk with left := place :: walk.left } place bounded enough
      refine ⟨grew.emit.marked (by simpa using entered) (mem_emit.mpr (.inl rfl)), ?_⟩
      exact grew.emit.left List.mem_cons_self
    | false =>
      obtain ⟨grew, entered⟩ := complete (Walk.emit { walk with left := place :: walk.left } place) place bounded
        (by simpa [unentered] using enough)
      refine ⟨grew.emitted.marked entered (grew.found (mem_emit.mpr (.inl rfl))), ?_⟩
      exact grew.emitted.left List.mem_cons_self

theorem Complete.fold (complete : Complete round bounds body greedy depth) {places : List Nat}
    (bounded : ∀ place ∈ places, place ∈ bounds) (enough : (unentered bounds walk).card ≤ depth) :
    walk.Grew round (places.foldl (Walk.visit body greedy depth) walk) ∧
      ∀ place ∈ places, place ∈ (places.foldl (Walk.visit body greedy depth) walk).left := by
  induction places generalizing walk with
  | nil => exact ⟨.refl, by simp⟩
  | cons place others ih =>
    obtain ⟨one, left⟩ := complete.visit (bounded place List.mem_cons_self) enough
    have still := (unentered_grew bounds one.entered).trans enough
    obtain ⟨two, rest⟩ := ih (fun other member => bounded other (List.mem_cons_of_mem _ member)) still
    refine ⟨one.trans two, ?_⟩
    intro other member
    rcases List.mem_cons.mp member with rfl | later
    · exact two.left left
    · exact rest other later

theorem complete (lists : Lists body round)
    (closed : ∀ first ∈ bounds, ∀ last, round first last → last ∈ bounds) (greedy : Bool) (depth : Nat) :
    Complete round bounds body greedy depth := by
  induction depth with
  | zero =>
    intro walk place bounded enough
    refine ⟨.refl, ?_⟩
    by_contra new
    have left : place ∈ unentered bounds walk := by simpa [unentered, bounded, rounds] using new
    have none := Finset.card_eq_zero.mp (Nat.le_zero.mp enough)
    simp [none] at left
  | succ depth ih =>
    intro walk place bounded enough
    rw [rounds_succ]
    split
    · rename_i known
      exact ⟨.refl, List.contains_iff_mem.mp known⟩
    · rename_i new
      rw [List.contains_iff_mem] at new
      have fewer := unentered_enters bounded new
      have next : ∀ last ∈ body place, last ∈ bounds := fun last member =>
        closed place bounded last ((lists place last).mp member)
      obtain ⟨grew, all⟩ := ih.fold next (Nat.le_of_lt_succ (fewer.trans_le enough))
      refine ⟨grew.began fun last taken => all last ((lists place last).mpr taken), ?_⟩
      exact grew.entered List.mem_cons_self

theorem visit_sound {goal : Nat → Prop} (sound : ∀ walk : Walk, (∀ last ∈ walk.found, goal last) →
    ∀ last ∈ (rounds body greedy depth walk place).found, goal last) (reached : goal place)
    (before : ∀ last ∈ walk.found, goal last) : ∀ last ∈ (walk.visit body greedy depth place).found, goal last := by
  unfold Walk.visit
  split
  · exact before
  · cases greedy with
    | true =>
      intro last member
      rcases mem_emit.mp member with rfl | member
      · exact reached
      · exact sound { walk with left := place :: walk.left } before last member
    | false =>
      intro last member
      refine sound (emit { walk with left := place :: walk.left } place) (fun other found => ?_) last member
      rcases mem_emit.mp found with rfl | found
      · exact reached
      · exact before other found

theorem rounds_sound (lists : Lists body round) {goal : Nat → Prop} (greedy : Bool) (depth : Nat)
    (reached : ∀ count last, Rounds round (count + 1) place last → goal last)
    (before : ∀ last ∈ walk.found, goal last) :
    ∀ last ∈ (rounds body greedy depth walk place).found, goal last := by
  induction depth generalizing walk place with
  | zero => exact before
  | succ depth ih =>
    rw [rounds_succ]
    split
    · exact before
    · have start : ∀ last ∈ ({ walk with entered := place :: walk.entered } : Walk).found, goal last := before
      refine List.foldlRecOn (body place) (visit body greedy depth)
        (motive := fun walk => ∀ last ∈ walk.found, goal last) start ?_
      intro walk before next member
      have taken := (lists place next).mp member
      refine visit_sound (fun walk before => ih ?_ before) (reached 0 next ⟨next, taken, rfl⟩) before
      intro count last all
      exact reached (count + 1) last ⟨next, taken, all⟩

def range (n place : Nat) : Finset Nat := insert place (Finset.range (n + 1))

theorem range_closed (within : Within n round) :
    ∀ first ∈ range n place, ∀ last, round first last → last ∈ range n place := by
  intro first member last taken
  rcases within first last taken with rfl | ⟨-, inside⟩
  · exact member
  · simp only [range, Finset.mem_insert, Finset.mem_range]
    omega

theorem unentered_range : (unentered (range n place) walk).card ≤ n + 2 := by
  calc (unentered (range n place) walk).card
      ≤ (range n place).card := Finset.card_le_card Finset.sdiff_subset
    _ ≤ (Finset.range (n + 1)).card + 1 := Finset.card_insert_le _ _
    _ = n + 2 := by rw [Finset.card_range]

theorem fold_complete (lists : Lists body round) (within : Within n round) (greedy : Bool) (walk : Walk)
    {starts : List Nat} (bounded : ∀ start ∈ starts, start ∈ range n place) :
    walk.Grew round (starts.foldl (rounds body greedy (n + 2)) walk) ∧
      ∀ start ∈ starts, start ∈ (starts.foldl (rounds body greedy (n + 2)) walk).entered := by
  induction starts generalizing walk with
  | nil => exact ⟨.refl, by simp⟩
  | cons start others ih =>
    obtain ⟨one, entered⟩ := complete lists (range_closed within) greedy (n + 2) walk start
      (bounded start List.mem_cons_self) unentered_range
    obtain ⟨two, rest⟩ := ih _ (fun other member => bounded other (List.mem_cons_of_mem _ member))
    refine ⟨one.trans two, ?_⟩
    intro other member
    rcases List.mem_cons.mp member with rfl | later
    · exact two.entered entered
    · exact rest other later

theorem Grew.finds (grew : before.Grew round after) (fresh : before.entered = []) (unused : before.left = [])
    {count : Nat} (entered : first ∈ after.entered) (all : Rounds round (count + 1) first last) :
    last ∈ after.found := by
  induction count generalizing first with
  | zero =>
    obtain ⟨middle, taken, rfl⟩ := all
    have left := grew.done first entered (by simp [fresh]) middle taken
    exact (grew.settled middle left (by simp [unused])).2
  | succ count ih =>
    obtain ⟨middle, taken, rest⟩ := all
    have left := grew.done first entered (by simp [fresh]) middle taken
    exact ih (grew.settled middle left (by simp [unused])).1 rest

theorem mem_fold (lists : Lists body round) (within : Within n round) (greedy : Bool) {starts : List Nat}
    (bounded : ∀ start ∈ starts, start ∈ range n place) (fresh : walk.entered = []) (unused : walk.left = []) :
    last ∈ (starts.foldl (rounds body greedy (n + 2)) walk).found ↔
      last ∈ walk.found ∨ ∃ first ∈ starts, ∃ count, Rounds round (count + 1) first last := by
  obtain ⟨grew, entered⟩ := fold_complete lists within greedy walk bounded
  constructor
  · refine List.foldlRecOn starts (rounds body greedy (n + 2))
      (motive := fun after => ∀ {last}, last ∈ after.found → last ∈ walk.found ∨
        ∃ first ∈ starts, ∃ count, Rounds round (count + 1) first last) .inl ?_
    intro after before start member last found
    exact rounds_sound lists greedy (n + 2) (fun count last all => .inr ⟨start, member, count, all⟩)
      (fun last found => before found) last found
  · rintro (known | ⟨first, member, count, all⟩)
    · exact grew.found known
    · exact grew.finds fresh unused (entered first member) all

theorem mem_rounds (lists : Lists body round) (within : Within n round) (greedy : Bool) (walk : Walk) (place : Nat)
    (fresh : walk.entered = []) (unused : walk.left = []) : last ∈ (rounds body greedy (n + 2) walk place).found ↔
      last ∈ walk.found ∨ ∃ count, Rounds round (count + 1) place last := by
  have start : ∀ start ∈ [place], start ∈ range n place := by simp [range]
  simpa using mem_fold lists within greedy start fresh unused

theorem mem_rounds_after (lists : Lists body round) (within : Within n round) (greedy : Bool) (least : Nat) :
    last ∈ ((exactRounds body least [place]).foldl (rounds body greedy (n + 2)) {}).found ↔
      ∃ count, least + 1 ≤ count ∧ Rounds round count place last := by
  have starts (start : Nat) : start ∈ exactRounds body least [place] ↔ Rounds round least place start := by
    simp [lists.exactRounds]
  have bounded : ∀ start ∈ exactRounds body least [place], start ∈ range n place := by
    intro start member
    have inside := within.rounds ((starts start).mp member)
    simp only [range, Finset.mem_insert, Finset.mem_range]
    omega
  rw [mem_fold lists within greedy bounded rfl rfl]
  constructor
  · rintro (none | ⟨start, member, count, all⟩)
    · cases none
    · exact ⟨least + (count + 1), by omega, ((starts start).mp member).append all⟩
  · rintro ⟨count, enough, all⟩
    obtain ⟨more, rfl⟩ := Nat.exists_eq_add_of_le enough
    rw [Nat.add_assoc, Nat.add_comm 1] at all
    obtain ⟨start, begun, ended⟩ := all.split
    exact .inr ⟨start, (starts start).mpr begun, more, ended⟩

end Walk
end Walks

section Optional

-- Whatever can be reached in so many rounds is found.
def Settled (round : Nat → Nat → Prop) (found : List Nat) (more place : Nat) : Prop :=
  ∀ count ≤ more, ∀ last, Rounds round count place last → last ∈ found

abbrev Search := List (Nat × Nat) × List Nat

variable {before middle after search : Search} {more count : Nat} {greedy : Bool}

theorem Settled.mono {found others : List Nat} (settled : Settled round found more place)
    (subset : found ⊆ others) : Settled round others more place :=
  fun count bounded last all => subset (settled count bounded last all)

theorem Settled.succ {found : List Nat} (lists : Lists body round) (here : place ∈ found)
    (rest : ∀ next ∈ body place, Settled round found more next) : Settled round found (more + 1) place := by
  intro count bounded last all
  cases count with
  | zero => cases all; exact here
  | succ count =>
    obtain ⟨middle, taken, rounds⟩ := all
    exact rest middle ((lists place middle).mpr taken) count (by omega) last rounds

namespace Search

def emit (place : Nat) (search : Search) : Search :=
  (search.1, if search.2.contains place then search.2 else place :: search.2)

@[simp] theorem mem_emit : last ∈ (search.emit place).2 ↔ last = place ∨ last ∈ search.2 := mem_kept

theorem optionalRounds_succ (search : Search) : optionalRounds body greedy (more + 1) search place =
    if search.1.contains (more, place) then search
    else if greedy then
      emit place ((body place).foldl (optionalRounds body greedy more) ((more, place) :: search.1, search.2))
    else (body place).foldl (optionalRounds body greedy more)
      (emit place ((more, place) :: search.1, search.2)) := rfl

theorem optionalRounds_zero (search : Search) : optionalRounds body greedy 0 search place = search.emit place := rfl

-- Every pair that was seen with fewer rounds to go is settled.  A pair that is still being searched from
-- has more rounds to go.
def Sure (round : Nat → Nat → Prop) (more : Nat) (search : Search) : Prop :=
  ∀ pair ∈ search.1, pair.1 < more → Settled round search.2 (pair.1 + 1) pair.2

theorem Sure.begin (sure : search.Sure round (more + 1)) (place : Nat) :
    Sure round more ((more, place) :: search.1, search.2) := by
  intro pair known less
  rcases List.mem_cons.mp known with rfl | known
  · exact absurd less (Nat.lt_irrefl more)
  · exact sure pair known (Nat.lt_succ_of_lt less)

structure Grew (round : Nat → Nat → Prop) (more : Nat) (before after : Search) : Prop where
  seen : ∀ pair ∈ after.1, pair ∈ before.1 ∨ pair.1 < more
  found : before.2 ⊆ after.2
  sure : before.Sure round more → after.Sure round more

theorem Grew.refl : search.Grew round more search :=
  ⟨fun _ member => .inl member, List.Subset.refl _, id⟩

theorem Grew.trans (one : before.Grew round more middle) (two : middle.Grew round more after) :
    before.Grew round more after where
  seen := by
    intro pair member
    rcases two.seen pair member with early | fewer
    · exact one.seen pair early
    · exact .inr fewer
  found := fun _ member => two.found (one.found member)
  sure := fun sure => two.sure (one.sure sure)

theorem grew_emit (search : Search) (place : Nat) : search.Grew round more (search.emit place) where
  seen := fun _ member => .inl member
  found := fun _ member => mem_emit.mpr (.inr member)
  sure := fun sure pair member fewer => (sure pair member fewer).mono fun _ found => mem_emit.mpr (.inr found)

def Complete (round : Nat → Nat → Prop) (body : Nat → List Nat) (greedy : Bool) (more : Nat) : Prop :=
  ∀ (search : Search) (place : Nat), search.Sure round more →
    search.Grew round more (optionalRounds body greedy more search place) ∧
      Settled round (optionalRounds body greedy more search place).2 more place

theorem Complete.fold (complete : Complete round body greedy more) (places : List Nat) (sure : search.Sure round more) :
    search.Grew round more (places.foldl (optionalRounds body greedy more) search) ∧
      ∀ place ∈ places, Settled round (places.foldl (optionalRounds body greedy more) search).2 more place := by
  induction places generalizing search with
  | nil => exact ⟨.refl, by simp⟩
  | cons place others ih =>
    obtain ⟨one, settled⟩ := complete search place sure
    obtain ⟨two, rest⟩ := ih (one.sure sure)
    refine ⟨one.trans two, ?_⟩
    intro other member
    rcases List.mem_cons.mp member with rfl | later
    · exact settled.mono two.found
    · exact rest other later

-- A pair is put down as seen before the search from it, so it is sure only once that search is over.
theorem Grew.close (grew : Search.Grew round more ((more, place) :: before.1, before.2) after)
    (settled : Settled round after.2 (more + 1) place) : before.Grew round (more + 1) after where
  seen := by
    intro pair member
    rcases grew.seen pair member with early | fewer
    · rcases List.mem_cons.mp early with rfl | early
      · exact .inr (Nat.lt_succ_self more)
      · exact .inl early
    · exact .inr (by omega)
  found := grew.found
  sure := by
    intro sure pair member fewer
    by_cases less : pair.1 < more
    · exact grew.sure (sure.begin place) pair member less
    · rcases grew.seen pair member with early | less
      · rcases List.mem_cons.mp early with rfl | early
        · exact settled
        · exact (sure pair early fewer).mono grew.found
      · contradiction

theorem complete (lists : Lists body round) (greedy : Bool) (more : Nat) : Complete round body greedy more := by
  induction more with
  | zero =>
    intro search place sure
    rw [optionalRounds_zero]
    refine ⟨grew_emit search place, ?_⟩
    intro count none last all
    obtain rfl : count = 0 := by omega
    exact mem_emit.mpr (.inl (Eq.symm all))
  | succ more ih =>
    intro search place sure
    rw [optionalRounds_succ]
    split
    · rename_i known
      exact ⟨.refl, sure (more, place) (List.contains_iff_mem.mp known) (Nat.lt_succ_self more)⟩
    · cases greedy with
      | true =>
        obtain ⟨grew, rest⟩ := ih.fold (body place) (sure.begin place)
        have ended := grew.trans (grew_emit _ place)
        have settled := Settled.succ lists (mem_emit.mpr (.inl rfl)) fun next member =>
          (rest next member).mono fun _ found => mem_emit.mpr (.inr found)
        exact ⟨ended.close settled, settled⟩
      | false =>
        have begun : Grew round more _ _ := grew_emit ((more, place) :: search.1, search.2) place
        obtain ⟨grew, rest⟩ := ih.fold (body place) (begun.sure (sure.begin place))
        have settled := Settled.succ lists (grew.found (mem_emit.mpr (.inl rfl))) rest
        exact ⟨(begun.trans grew).close settled, settled⟩

theorem emit_sound {goal : Nat → Prop} (here : goal place) (before : ∀ last ∈ search.2, goal last) :
    ∀ last ∈ (search.emit place).2, goal last := by
  intro last member
  rcases mem_emit.mp member with rfl | member
  · exact here
  · exact before last member

theorem optionalRounds_sound (lists : Lists body round) {goal : Nat → Prop} (greedy : Bool) (more : Nat)
    (reached : ∀ count ≤ more, ∀ last, Rounds round count place last → goal last)
    (before : ∀ last ∈ search.2, goal last) :
    ∀ last ∈ (optionalRounds body greedy more search place).2, goal last := by
  induction more generalizing search place with
  | zero => exact emit_sound (reached 0 (Nat.zero_le _) place rfl) before
  | succ more ih =>
    have here := reached 0 (Nat.zero_le _) place rfl
    have deeper (search : Search) (before : ∀ last ∈ search.2, goal last) :
        ∀ last ∈ ((body place).foldl (optionalRounds body greedy more) search).2, goal last := by
      refine List.foldlRecOn (body place) (optionalRounds body greedy more)
        (motive := fun search => ∀ last ∈ search.2, goal last) before ?_
      intro search before next member
      refine ih (fun count bounded last all => ?_) before
      exact reached (count + 1) (by omega) last ⟨next, (lists place next).mp member, all⟩
    rw [optionalRounds_succ]
    split
    · exact before
    · cases greedy with
      | true => exact emit_sound here (deeper _ before)
      | false => exact deeper _ (emit_sound here before)

theorem mem_fold (lists : Lists body round) (greedy : Bool) (more : Nat) :
    last ∈ (places.foldl (optionalRounds body greedy more) ([], [])).2 ↔
      ∃ first ∈ places, ∃ count ≤ more, Rounds round count first last := by
  constructor
  · have none : ∀ last ∈ (([], []) : Search).2, ∃ first ∈ places, ∃ count ≤ more, Rounds round count first last :=
      fun last member => by cases member
    refine List.foldlRecOn places (optionalRounds body greedy more) (motive := fun search => ∀ last ∈ search.2,
      ∃ first ∈ places, ∃ count ≤ more, Rounds round count first last) none ?_ last
    intro search before first member
    exact optionalRounds_sound lists greedy more
      (fun count bounded last all => ⟨first, member, count, bounded, all⟩) before
  · rintro ⟨first, member, count, bounded, all⟩
    have sure : Sure round more ([], []) := fun pair member => by cases member
    exact ((complete lists greedy more).fold places sure).2 first member count bounded last all

end Search
end Optional

namespace Regex

-- Induction on the expression, as for the places that can be reached.
theorem lists_ends (text : Array Char) (regex : Regex) : Lists (regex.ends text) (regex.Spans text) := by
  induction regex with
  | empty => intro first last; simp [ends, Spans, eq_comm]
  | one set =>
    intro first last
    simp only [ends, Spans]
    cases found : text[first]? with
    | none => simp
    | some c => by_cases held : set.contains c = true <;> simp [held]
  | look kind =>
    intro first last
    simp only [ends, Spans]
    by_cases held : kind.holds text first = true <;> simp [held, eq_comm]
  | seq head tail headLists tailLists =>
    intro first last
    simp only [ends, Spans, mem_dedup, List.mem_flatMap, headLists first, tailLists _ last]
  | alt left right leftLists rightLists =>
    intro first last
    simp only [ends, Spans, mem_dedup, List.mem_append, leftLists first last, rightLists first last]
  | loop body least most greedy lists =>
    intro first last
    have within := body.spans_within text
    cases most with
    | none =>
      simp only [Spans, reduceCtorEq, false_implies, implies_true, true_and]
      cases least with
      | zero =>
        simp only [ends, List.mem_reverse, Nat.zero_le, true_and, exists_rounds_iff]
        cases greedy with
        | true =>
          simp [Walk.mem_rounds lists within true {} first rfl rfl]
        | false =>
          simp [Walk.mem_rounds lists within false (Walk.emit {} first) first Walk.emit_entered Walk.emit_left]
      | succ least =>
        simp only [ends, List.mem_reverse]
        exact Walk.mem_rounds_after lists within greedy least
    | some most =>
      simp only [ends, List.mem_reverse, Search.mem_fold lists, lists.exactRounds, List.mem_singleton,
        exists_eq_left, Spans, Option.some.injEq, forall_eq']
      constructor
      · rintro ⟨middle, begun, count, bounded, ended⟩
        exact ⟨least + count, by omega, by omega, begun.append ended⟩
      · rintro ⟨count, enough, bounded, all⟩
        obtain ⟨more, rfl⟩ := Nat.exists_eq_add_of_le enough
        obtain ⟨middle, begun, ended⟩ := all.split
        exact ⟨middle, begun, more, by omega, ended⟩

theorem preferredEnd_isSome (regex : Regex) (text : Array Char) (place : Nat) :
    (regex.preferredEnd text place).isSome ↔ ∃ last, regex.Spans text place last := by
  rw [preferredEnd, List.isSome_head?, ne_eq, List.eq_nil_iff_forall_not_mem, not_forall_not]
  exact exists_congr fun last => regex.lists_ends text place last

end Regex
end RepositoryAccess.Pattern
