import RepositoryAccess.Proofs.Exclusion
import RepositoryAccess.Proofs.LookGroups

namespace RepositoryAccess.Lookaround
open RepositoryAccess.Text RepositoryAccess.Pattern RepositoryAccess.Target

def byteSize (pattern : List Char) : Nat := (String.ofList pattern).utf8ByteSize

theorem byteSize_append (cs more : List Char) : byteSize (cs ++ more) = byteSize cs + byteSize more := by
  simp only [byteSize, String.ofList_append, String.utf8ByteSize_append]

theorem length_le_byteSize (pattern : List Char) : pattern.length ≤ byteSize pattern := by
  induction pattern with
  | nil => exact Nat.zero_le _
  | cons c rest ih =>
    have some : 0 < byteSize [c] := by
      simp [byteSize, String.utf8ByteSize_singleton, c.utf8Size_pos]
    have whole : byteSize (c :: rest) = byteSize [c] + byteSize rest := byteSize_append [c] rest
    simp only [List.length_cons]
    omega

section Rests
variable {size depth fuel : Nat} {reading after : Reading} {cs rest : List Char}

theorem skipGap_again (spaced : Bool) (kind : Gap) (cs rest : List Char) (found : skipGap spaced kind cs = some rest) :
    skipGap spaced .blanks rest = some rest := by
  fun_induction skipGap spaced kind cs with
  | case1 | case6 => cases found; rfl
  | case8 => cases found
  | case5 c others other blank line =>
    cases found
    rw [skipGap, if_neg blank, if_neg line]
    exact other
  | case2 _ ih | case7 _ _ ih | case9 _ _ ih => exact ih found
  | case3 _ _ _ _ ih => exact ih found
  | case4 _ _ _ _ _ ih => exact ih found
  | case10 _ _ _ ih => exact ih found

-- The rest of a text begins with nothing that is skipped.
def Bare (after : Reading) (rest : List Char) : Prop := skipped after rest = some (((), after), rest)

theorem bare_skipped {found : (Unit × Reading) × List Char} (skips : skipped reading cs = some found) :
    found.1.2 = reading ∧ Bare reading found.2 := by
  rw [skipped_eq] at skips
  obtain ⟨rest, taken, rfl⟩ := Option.map_eq_some_iff.mp skips
  refine ⟨rfl, ?_⟩
  rw [Bare, skipped_eq, skipGap_again _ _ _ _ taken]
  rfl

theorem onHead_bar {α : Type} {yes no : Stepper α} {x : α}
    (one : ∀ reading cs x after rest, yes reading cs = some ((x, after), rest) → Bare after rest)
    (two : ∀ reading cs x after rest, no reading cs = some ((x, after), rest) → after = reading ∧ rest = cs)
    (bare : Bare reading cs) (found : Stepper.onHead '|' yes no reading cs = some ((x, after), rest)) :
    Bare after rest := by
  cases cs with
  | nil => obtain ⟨rfl, rfl⟩ := two _ _ _ _ _ found; exact bare
  | cons c others =>
    rw [onHead_cons] at found
    split at found
    · exact one _ _ _ _ _ found
    · obtain ⟨rfl, rfl⟩ := two _ _ _ _ _ found
      exact bare

theorem moreOf_bare {run : Stepper Expr} {more : Stepper (List Expr)} {x : List Expr}
    (others : ∀ reading cs y after rest, more reading cs = some ((y, after), rest) → Bare after rest)
    (found : moreOf run more reading cs = some ((x, after), rest)) : Bare after rest := by
  obtain ⟨first, _, found⟩ := Option.bind_eq_some_iff.mp found
  obtain ⟨skip, skips, found⟩ := Option.bind_eq_some_iff.mp found
  obtain ⟨same, bare⟩ := bare_skipped skips
  refine onHead_bar (fun reading cs y after rest found => ?_) (fun reading cs y after rest found => ?_)
    (same ▸ bare) found
  · obtain ⟨⟨⟨branches, middle⟩, left⟩, taken, found⟩ := Option.bind_eq_some_iff.mp found
    cases found
    exact others _ _ _ _ _ taken
  · cases found
    exact ⟨rfl, rfl⟩

theorem readMore_bare {x : List Expr} (found : told (readMore size depth fuel) reading cs = some ((x, after), rest)) :
    Bare after rest := by
  induction fuel generalizing reading cs x after rest with
  | zero =>
    unfold told at found
    rw [readMore] at found
    cases found
  | succ fuel ih =>
    rw [told_readMore] at found
    exact moreOf_bare (fun _ _ _ _ _ found => ih found) found

theorem readBranches_bare {x : Expr}
    (found : told (readBranches size depth (fuel + 1)) reading cs = some ((x, after), rest)) : Bare after rest := by
  rw [told_readBranches] at found
  obtain ⟨first, _, found⟩ := Option.bind_eq_some_iff.mp found
  obtain ⟨skip, skips, found⟩ := Option.bind_eq_some_iff.mp found
  obtain ⟨same, bare⟩ := bare_skipped skips
  refine onHead_bar (fun reading cs y after rest found => ?_) (fun reading cs y after rest found => ?_)
    (same ▸ bare) found
  · obtain ⟨⟨⟨branches, middle⟩, left⟩, taken, found⟩ := Option.bind_eq_some_iff.mp found
    cases found
    exact readMore_bare taken
  · obtain ⟨⟨⟨_, middle⟩, left⟩, taken, found⟩ := Option.bind_eq_some_iff.mp found
    cases found
    obtain ⟨p, checks, same⟩ := Option.map_eq_some_iff.mp taken
    cases same
    rw [checkReferences_eq] at checks
    split at checks
    · cases checks
    · cases checks; exact ⟨rfl, rfl⟩

theorem sealed_closed : Sealed closed :=
  .bind leaves_skipped fun _ reading cs short => by
    cases cs with
    | nil => rfl
    | cons c rest =>
      have single : c = '$' := List.mem_singleton.mp (short.subset List.mem_cons_self)
      subst single
      rfl

theorem closed_bare {u : (Unit × Reading) × List Char} (bare : Bare after rest)
    (closes : closed after (rest ++ ending) = some u) : rest = [] ∨ ∃ others, rest = ')' :: others := by
  obtain ⟨⟨⟨_, middle⟩, left⟩, skips, found⟩ := Option.bind_eq_some_iff.mp closes
  obtain ⟨behind, same, rfl | ⟨rfl, rfl⟩⟩ := ((good_skipped 0 _).agree after rest (Nat.lt_succ_self _)).onward _ _ bare
  · rw [skips] at same
    cases same
    cases rest with
    | nil => exact .inl rfl
    | cons c others =>
      refine .inr ⟨others, ?_⟩
      simp only [List.cons_append, Stepper.headed] at found
      split at found
      · rw [‹c = ')'›]
      · cases found
  · exact .inl rfl

end Rests

section Anchors
variable {size size' depth depth' fuel fuel' : Nat} {reading after : Reading}
  {cs rest pattern : List Char} {expr : Expr}

-- Groups and a reference by number take more characters than they count.
theorem byNumber_within (enough : 8 * (pattern.length + 1) ≤ fuel) (fits : pattern.length ≤ size)
    (found : told (readBranches size' depth fuel) {} pattern = some ((expr, after), rest))
    (byNumber : after.byNumber = true) : after.groups < size / 2 := by
  have takes := ((alike size' size' fuel fuel).branches (Nat.le_refl depth) enough enough).takes _ _ _ _ _ found
  have weight := takes.weight
  simp only [Reading.weight, byNumber, if_true] at weight
  dsimp at weight
  omega

theorem told_moves (deeper : depth' ≤ depth) (enough : 8 * (pattern.length + 1) ≤ fuel)
    (enough' : 8 * (pattern.length + 1) ≤ fuel') (fits : pattern.length ≤ size')
    (found : told (readBranches size depth fuel) {} pattern = some ((expr, after), rest)) :
    told (readBranches size' depth' fuel') {} pattern = some ((expr, after), rest) :=
  ((alike size size' fuel fuel').branches deeper enough enough').moves _ _ _ _ _ (Nat.lt_succ_self _) found
    (byNumber_within enough fits found)

theorem leaves_branches (size depth fuel : Nat) (reading : Reading) :
    Leaves (told (readBranches size depth fuel) reading) := by
  have good : Good (size / 2) 0 0 _ _ := (alike size size fuel fuel).branches (Nat.le_refl depth)
    (Nat.zero_le _) (Nat.zero_le _)
  exact good.leaves reading

def inGroup (size fuel : Nat) : Stepper Expr := (told (readBranches size 1 fuel)).bind fun child => closed.bind fun _ =>
  .tell fun reading => some (child, { reading with flags := {} })

theorem skipped_unspaced (unspaced : reading.flags.spaced = false) (open_ : ∀ rest, cs ≠ '(' :: '?' :: '#' :: rest) :
    skipped reading cs = some (((), reading), cs) := by
  rw [skipped_eq, unspaced, skipGap_open open_]
  rfl

theorem told_group (size fuel : Nat) (cs : List Char) :
    told (readGroup size 0 (fuel + 1)) {} ('?' :: ':' :: cs) = inGroup size fuel {} cs := by
  have colon : flagsRead {} (':' :: cs) = some ((false, {}), cs) := by
    rw [flagsRead, Stepper.fuelled, flagsBehind, Stepper.bind, skipped_unspaced rfl (by simp)]
    rfl
  have opening : Stepper.lift opening? {} ('?' :: ':' :: cs) = some ((.flags, {}), ':' :: cs) := rfl
  rw [told_readGroup, groupOf, if_neg (by decide), Stepper.bind, skipped_unspaced rfl (by simp), Option.bind_some,
    Stepper.bind, opening, Option.bind_some]
  simp only [grouped, Stepper.fixed]
  rw [Stepper.bind, colon]
  rfl

theorem told_part_group (size fuel : Nat) (cs : List Char) :
    told (readPart size 0 (fuel + 3)) {} ('(' :: '?' :: ':' :: cs) =
      ((inGroup size fuel).bind fun child => skipped.bind fun _ => counting child) {} cs := by
  rw [told_readPart, partOf, told_readAtom]
  have atom : atomOf size (told (readGroup size 0 (fuel + 1))) {} ('(' :: '?' :: ':' :: cs) =
      inGroup size fuel {} cs := by
    rw [← told_group, atomOf, Stepper.bind, skipped_unspaced rfl (by simp)]
    rfl
  rw [Stepper.bind, atom]
  rfl

theorem told_part_start (size fuel : Nat) (cs : List Char) :
    told (readPart size 0 (fuel + 2)) {} ('^' :: '(' :: '?' :: ':' :: cs) =
    some ((.place .textStart, {}), '(' :: '?' :: ':' :: cs) := by
  have atom : atomOf size (told (readGroup size 0 fuel)) {} ('^' :: '(' :: '?' :: ':' :: cs) =
      some ((.place .textStart, {}), '(' :: '?' :: ':' :: cs) := by
    rw [atomOf, Stepper.bind, skipped_unspaced rfl (by simp)]
    rfl
  rw [told_readPart, partOf, told_readAtom, Stepper.bind, atom, Option.bind_some, Stepper.bind,
    skipped_unspaced rfl (by simp)]
  rfl

theorem told_part_finish (size fuel : Nat) (plain : reading.flags = {}) :
    told (readPart size 0 (fuel + 2)) reading ['$'] =
    some ((.place .textEnd, reading), []) := by
  have atom : atomOf size (told (readGroup size 0 fuel)) reading ['$'] = some ((.place .textEnd, reading), []) := by
    rw [atomOf, Stepper.bind, skipped_unspaced (by rw [plain]) (by simp), Option.bind_some, Stepper.fixed, plain]
    rfl
  rw [told_readPart, partOf, told_readAtom, Stepper.bind, atom, Option.bind_some, Stepper.bind,
    skipped_unspaced (by simp [plain]) (by simp)]
  rfl

def between (expr : Expr) : List Expr :=
  if expr.isEmpty then [.place .textStart, .place .textEnd] else [.place .textStart, expr, .place .textEnd]

theorem told_run_onward {parts : List Expr} {middle : Reading} {x : Expr}
    (one : told (readPart size depth fuel) reading cs = some ((x, middle), rest)) (shorter : rest.length < cs.length) :
    told (readRun size depth (fuel + 1) parts) reading cs =
      told (readRun size depth fuel (if x.isEmpty then parts else x :: parts)) middle rest := by
  rw [told_readRun, runOf]
  unfold Stepper.ended
  split
  · cases shorter
  · simp [Stepper.taking, one, shorter.ne]

theorem told_run_ended (parts : List Expr) : told (readRun size depth (fuel + 1) parts) reading [] =
    some ((joinParts parts.reverse, reading), []) := by
  rw [told_readRun]
  rfl

theorem told_anchor_ended (inner : told (readBranches size 1 fuel) {} cs = some ((expr, after), ending)) :
    told (readBranches size 0 (fuel + 6)) {} ('^' :: '(' :: '?' :: ':' :: cs) =
      (checkReferences { after with flags := {} }).map fun p => ((.concat (between expr), p.2), []) := by
  have closes : closed after ending = some (((), after), ['$']) := by
    rw [closed, Stepper.bind, AtEnd.skipped (.inr rfl)]
    rfl
  have group : told (readPart size 0 (fuel + 3)) {} ('(' :: '?' :: ':' :: cs) =
      some ((expr, { after with flags := {} }), ['$']) := by
    have inside : inGroup size fuel {} cs = some ((expr, { after with flags := {} }), ['$']) := by
      rw [inGroup, Stepper.bind, inner, Option.bind_some, Stepper.bind, closes]
      rfl
    rw [told_part_group, Stepper.bind, inside, Option.bind_some, Stepper.bind, skipped_unspaced rfl (by simp)]
    rfl
  have run : told (readRun size 0 (fuel + 5) []) {} ('^' :: '(' :: '?' :: ':' :: cs) =
      some ((.concat (between expr), { after with flags := {} }), []) := by
    rw [told_run_onward (told_part_start size (fuel + 2) cs) (by simp), told_run_onward group (by simp),
      told_run_onward (told_part_finish size fuel rfl) (by simp), told_run_ended]
    unfold between
    cases expr.isEmpty <;> rfl
  rw [told_readBranches, branchesOf, Stepper.bind, run, Option.bind_some, Stepper.bind, AtEnd.skipped (.inl rfl)]
  simp only [Option.bind_some, Stepper.onHead, Stepper.when, checked, Stepper.bind, Stepper.tell, Option.bind_map]
  cases checkReferences { after with flags := {} } <;> rfl

theorem anchor_inner {found : (Expr × Reading) × List Char}
    (whole : told (readBranches size 0 (fuel + 6)) {} ('^' :: '(' :: '?' :: ':' :: cs) = some found) :
    ∃ expr after rest closing,
      told (readBranches size 1 fuel) {} cs = some ((expr, after), rest) ∧ closed after rest = some closing := by
  rw [told_readBranches] at whole
  obtain ⟨_, run, -⟩ := Option.bind_eq_some_iff.mp whole
  rw [told_run_onward (told_part_start size (fuel + 2) cs) (by simp), told_readRun] at run
  obtain ⟨_, part, -⟩ := Option.bind_eq_some_iff.mp run
  rw [told_part_group] at part
  obtain ⟨_, group, -⟩ := Option.bind_eq_some_iff.mp part
  obtain ⟨⟨⟨expr, after⟩, rest⟩, inner, group⟩ := Option.bind_eq_some_iff.mp group
  obtain ⟨closing, closes, -⟩ := Option.bind_eq_some_iff.mp group
  exact ⟨expr, after, rest, closing, inner, closes⟩

def readAt (size depth : Nat) (pattern : List Char) : Option ((Expr × Reading) × List Char) :=
  told (readBranches size depth (8 * pattern.length + 16)) {} pattern

theorem read_iff {found : Expr × Nat} : Expr.read pattern = some found ↔ ∃ expr after,
    readAt (byteSize pattern) 0 pattern = some ((expr, after), []) ∧
      found = (expr.mark after.referenced, after.groups) := by
  unfold Expr.read readAt told outcome byteSize
  dsimp only [StateT.run]
  cases readBranches (String.ofList pattern).utf8ByteSize 0 (8 * pattern.length + 16) pattern {} with
  | none => simp
  | some p =>
    obtain ⟨⟨expr, rest⟩, after⟩ := p
    cases rest with
    | nil =>
      simp only [Option.some.injEq, Option.map_some, Prod.mk.injEq, and_true]
      constructor
      · rintro rfl
        exact ⟨expr, after, ⟨rfl, rfl⟩, rfl⟩
      · rintro ⟨_, _, ⟨rfl, rfl⟩, rfl⟩
        rfl
    | cons c rest => simp

-- The pattern is read to its end where it stands between the anchors, which are a group around it.
def Nests (pattern : List Char) (expr : Expr) (after : Reading) : Prop :=
  readAt (byteSize pattern + 6) 1 pattern = some ((expr, after), [])

-- The reader comes to a parenthesis that closes no group.
def Unopened (pattern : List Char) : Prop :=
  ∃ expr after rest, readAt (byteSize pattern) 0 pattern = some ((expr, after), ')' :: rest)

-- Groups are referred to by their numbers or have names, but not both.
def Consistent (after : Reading) : Prop := after.byNumber = true → after.names = []

theorem Nests.read {after : Reading} (nests : Nests pattern expr after) : Expr.read pattern =
    some (expr.mark after.referenced, after.groups) := by
  refine read_iff.mpr ⟨expr, after, ?_, rfl⟩
  exact told_moves (Nat.zero_le 1) (by omega) (by omega) (length_le_byteSize pattern) nests

theorem checkReferences_iff {checked : Unit × Reading} : checkReferences after = some checked ↔
    Consistent after ∧ checked = ((), after) := by
  rw [checkReferences_eq]
  unfold Consistent
  cases after.byNumber <;> cases after.names <;> simp [eq_comm]

theorem byteSize_anchor (pattern : List Char) : byteSize (anchor pattern) = byteSize pattern + 6 := by
  have signs : byteSize "^(?:".toList = 4 ∧ byteSize ")$".toList = 2 := by decide
  rw [anchor, byteSize_append, byteSize_append, signs.1, signs.2]
  omega

def fuelInside (pattern : List Char) : Nat := 8 * pattern.length + 58

theorem readAt_anchor (pattern : List Char) : readAt (byteSize (anchor pattern)) 0 (anchor pattern) =
    told (readBranches (byteSize pattern + 6) 0 (fuelInside pattern + 6)) {}
    ('^' :: '(' :: '?' :: ':' :: (pattern ++ ending)) := by
  have length : 8 * (anchor pattern).length + 16 = fuelInside pattern + 6 := by
    simp only [anchor_eq, fuelInside, List.length_cons, List.length_append, List.length_nil]
    omega
  rw [readAt, length, byteSize_anchor]
  rfl

-- What is read inside the anchors, with what stands behind.
def readInside (pattern : List Char) : Option ((Expr × Reading) × List Char) :=
  told (readBranches (byteSize pattern + 6) 1 (fuelInside pattern)) {} (pattern ++ ending)

theorem readInside_behind (inner : readInside pattern = some ((expr, after), rest)) :
    readAt (byteSize (pattern ++ ending)) 0 (pattern ++ ending) = some ((expr, after), rest) := by
  refine told_moves (Nat.zero_le 1) ?_ (by omega) (length_le_byteSize _) inner
  simp only [fuelInside, List.length_append, ending, List.length_cons, List.length_nil]
  omega

theorem agree_inside (pattern : List Char) :
    Agree Never (told (readBranches (byteSize pattern + 6) 1 (fuelInside pattern)) {} pattern)
    (readInside pattern) := by
  have enough : 8 * (pattern.length + 3) ≤ fuelInside pattern := by unfold fuelInside; omega
  refine ((alike _ (byteSize pattern) _ (fuelInside pattern)).branches
    (Nat.le_refl 1) enough enough).agree {} pattern ?_
  simp only [List.length_append, ending, List.length_cons, List.length_nil]
  omega

theorem nests_iff : Nests pattern expr after ↔
    told (readBranches (byteSize pattern + 6) 1 (fuelInside pattern)) {} pattern = some ((expr, after), []) := by
  have fits : pattern.length ≤ byteSize pattern + 6 := (length_le_byteSize pattern).trans (Nat.le_add_right _ _)
  have enough : 8 * (pattern.length + 1) ≤ fuelInside pattern := by unfold fuelInside; omega
  exact ⟨told_moves (Nat.le_refl 1) (by omega) enough fits, told_moves (Nat.le_refl 1) enough (by omega) fits⟩

-- The pattern does not end with something that hides what stands behind it.
theorem visible_iff (nests : Nests pattern expr after) : Expr.read (pattern ++ ending) = none ↔
    readInside pattern = some ((expr, after), ending) := by
  obtain ⟨behind, inner, kept⟩ := (agree_inside pattern).onward _ _ (nests_iff.mp nests)
  have whole := readInside_behind inner
  rcases kept with rfl | ⟨-, rfl⟩
  · refine iff_of_true ?_ inner
    refine Option.eq_none_iff_forall_ne_some.mpr fun found read => ?_
    obtain ⟨_, _, same, -⟩ := read_iff.mp read
    cases whole.symm.trans same
  · refine iff_of_false (fun missing => ?_) fun same => by cases inner.symm.trans same
    rw [read_iff.mpr ⟨expr, after, whole, rfl⟩] at missing
    cases missing

theorem anchored_read {found : Expr × Nat} (inside : ¬Unopened pattern) : Expr.read (anchor pattern) = some found ↔
    ∃ expr after, Nests pattern expr after ∧ Expr.read (pattern ++ ending) = none ∧ Consistent after ∧
      found = ((Expr.concat (between expr)).mark after.referenced, after.groups) := by
  rw [read_iff, readAt_anchor]
  constructor
  · rintro ⟨whole, last, reads, rfl⟩
    obtain ⟨expr, after, behind, closing, inner, closes⟩ := anchor_inner reads
    have enough := sealed_closed.behind closes (leaves_branches _ _ _ _ _ _ _ inner)
    obtain ⟨rest, rfl, own⟩ := ((agree_inside pattern).back _ _ inner enough).resolve_left id
    have nested : rest = [] := by
      refine (closed_bare (readBranches_bare own) closes).resolve_right ?_
      rintro ⟨others, rfl⟩
      exact inside ⟨expr, after, others, told_moves (Nat.zero_le 1) (by unfold fuelInside; omega) (by omega)
        (length_le_byteSize pattern) own⟩
    subst nested
    have nests := nests_iff.mpr own
    refine ⟨expr, after, nests, (visible_iff nests).mpr inner, ?_⟩
    rw [told_anchor_ended inner] at reads
    obtain ⟨checked, checks, same⟩ := Option.map_eq_some_iff.mp reads
    obtain ⟨consistent, rfl⟩ := checkReferences_iff.mp checks
    cases same
    exact ⟨consistent, rfl⟩
  · rintro ⟨expr, after, nests, visible, consistent, rfl⟩
    rw [told_anchor_ended ((visible_iff nests).mp visible)]
    have checks : checkReferences { after with flags := {} } = some ((), { after with flags := {} }) :=
      checkReferences_iff.mpr ⟨consistent, rfl⟩
    exact ⟨.concat (between expr), { after with flags := {} }, by rw [checks]; rfl, rfl⟩

end Anchors
end RepositoryAccess.Lookaround
