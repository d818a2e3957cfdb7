import RepositoryAccess.Proofs.LookEscapes

namespace RepositoryAccess.Lookaround
open RepositoryAccess.Text RepositoryAccess.Pattern

section Parts
variable {limit longest : Nat} {slack : Int}

def setFlag (on : Bool) (flag : Flag) : Stepper Unit :=
  .tell fun reading => some ((), { reading with flags := reading.flags.set on flag })

theorem good_setFlag (on : Bool) (flag : Flag) : Good limit longest 0 (setFlag on flag) (setFlag on flag) :=
  good_tell (by rintro reading x after ⟨⟩; exact ⟨Nat.le_refl _, id, by simp [Reading.weight]⟩)
    fun _ _ _ found _ => found

def flagsBehind : Nat → Nat → Bool → Stepper Bool
  | 0, _, _ => .fail
  | fuel + 1, read, negative => skipped.bind fun _ => .headed .fail fun c =>
    if c = ')' then if read == 0 || (negative && read == 1) then .fail else .done true
    else if c = ':' then if negative && read == 1 then .fail else .done false
    else if c = '-' then if negative then .fail else flagsBehind fuel (read + 1) true
    else if c = 'u' then if negative then .fail else flagsBehind fuel (read + 1) negative
    else match Flag.ofChar? c with
      | none | some .wideLines => .fail
      | some flag => (setFlag (!negative) flag).bind fun _ => flagsBehind fuel (read + 1) negative

theorem good_flagsBehind (fuel : Nat) {fuel' : Nat} (enough : longest ≤ fuel') (read : Nat) (negative : Bool) :
    Good limit longest 0 (flagsBehind fuel read negative) (flagsBehind fuel' read negative) := by
  induction fuel generalizing fuel' longest read negative with
  | zero => exact good_fail
  | succ fuel ih =>
    have further {fuel' longest : Nat} (enough : longest ≤ fuel' + 1) : Good limit longest 0
        (flagsBehind (fuel + 1) read negative) (flagsBehind (fuel' + 1) read negative) := by
      have done (x : Bool) : Good limit (longest - 1) (0 - 0 + 1) (Stepper.done x) (Stepper.done x) :=
        (good_done x).mono (Nat.le_refl _) (by decide)
      have onward (read : Nat) (negative : Bool) : Good limit (longest - 1) (0 - 0 + 1)
          (flagsBehind fuel read negative) (flagsBehind fuel' read negative) :=
        (ih (by omega) read negative).mono (Nat.le_refl _) (by decide)
      refine (good_skipped _ _).bind fun _ => good_headed fun c => ?_
      repeat' split
      all_goals first
        | exact good_fail
        | exact done _
        | exact onward _ _
        | exact ((good_setFlag _ _).bind fun _ => onward _ _)
    cases fuel' with
    | zero => exact .shortest (Nat.le_zero.mp enough) (further (Nat.zero_le 1))
    | succ fuel' => exact further enough

theorem told_readFlags (fuel read : Nat) (negative : Bool) : told (readFlags fuel read negative) =
    flagsBehind fuel read negative := by
  induction fuel generalizing read negative with
  | zero => rfl
  | succ fuel ih =>
    have onward (read : Nat) (negative : Bool) (cs : List Char) (reading : Reading) :
        outcome (readFlags fuel read negative cs) reading = flagsBehind fuel read negative reading cs :=
      congrFun (congrFun (ih read negative) reading) cs
    funext reading cs
    unfold told readFlags
    refine skip_then (fun reading cs => ?_) reading cs
    split
    · rfl
    · simp only [Stepper.headed, if_true]
      split <;> rfl
    · simp only [Stepper.headed, Char.reduceEq, if_true, if_false]
      split <;> rfl
    · simp only [Stepper.headed, Char.reduceEq, if_true, if_false]
      split
      · rfl
      · exact onward _ _ _ reading
    · simp only [Stepper.headed, Char.reduceEq, if_true, if_false]
      split
      · rfl
      · exact onward _ _ _ reading
    · rename_i c rest closing colon minus unicode
      rw [Stepper.headed, if_neg closing, if_neg colon, if_neg minus, if_neg unicode]
      cases Flag.ofChar? c with
      | none => rfl
      | some flag =>
        cases flag
        case wideLines => rfl
        all_goals exact onward _ _ rest _

def flagsRead : Stepper Bool := .fuelled fun fuel => flagsBehind fuel 0 false

theorem good_flagsRead : Good limit longest 0 flagsRead flagsRead :=
  good_fuelled (fun _ _ fuel _ enough => good_flagsBehind fuel enough 0 false) fun _ fuel _ enough =>
    good_flagsBehind fuel enough 0 false

theorem checkReferences_eq (reading : Reading) : checkReferences reading =
    if reading.byNumber && !reading.names.isEmpty then none else some ((), reading) := by
  show (if reading.byNumber && !reading.names.isEmpty then _ else _ : Read Unit) reading = _
  split <;> rfl

def checked : Stepper Unit := .tell checkReferences

theorem good_checked : Good limit longest 0 checked checked := by
  refine good_tell (fun reading x after found => ?_) fun _ _ _ found _ => found
  rw [checkReferences_eq] at found
  split at found
  · cases found
  · cases found; exact ⟨Nat.le_refl _, id, by omega⟩

def opened (name : Option (List Char)) : Stepper Nat := .tell (openGroup name)

theorem good_opened (name : Option (List Char)) : Good limit longest 2 (opened name) (opened name) := by
  refine good_tell (fun reading x after found => ?_) fun _ _ _ found _ => found
  cases found
  exact ⟨Nat.le_succ _, id, by simp only [Reading.weight]; omega⟩

def namedBack (name : List Char) : Stepper Expr := .tell fun reading =>
  match reading.names.find? (·.1 == name) with
  | some (_, number) => backref number reading
  | none => none

theorem good_namedBack (name : List Char) : Good limit longest 0 (namedBack name) (namedBack name) := by
  refine good_tell (fun reading x after found => ?_) fun _ _ _ found _ => found
  split at found
  · obtain ⟨-, groups, byNumber⟩ := refers_backref _ _ _ _ found
    exact ⟨groups.ge, fun _ => by rwa [byNumber], by simp [Reading.weight, groups, byNumber]⟩
  · cases found

def counts : Stepper (Nat × Option Nat) :=
  .onHead '?' (.done (0, some 1)) (.onHead '*' (.done (0, none))
    (.onHead '+' (.done (1, none)) (.onHead '{' bounds .fail)))

theorem good_counts : Good limit longest 0 counts counts := by
  have done (x : Nat × Option Nat) : Good limit (longest - 1) (0 + 1) (Stepper.done x) (Stepper.done x) :=
    (good_done x).mono (Nat.le_refl _) (by decide)
  exact good_onHead (by decide) (done _) (good_onHead (by decide) (done _) (good_onHead (by decide) (done _)
    (good_onHead (by decide) ((good_bounds _ _).mono (Nat.le_refl _) (by decide)) good_fail)))

theorem firm_counts : Firm counts :=
  .when (by decide) (fun _ => firm_done _) (.when (by decide) (fun _ => firm_done _)
    (.when (by decide) (fun _ => firm_done _)
    (.when (by decide) (fun _ => firm_bounds) firm_fail)))

theorem counts_eq (reading : Reading) (cs : List Char) : counts reading cs =
    (count? reading.flags.spaced cs).map fun p => (((p.1, p.2.1), reading), p.2.2) := by
  cases cs with
  | nil => rfl
  | cons c rest =>
    by_cases single : c ∈ ['?', '*', '+']
    · simp only [List.mem_cons, List.not_mem_nil, or_false] at single
      rcases single with rfl | rfl | rfl <;> rfl
    by_cases brace : c = '{'
    · subst brace; exact bounds_eq reading rest
    · simp only [List.mem_cons, List.not_mem_nil, or_false, not_or] at single
      simp [counts, count?, single, brace, Stepper.fail]

def laziness : Stepper Bool := .onHead '?' (.done false) (.done true)

theorem laziness_eq (reading : Reading) (cs : List Char) : laziness reading cs =
    some (((readLaziness cs).1, reading), (readLaziness cs).2) := by
  cases cs with
  | nil => rfl
  | cons c rest =>
    by_cases lazy : c = '?'
    · subst lazy; rfl
    · simp [laziness, readLaziness, lazy, Stepper.done]

def possessed (loop : Expr) : Stepper Expr := .onHead '+' (.done (.atomic loop)) (.done loop)

theorem possessed_eq (loop : Expr) (reading : Reading) (cs : List Char) :
    possessed loop reading cs = some (((possessive loop cs).1, reading), (possessive loop cs).2) := by
  cases cs with
  | nil => rfl
  | cons c rest =>
    by_cases plus : c = '+'
    · subst plus; rfl
    · simp [possessed, possessive, plus, Stepper.done]

-- The expression repeated as counted, with what stands behind the count.
def repeated (atom : Expr) (count : Nat × Option Nat) : Stepper Expr :=
  if atom.isRepeatable then
    skipped.bind fun _ => laziness.bind fun greedy => .fixed fun reading =>
      possessed (.loop atom count.1 count.2 (greedy != reading.flags.swapGreed))
  else .fail

theorem good_repeated (atom : Expr) (count : Nat × Option Nat) :
    Good limit longest 0 (repeated atom count) (repeated atom count) := by
  unfold repeated
  split
  · refine (good_skipped _ _).bind fun _ => .bind
      (good_onHead (by decide) ((good_done _).mono (Nat.le_refl _) (by decide)) (good_done _)) fun greedy =>
        good_fixed fun reading => ?_
    exact good_onHead (by decide) ((good_done _).mono (Nat.le_refl _) (by decide)) (good_done _)
  · exact good_fail

def counting (atom : Expr) : Stepper Expr := counts.tried (repeated atom) (.done atom)

theorem good_counting (atom : Expr) : Good limit longest 0 (counting atom) (counting atom) :=
  good_tried good_counts firm_counts (fun _ => good_repeated atom _) (good_done atom)

end Parts

section Readers

def branchesOf (run : Stepper Expr) (more : Stepper (List Expr)) : Stepper Expr :=
  run.bind fun first => skipped.bind fun _ =>
    .onHead '|' (more.bind fun others => .done (.alt (first :: others))) (checked.bind fun _ => .done first)

def moreOf (run : Stepper Expr) (more : Stepper (List Expr)) : Stepper (List Expr) :=
  run.bind fun branch => skipped.bind fun _ => .onHead '|' (more.bind fun others => .done (branch :: others))
    (.done [branch])

def runOf (parts : List Expr) (part : Stepper Expr) (run : List Expr → Stepper Expr) : Stepper Expr :=
  .ended (joinParts parts.reverse) (part.taking (fun _ => .done (joinParts parts.reverse))
    fun x => run (if x.isEmpty then parts else x :: parts))

def partOf (atom : Stepper Expr) : Stepper Expr := atom.bind fun atom => skipped.bind fun _ => counting atom

def beginsAtom (c : Char) : Bool := !(c == '+' || c == '*' || c == '?' || c == '|' || c == ')')

def atomFrom (size : Nat) (flags : Flags) (group : Stepper Expr) (c : Char) : Stepper Expr :=
  if c = '.' then .done (.any flags.dotAll)
  else if c = '^' then .done (.place (if flags.multiLine then .lineStart else .textStart))
  else if c = '$' then .done (.place (if flags.multiLine then .lineEnd else .textEnd))
  else if c = '(' then group
  else if c = '\\' then (escape false size).bind fun escape => .done (escapeExpr flags escape)
  else if c = '[' then class_ size flags
  else .done (charExpr flags c)

def atomOf (size : Nat) (group : Stepper Expr) : Stepper Expr :=
  skipped.bind fun _ => .fixed fun reading => .when beginsAtom (atomFrom size reading.flags group) (.done .empty)

def grouped (branches condition : Stepper Expr) : Opening → Stepper Expr
  | .look kind => branches.bind fun child => closed.bind fun _ => .done (.look kind child)
  | .atomic => branches.bind fun child => closed.bind fun _ => .done (.atomic child)
  | .capture =>
    (opened none).bind fun number => branches.bind fun child => closed.bind fun _ => .done (.group number false child)
  | .named name =>
    (opened (some name)).bind fun number => branches.bind fun child => closed.bind fun _ =>
      .done (.group number false child)
  | .backref name => namedBack name
  | .condition => condition
  | .flags => .fixed fun before => flagsRead.bind fun alone =>
    if alone then .done .empty
    else branches.bind fun child => closed.bind fun _ =>
      .tell fun reading => some (child, { reading with flags := before.flags })

def groupOf (depth : Nat) (branches condition : Stepper Expr) : Stepper Expr :=
  if depth + 1 ≥ depthLimit then .fail
  else skipped.bind fun _ => (Stepper.lift opening?).bind (grouped branches condition)

def matchedNamed (stop : Char) : Stepper Expr := (groupNamed stop).bind fun number =>
  .tell fun reading => (referTo number reading).map fun p => (.matched p.1, p.2)

def testOf (size : Nat) (branches : Stepper Expr) : Stepper Expr :=
  .when Char.isDigit (referred size fun number => do return .matched (← referTo number))
    (.onHead '\'' (matchedNamed '\'') (.onHead '<' (matchedNamed '>') (branches.bind fun test => .done (tested test))))

def conditionOf (size : Nat) (branches : Stepper Expr) : Stepper Expr :=
  (testOf size branches).bind fun test => closed.bind fun _ =>
    branches.taking (fun _ => if test.isMatched then closed.bind fun _ => .done test else .fail)
      fun child => closed.bind fun _ => .done (conditional test child)

variable {size depth fuel : Nat}

theorem told_readBranches : told (readBranches size depth (fuel + 1)) =
    branchesOf (told (readRun size depth fuel [])) (told (readMore size depth fuel)) := by
  funext reading cs
  unfold told
  rw [readBranches]
  refine outcome_then (fun first => skip_then fun reading rest => ?_) reading cs
  split
  · rw [outcome_bind]; rfl
  · rw [onHead_other _ _ _ (by assumption), outcome_tell, Stepper.bind]
    simp only [checked, Stepper.tell, Option.bind_map]
    cases checkReferences reading <;> rfl

theorem told_readMore : told (readMore size depth (fuel + 1)) =
    moreOf (told (readRun size depth fuel [])) (told (readMore size depth fuel)) := by
  funext reading cs
  unfold told
  rw [readMore]
  refine outcome_then (fun first => skip_then fun reading rest => ?_) reading cs
  split
  · rw [outcome_bind]; rfl
  · rw [onHead_other _ _ _ (by assumption)]; rfl

theorem told_readRun (parts : List Expr) : told (readRun size depth (fuel + 1) parts) =
    runOf parts (told (readPart size depth fuel)) fun parts => told (readRun size depth fuel parts) := by
  funext reading cs
  unfold told runOf
  rw [readRun]
  cases cs with
  | nil => rfl
  | cons c rest =>
    simp only [List.isEmpty_cons, Bool.false_eq_true, if_false, Stepper.ended, Stepper.taking]
    rw [outcome_bind]
    congr
    funext found
    dsimp only
    split <;> rfl

theorem told_readPart : told (readPart size depth (fuel + 1)) = partOf (told (readAtom size depth fuel)) := by
  funext reading cs
  unfold told
  rw [readPart]
  refine outcome_then (fun atom => skip_then fun reading rest => ?_) reading cs
  dsimp only
  rw [outcome_get, counting, Stepper.tried, counts_eq]
  split
  · rename_i missing; rw [missing]; rfl
  · rename_i least most rest found
    rw [found]
    simp only [Option.map_some, repeated]
    by_cases again : atom.isRepeatable = true
    · simp only [again, Bool.not_true, Bool.false_eq_true, if_false, if_true]
      rw [outcome_skip, Stepper.bind, skipped_eq]
      cases skipGap reading.flags.spaced .blanks rest with
      | none => rfl
      | some rest =>
        simp only [Option.map_some, Option.bind_some, Stepper.bind, laziness_eq, Stepper.fixed, possessed_eq]
        rfl
    · simp only [again, Bool.not_false, Bool.false_eq_true, if_false, if_true]
      rfl

theorem told_readAtom : told (readAtom size depth (fuel + 1)) = atomOf size (told (readGroup size depth fuel)) := by
  funext reading cs
  unfold told
  rw [readAtom]
  refine skip_then (fun reading cs => ?_) reading cs
  rw [outcome_get, Stepper.fixed]
  split
  · rfl
  · rfl
  · rfl
  · rfl
  · rfl
  · rename_i rest
    show _ = ((escape false size).bind fun escape => .done (escapeExpr reading.flags escape)) reading rest
    rw [← told_readEscape]
    exact outcome_then (fun _ _ _ => rfl) reading rest
  · rename_i rest
    refine Eq.trans ?_ (show class_ size reading.flags reading rest = _ from rfl)
    rw [class_, Stepper.bind, classStart_eq, Option.bind_some, Stepper.bind, Stepper.fuelled,
      ← told_readClass, outcome_bind]
    rfl
  · rename_i c rest dot start finish group escape opening
    have single : atomFrom size reading.flags (told (readGroup size depth fuel)) c =
        .done (charExpr reading.flags c) := by
      simp only [atomFrom, if_neg dot, if_neg start, if_neg finish, if_neg group, if_neg escape, if_neg opening]
    simp only [Stepper.when, beginsAtom]
    split
    · rename_i stops
      simp only [stops, Bool.not_true, Bool.false_eq_true, if_false]
      rfl
    · rename_i begins
      simp only [begins, Bool.not_false, if_true]
      exact (congrFun (congrFun single reading) rest).symm

theorem outcome_enclosed {α : Type} (read : List Char → Read (Expr × List Char)) (f : Expr → α) (rest : List Char)
    (reading : Reading) :
    outcome (do
      let (child, rest) ← read rest
      return (f child, ← closing rest)) reading =
        ((told read).bind fun child => closed.bind fun _ => .done (f child)) reading rest := by
  simp only [outcome_bind, outcome_closing]
  rfl

theorem told_readGroup : told (readGroup size depth (fuel + 1)) =
    groupOf depth (told (readBranches size (depth + 1) fuel)) (told (readCondition size (depth + 1) fuel)) := by
  funext reading cs
  unfold told groupOf
  rw [readGroup]
  dsimp only
  split
  · rfl
  · refine skip_then (fun reading cs => ?_) reading cs
    rw [outcome_lift, Stepper.bind, Stepper.lift, Option.bind_map]
    congr
    funext found
    obtain ⟨opening, rest⟩ := found
    cases opening with
    | look kind => exact outcome_enclosed _ _ rest reading
    | atomic => exact outcome_enclosed _ _ rest reading
    | capture =>
      refine (outcome_change _ _ reading).trans ?_
      simp only [outcome_enclosed, grouped, opened, Stepper.bind]
      rfl
    | named name =>
      refine (outcome_change _ _ reading).trans ?_
      simp only [outcome_enclosed, grouped, opened, Stepper.bind]
      rfl
    | backref name =>
      have known (found : Option (List Char × Nat)) : outcome (match found with
          | some (_, number) => do return (← backref number, rest)
          | none => failure) reading = (match found with
          | some (_, number) => backref number reading
          | none => none).map fun told => (told, rest) := by
        cases found with
        | none => rfl
        | some pair => exact outcome_tell _ _ rest reading
      rw [outcome_get]
      exact known _
    | condition => rfl
    | flags =>
      simp only [outcome_get, outcome_bind, Function.comp_def, grouped, Stepper.fixed]
      rw [Stepper.bind, flagsRead, Stepper.fuelled, ← told_readFlags]
      congr
      funext found
      obtain ⟨⟨alone, reading⟩, rest⟩ := found
      cases alone with
      | true => rfl
      | false =>
        simp only [outcome_bind, outcome_closing]
        rfl

theorem told_readNamedTest (stop : Char) : told (readNamedTest stop) = matchedNamed stop := by
  funext reading cs
  simp only [told, readNamedTest, outcome_bind, outcome_tell, ← told_namedGroup, matchedNamed, Stepper.bind,
    Stepper.tell, Option.map_map, Function.comp_def]

theorem told_readTest (size : Nat) (read : List Char → Read (Expr × List Char)) : told (readTest size read) =
    testOf size (told read) := by
  funext reading cs
  have other : outcome (do
      let (test, rest) ← read cs
      return (tested test, rest)) reading = ((told read).bind fun test => .done (tested test)) reading cs := by
    rw [outcome_bind]
    rfl
  unfold told readTest testOf
  cases cs with
  | nil => exact other
  | cons c rest =>
    simp only [List.head?_cons, Option.any_some, Stepper.when]
    by_cases digit : c.isDigit = true
    · simp only [digit, if_true]
      have refers := outcome_referred size (fun number => do return .matched (← referTo number)) id c reading rest
      rw [show (fun expr : Expr => Stepper.done (id expr)) = .done from rfl, bind_done] at refers
      rw [← refers]
      simp only [bind_assoc, pure_bind]
      rfl
    · simp only [digit, Bool.false_eq_true, if_false]
      generalize c :: rest = cs at other ⊢
      split
      · exact congrFun (congrFun (told_readNamedTest _) reading) _
      · exact congrFun (congrFun (told_readNamedTest _) reading) _
      · rw [onHead_other _ _ _ (by assumption), onHead_other _ _ _ (by assumption)]
        exact other

theorem told_readCondition : told (readCondition size depth (fuel + 1)) =
    conditionOf size (told (readBranches size depth fuel)) := by
  funext reading cs
  rw [conditionOf, ← told_readTest]
  show outcome (readCondition size depth (fuel + 1) cs) reading = _
  rw [readCondition]
  refine outcome_then (fun test => closing_then fun reading rest => ?_) reading cs
  rw [outcome_bind, Stepper.taking]
  congr
  funext found
  obtain ⟨⟨child, reading⟩, after⟩ := found
  dsimp only
  split
  · split
    · rw [outcome_closing]; rfl
    · rfl
  · rw [outcome_closing]; rfl

end Readers

section Ends
variable {size depth fuel : Nat} {reading : Reading} {cs : List Char}

-- Where a text ends, or would end if it stood in a group.
def AtEnd (cs : List Char) : Prop := cs = [] ∨ cs = ending

theorem AtEnd.skipped (at_end : AtEnd cs) (reading : Reading) : skipped reading cs = some (((), reading), cs) := by
  rw [skipped_eq]
  rcases at_end with rfl | rfl
  · cases reading.flags.spaced <;> rfl
  · cases reading.flags.spaced <;> rfl

theorem AtEnd.when {α : Type} {p : Char → Bool} {yes : Char → Stepper α} {no : Stepper α} (at_end : AtEnd cs)
    (other : p ')' = false) (reading : Reading) : Stepper.when p yes no reading cs = no reading cs := by
  rcases at_end with rfl | rfl
  · rfl
  · exact if_neg (by simp [other])

theorem AtEnd.counting (at_end : AtEnd cs) (atom : Expr) (reading : Reading) :
    counting atom reading cs = some ((atom, reading), cs) := by
  have missing : counts reading cs = none := by
    rw [counts_eq]
    rcases at_end with rfl | rfl <;> rfl
  simp only [Lookaround.counting, Stepper.tried, missing]
  rfl

theorem AtEnd.part (at_end : AtEnd cs) (reading : Reading) :
    told (readPart size depth (fuel + 2)) reading cs = some ((.empty, reading), cs) := by
  rw [told_readPart, told_readAtom]
  simp only [partOf, atomOf, Stepper.bind, at_end.skipped, Option.bind_some, Stepper.fixed,
    at_end.when (show beginsAtom ')' = false from rfl), Stepper.done]
  exact at_end.counting .empty reading

theorem AtEnd.run (at_end : AtEnd cs) (parts : List Expr) (reading : Reading) :
    told (readRun size depth (fuel + 3) parts) reading cs = some ((joinParts parts.reverse, reading), cs) := by
  rw [told_readRun, runOf]
  unfold Stepper.ended
  split
  · rfl
  · simp [Stepper.taking, at_end.part, Stepper.done]

theorem AtEnd.branches (at_end : AtEnd cs) (reading : Reading) :
    told (readBranches size depth (fuel + 4)) reading cs =
    (checkReferences reading).map fun p => ((.empty, p.2), cs) := by
  rw [told_readBranches]
  simp only [branchesOf, Stepper.bind, at_end.run, Option.bind_some, at_end.skipped]
  rw [Stepper.onHead, at_end.when (by decide)]
  simp only [checked, Stepper.bind, Stepper.tell]
  cases checkReferences reading <;> rfl

end Ends

section Everything
variable {limit longest size size' depth depth' : Nat}
  {run run' part part' atom atom' group group' branches branches' condition condition' : Stepper Expr}
  {more more' : Stepper (List Expr)}

theorem good_branchesOf (first : Good limit longest 0 run run') (others : Good limit (longest - 1) 0 more more') :
    Good limit longest 0 (branchesOf run more) (branchesOf run' more') :=
  first.bind fun _ => (good_skipped _ _).bind fun _ => good_onHead (by decide)
    (others.bind fun _ => (good_done _).mono (Nat.le_refl _) (by decide)) (good_checked.bind fun _ => good_done _)

theorem good_moreOf (first : Good limit longest 0 run run') (others : Good limit (longest - 1) 0 more more') :
    Good limit longest 0 (moreOf run more) (moreOf run' more') :=
  first.bind fun _ => (good_skipped _ _).bind fun _ => good_onHead (by decide)
    (others.bind fun _ => (good_done _).mono (Nat.le_refl _) (by decide)) (good_done _)

theorem good_runOf {run run' : List Expr → Stepper Expr} (parts : List Expr) (first : Good limit longest 0 part part')
    (nothing : ending.length < longest → ∀ reading cs, AtEnd cs → part reading cs = some ((.empty, reading), cs))
    (others : ∀ parts, Good limit (longest - 1) 0 (run parts) (run' parts)) :
    Good limit longest 0 (runOf parts part run) (runOf parts part' run') := by
  refine good_ended (fun long reading => ?_) (good_taking first (fun long reading x rest found => ?_)
    (fun _ => good_done _) fun _ => others _)
  · simp [Stepper.taking, nothing long reading ending (.inr rfl), Stepper.done]
  · rw [nothing long reading [] (.inl rfl)] at found
    cases found
    exact nothing long reading ending (.inr rfl)

theorem good_partOf (first : Good limit longest 0 atom atom') : Good limit longest 0 (partOf atom) (partOf atom') :=
  first.bind fun _ => (good_skipped _ _).bind fun _ => good_counting _

theorem good_atomOf (inner : Good (size' / 2) (longest - 1) 1 group group') :
    Good (size' / 2) longest 0 (atomOf size group) (atomOf size' group') := by
  refine (good_skipped _ _).bind fun _ => good_fixed fun reading => good_when (by decide) (fun c _ => ?_) (good_done _)
  have done (expr : Expr) : Good (size' / 2) (longest - 1) (0 - 0 + 1) (Stepper.done expr) (Stepper.done expr) :=
    (good_done expr).mono (Nat.le_refl _) (by decide)
  unfold atomFrom
  repeat' split
  all_goals first
    | exact done _
    | exact inner
    | exact (good_escape false size fun _ => rfl).bind fun _ => good_done _
    | exact (good_class size size' reading.flags).mono (Nat.le_refl _) (by decide)

theorem good_grouped (inner : Good limit longest 0 branches branches')
    (test : Good limit longest 0 condition condition') (opening : Opening) :
    Good limit longest 1 (grouped branches condition opening) (grouped branches' condition' opening) := by
  have enclosed {α : Type} (f : Expr → α) : Good limit longest (-1)
      (branches.bind fun child => closed.bind fun _ => .done (f child))
      (branches'.bind fun child => closed.bind fun _ => .done (f child)) :=
    inner.bind fun _ => (good_closed _ _).bind fun _ => good_done _
  have above : (-1 : Int) ≤ 1 ∧ (-1 : Int) ≤ 1 - 2 := by decide
  cases opening <;> simp only [grouped]
  case look kind => exact (enclosed _).mono (Nat.le_refl _) above.1
  case atomic => exact (enclosed _).mono (Nat.le_refl _) above.1
  case capture =>
    refine (good_opened none).bind fun number => ?_
    exact (enclosed _).mono (Nat.le_refl _) above.2
  case named name =>
    refine (good_opened (some name)).bind fun number => ?_
    exact (enclosed _).mono (Nat.le_refl _) above.2
  case backref name => exact (good_namedBack name).mono (Nat.le_refl _) (by decide)
  case condition => exact test.mono (Nat.le_refl _) (by decide)
  case flags =>
    refine good_fixed fun before => ?_
    refine good_flagsRead.bind fun alone => ?_
    split
    · exact (good_done _).mono (Nat.le_refl _) (by decide)
    · refine inner.bind fun child => (good_closed _ _).bind fun _ => good_tell ?_ fun _ _ _ found _ => found
      rintro reading x after ⟨⟩
      exact ⟨Nat.le_refl _, id, by simp only [Reading.weight]; omega⟩

theorem good_groupOf (deeper : depth' ≤ depth) (inner : Good limit longest 0 branches branches')
    (test : Good limit longest 0 condition condition') :
    Good limit longest 1 (groupOf depth branches condition) (groupOf depth' branches' condition') := by
  unfold groupOf
  split
  · exact good_fail
  · rw [if_neg (by omega)]
    exact (good_skipped _ _).bind fun _ => (good_lift leaves_opening agree_opening).bind (good_grouped inner test)

theorem good_matchedNamed (stop : Char) : Good limit longest 0 (matchedNamed stop) (matchedNamed stop) := by
  refine (good_groupNamed stop).bind fun number =>
    good_tell (fun reading x after found => ?_) fun _ _ _ found _ => found
  obtain ⟨p, taken, same⟩ := Option.map_eq_some_iff.mp found
  cases same
  rw [referTo_eq] at taken
  split at taken
  · cases taken; exact ⟨Nat.le_refl _, id, by simp [Reading.weight]⟩
  · cases taken

theorem good_conditionOf (inner : Good (size' / 2) longest 0 branches branches')
    (kept : ending.length < longest → ∀ reading x rest, branches reading [] = some (x, rest) →
      branches reading ending = some (x, ending)) :
    Good (size' / 2) longest 0 (conditionOf size branches) (conditionOf size' branches') := by
  have named (stop : Char) : Good (size' / 2) (longest - 1) (1 + 1) (matchedNamed stop) (matchedNamed stop) :=
    (good_matchedNamed stop).mono (Nat.le_refl _) (by decide)
  have test : Good (size' / 2) longest 1 (testOf size branches) (testOf size' branches') := by
    refine good_when (by decide) (fun c digit => ?_) (good_onHead (by decide) ?_ (good_onHead (by decide) ?_ ?_))
    · exact (good_referred refers_matched digit size size').mono (Nat.le_refl _) (by decide)
    · exact named _
    · exact named _
    · exact inner.bind fun _ => (good_done _).mono (Nat.le_refl _) (by decide)
  have closing (expr : Expr) : Good (size' / 2) longest (-1) (closed.bind fun _ => .done expr)
      (closed.bind fun _ => .done expr) :=
    (good_closed _ _).bind fun _ => good_done expr
  refine test.bind fun test => (good_closed _ _).bind fun _ => good_taking inner kept (fun _ => ?_) fun child => ?_
  · split
    · exact (closing _).mono (Nat.le_refl _) (by decide)
    · exact good_fail
  · exact (closing _).mono (Nat.sub_le _ _) (by decide)

-- What holds of the readers for texts of which each character leaves enough fuel. A reader of one kind that calls
-- another one has that much less.
structure Alike (size size' fuel fuel' : Nat) : Prop where
  branches : ∀ {depth depth' longest}, depth' ≤ depth → 8 * longest ≤ fuel → 8 * longest ≤ fuel' →
    Good (size' / 2) longest 0 (told (readBranches size depth fuel)) (told (readBranches size' depth' fuel'))
  more : ∀ {depth depth' longest}, depth' ≤ depth → 8 * longest ≤ fuel → 8 * longest ≤ fuel' →
    Good (size' / 2) longest 0 (told (readMore size depth fuel)) (told (readMore size' depth' fuel'))
  run : ∀ {depth depth' longest} (parts : List Expr), depth' ≤ depth → 8 * longest ≤ fuel + 1 →
    8 * longest ≤ fuel' + 1 →
    Good (size' / 2) longest 0 (told (readRun size depth fuel parts)) (told (readRun size' depth' fuel' parts))
  part : ∀ {depth depth' longest}, depth' ≤ depth → 8 * longest ≤ fuel + 2 → 8 * longest ≤ fuel' + 2 →
    Good (size' / 2) longest 0 (told (readPart size depth fuel)) (told (readPart size' depth' fuel'))
  atom : ∀ {depth depth' longest}, depth' ≤ depth → 8 * longest ≤ fuel + 3 → 8 * longest ≤ fuel' + 3 →
    Good (size' / 2) longest 0 (told (readAtom size depth fuel)) (told (readAtom size' depth' fuel'))
  group : ∀ {depth depth' longest}, depth' ≤ depth → (0 < longest → 8 * longest + 2 ≤ fuel ∧ 8 * longest + 2 ≤ fuel') →
    Good (size' / 2) longest 1 (told (readGroup size depth fuel)) (told (readGroup size' depth' fuel'))
  condition : ∀ {depth depth' longest}, depth' ≤ depth →
    (0 < longest → 8 * longest + 1 ≤ fuel ∧ 8 * longest + 1 ≤ fuel') →
    Good (size' / 2) longest 0 (told (readCondition size depth fuel)) (told (readCondition size' depth' fuel'))

theorem Alike.next {fuel fuel' : Nat} (alike : Alike size size' fuel fuel') :
    Alike size size' (fuel + 1) (fuel' + 1) where
  branches deeper enough enough' := by
    rw [told_readBranches, told_readBranches]
    exact good_branchesOf (alike.run [] deeper enough enough') (alike.more deeper (by omega) (by omega))
  more deeper enough enough' := by
    rw [told_readMore, told_readMore]
    exact good_moreOf (alike.run [] deeper enough enough') (alike.more deeper (by omega) (by omega))
  run parts deeper enough enough' := by
    rw [told_readRun, told_readRun]
    refine good_runOf parts (alike.part deeper enough enough') (fun long reading cs at_end => ?_)
      fun parts => alike.run parts deeper (by omega) (by omega)
    obtain ⟨less, rfl⟩ : ∃ less, fuel = less + 2 :=
      ⟨fuel - 2, by simp only [ending, List.length_cons, List.length_nil] at long; omega⟩
    exact at_end.part reading
  part deeper enough enough' := by
    rw [told_readPart, told_readPart]
    exact good_partOf (alike.atom deeper enough enough')
  atom deeper enough enough' := by
    rw [told_readAtom, told_readAtom]
    exact good_atomOf (alike.group deeper fun some => by omega)
  group deeper enough := by
    rw [told_readGroup, told_readGroup]
    exact good_groupOf deeper (alike.branches (Nat.succ_le_succ deeper) (by omega) (by omega))
      (alike.condition (Nat.succ_le_succ deeper) fun some => by omega)
  condition deeper enough := by
    rw [told_readCondition, told_readCondition]
    refine good_conditionOf (alike.branches deeper (by omega) (by omega)) fun long reading x rest found => ?_
    obtain ⟨less, rfl⟩ : ∃ less, fuel = less + 4 :=
      ⟨fuel - 4, by simp only [ending, List.length_cons, List.length_nil] at long; omega⟩
    rw [AtEnd.branches (.inl rfl)] at found
    rw [AtEnd.branches (.inr rfl)]
    cases checked : checkReferences reading with
    | none => simp [checked] at found
    | some consistent =>
      simp only [checked, Option.map_some, Option.some.injEq, Prod.mk.injEq] at found
      rw [Option.map_some, found.1]

theorem good_unfuelled {α : Type} {read : List Char → Read (α × List Char)} {read' : Stepper α} {slack : Int}
    (nothing : ∀ cs, read cs = failure) : Good limit longest slack (told read) read' := by
  have fails : told read = .fail := by
    funext reading cs
    unfold told
    rw [nothing]
    rfl
  rw [fails]
  exact good_fail

theorem alike_unfuelled (fuel' : Nat) : Alike size size' 0 fuel' where
  branches _ _ _ := good_unfuelled fun cs => by rw [readBranches]
  more _ _ _ := good_unfuelled fun cs => by rw [readMore]
  run _ _ _ _ := good_unfuelled fun cs => by rw [readRun]
  part _ _ _ := good_unfuelled fun cs => by rw [readPart]
  atom _ _ _ := good_unfuelled fun cs => by rw [readAtom]
  group _ _ := good_unfuelled fun cs => by rw [readGroup]
  condition _ _ := good_unfuelled fun cs => by rw [readCondition]

-- Without fuel for the second reader there is no text that is short enough.
theorem Alike.lapse {fuel : Nat} (alike : Alike size size' fuel 1) : Alike size size' fuel 0 where
  branches deeper _ _ := .shortest (by omega) (alike.branches deeper (Nat.zero_le _) (Nat.zero_le _))
  more deeper _ _ := .shortest (by omega) (alike.more deeper (Nat.zero_le _) (Nat.zero_le _))
  run parts deeper _ _ := .shortest (by omega) (alike.run parts deeper (Nat.zero_le _) (Nat.zero_le _))
  part deeper _ _ := .shortest (by omega) (alike.part deeper (Nat.zero_le _) (Nat.zero_le _))
  atom deeper _ _ := .shortest (by omega) (alike.atom deeper (Nat.zero_le _) (Nat.zero_le _))
  group deeper _ := .shortest (by omega) (alike.group deeper (absurd · (Nat.lt_irrefl 0)))
  condition deeper _ := .shortest (by omega) (alike.condition deeper (absurd · (Nat.lt_irrefl 0)))

theorem alike (size size' fuel fuel' : Nat) : Alike size size' fuel fuel' := by
  induction fuel generalizing fuel' with
  | zero => exact alike_unfuelled fuel'
  | succ fuel ih =>
    cases fuel' with
    | succ fuel' => exact (ih fuel').next
    | zero => exact (ih 0).next.lapse

end Everything
end RepositoryAccess.Lookaround
