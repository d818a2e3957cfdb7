import RepositoryAccess.Lookaround.Reader
import RepositoryAccess.Proofs.Trailing

namespace RepositoryAccess.Lookaround
open RepositoryAccess.Text RepositoryAccess.Pattern

-- A reader that takes what was read before into account and adds to it.
abbrev Stepper (α : Type) := Reading → Reader (α × Reading)

def outcome {α : Type} (read : Read (α × List Char)) (reading : Reading) : Option ((α × Reading) × List Char) :=
  (read reading).map fun p => ((p.1.1, p.2), p.1.2)

def told {α : Type} (read : List Char → Read (α × List Char)) : Stepper α := fun reading cs => outcome (read cs) reading

-- How many characters the groups and a reference by number take at least.
def Reading.weight (reading : Reading) : Int := 2 * reading.groups + if reading.byNumber then 2 else 0

structure Takes (slack : Int) (reading : Reading) (cs : List Char) (after : Reading) (rest : List Char) : Prop where
  suffix : rest <:+ cs
  groups : reading.groups ≤ after.groups
  byNumber : reading.byNumber = true → after.byNumber = true
  weight : after.weight + rest.length ≤ reading.weight + cs.length + slack

-- For texts that are not too long: a reader takes the same with the ending behind, and a reader with other limits
-- takes the same.
structure Good {α : Type} (limit longest : Nat) (slack : Int) (read read' : Stepper α) : Prop where
  takes : ∀ reading cs x after rest, read reading cs = some ((x, after), rest) → Takes slack reading cs after rest
  agree : ∀ reading cs, (cs ++ ending).length < longest → Agree Never (read reading cs) (read reading (cs ++ ending))
  moves : ∀ reading cs x after rest, cs.length < longest → read reading cs = some ((x, after), rest) →
    (after.byNumber = true → after.groups < limit) → read' reading cs = some ((x, after), rest)

section
variable {α β γ : Type} {limit longest fewer : Nat} {slack more : Int} {reading middle after : Reading}
  {cs rest left : List Char}
  {read read' : Stepper α} {next next' : α → Stepper β} {x : α}

theorem Takes.trans (first : Takes slack reading cs middle rest) (second : Takes more middle rest after left) :
    Takes (slack + more) reading cs after left where
  suffix := second.suffix.trans first.suffix
  groups := first.groups.trans second.groups
  byNumber := second.byNumber ∘ first.byNumber
  weight := by have := first.weight; have := second.weight; omega

theorem Takes.within (takes : Takes slack reading cs after rest)
    (limited : after.byNumber = true → after.groups < limit) :
    reading.byNumber = true → reading.groups < limit :=
  fun byNumber => takes.groups.trans_lt (limited (takes.byNumber byNumber))

theorem Takes.stay (reading : Reading) (cs : List Char) : Takes 0 reading cs reading cs :=
  ⟨List.suffix_refl cs, Nat.le_refl _, id, by omega⟩

theorem Good.leaves (good : Good limit longest slack read read') (reading : Reading) : Leaves (read reading) :=
  fun cs x rest found => (good.takes reading cs x.1 x.2 rest found).suffix

def Stepper.bind (read : Stepper α) (next : α → Stepper β) : Stepper β := fun reading cs =>
  (read reading cs).bind fun p => next p.1.1 p.1.2 p.2

theorem outcome_bind (read : Read (α × List Char)) (next : α × List Char → Read (β × List Char)) (reading : Reading) :
    outcome (read >>= next) reading = (outcome read reading).bind fun p => outcome (next (p.1.1, p.2)) p.1.2 := by
  show Option.map _ ((read reading).bind _) = (Option.map _ (read reading)).bind _
  cases read reading <;> rfl

-- What is done behind a reader is compared for each thing it may have read.
theorem outcome_then {read : List Char → Read (α × List Char)} {next : α × List Char → Read (β × List Char)}
    {next' : α → Stepper β} (same : ∀ x reading rest, outcome (next (x, rest)) reading = next' x reading rest)
    (reading : Reading) (cs : List Char) : outcome (read cs >>= next) reading = (told read).bind next' reading cs := by
  rw [outcome_bind, Stepper.bind]
  congr
  funext found
  exact same _ _ _

theorem outcome_change (read : Read γ) (next : γ → Read (β × List Char)) (reading : Reading) :
    outcome (read >>= next) reading = (read reading).bind fun p => outcome (next p.1) p.2 := by
  show Option.map _ ((read reading).bind _) = _
  cases read reading <;> rfl

theorem outcome_tell (read : Read γ) (f : γ → β) (rest : List Char) (reading : Reading) :
    outcome (read >>= fun x => pure (f x, rest)) reading = (read reading).map fun p => ((f p.1, p.2), rest) := by
  rw [outcome_change]
  cases read reading <;> rfl

theorem outcome_lift (found : Option γ) (next : γ → Read (β × List Char)) (reading : Reading) :
    outcome ((found : Read γ) >>= next) reading = found.bind fun x => outcome (next x) reading := by
  cases found <;> rfl

theorem outcome_get (next : Reading → Read (β × List Char)) (reading : Reading) :
    outcome (get >>= next) reading = outcome (next reading) reading := rfl

theorem outcome_pure (x : α) (rest : List Char) (reading : Reading) : outcome (pure (x, rest)) reading =
    some ((x, reading), rest) := rfl

theorem Good.bind (first : Good limit longest slack read read')
    (second : ∀ x, Good limit longest (more - slack) (next x) (next' x)) :
    Good limit longest more (read.bind next) (read'.bind next') where
  takes := by
    intro reading cs y after rest found
    obtain ⟨⟨⟨x, middle⟩, left⟩, taken, found⟩ := Option.bind_eq_some_iff.mp found
    have whole := (first.takes _ _ _ _ _ taken).trans ((second x).takes _ _ _ _ _ found)
    rwa [show slack + (more - slack) = more by omega] at whole
  agree := by
    intro reading cs short
    refine (first.agree reading cs short).bind (fun x rest taken => (second x.1).agree x.2 rest ?_) fun x =>
      (second x.1).leaves x.2
    have suffix := (first.leaves reading cs x rest taken).length_le
    simp only [List.length_append] at short ⊢
    omega
  moves := by
    intro reading cs y after rest short found limited
    obtain ⟨⟨⟨x, middle⟩, left⟩, taken, found⟩ := Option.bind_eq_some_iff.mp found
    have here := first.takes _ _ _ _ _ taken
    have there := (second x).takes _ _ _ _ _ found
    have same := first.moves _ _ _ _ _ short taken (there.within limited)
    have same' := (second x).moves _ _ _ _ _ (here.suffix.length_le.trans_lt short) found limited
    simp [Stepper.bind, same, same']

theorem Good.mono (good : Good limit longest slack read read') (shorter : fewer ≤ longest) (above : slack ≤ more) :
    Good limit fewer more read read' where
  takes reading cs x after rest found := by
    obtain ⟨suffix, groups, byNumber, weight⟩ := good.takes reading cs x after rest found
    exact ⟨suffix, groups, byNumber, by omega⟩
  agree reading cs short := good.agree reading cs (short.trans_le shorter)
  moves reading cs x after rest short := good.moves reading cs x after rest (short.trans_le shorter)

-- No text is shorter than nothing.
theorem Good.shortest {other : Stepper α} (nothing : longest = 0) (good : Good limit 0 slack read read') :
    Good limit longest slack read other where
  takes := good.takes
  agree _ _ short := absurd short (nothing ▸ Nat.not_lt_zero _)
  moves _ _ _ _ _ short := absurd short (nothing ▸ Nat.not_lt_zero _)

def Stepper.done (x : α) : Stepper α := fun reading cs => some ((x, reading), cs)

def Stepper.fail : Stepper α := fun _ _ => none

theorem good_done (x : α) : Good limit longest 0 (Stepper.done x) (Stepper.done x) where
  takes := by rintro reading cs y after rest ⟨⟩; exact .stay reading cs
  agree _ _ _ := .kept
  moves _ _ _ _ _ _ found _ := found

theorem good_fail : Good limit longest slack Stepper.fail read' where
  takes := by rintro reading cs y after rest ⟨⟩
  agree _ _ _ := .failed
  moves := by rintro reading cs y after rest - ⟨⟩

theorem bind_done (read : Stepper α) : read.bind .done = read := by
  funext reading cs
  exact Option.bind_fun_some _

-- A reader of the text alone.
def Stepper.lift (read : Reader α) : Stepper α := fun reading cs => (read cs).map fun p => ((p.1, reading), p.2)

theorem good_lift {read : Reader α} (leaves : Leaves read) (agree : ∀ cs, Agree Never (read cs) (read (cs ++ ending))) :
    Good limit longest 0 (Stepper.lift read) (Stepper.lift read) where
  takes := by
    intro reading cs x after rest found
    obtain ⟨⟨y, left⟩, taken, same⟩ := Option.map_eq_some_iff.mp found
    cases same
    have suffix := leaves _ _ _ taken
    exact ⟨suffix, Nat.le_refl _, id, by have := suffix.length_le; dsimp only at *; omega⟩
  agree reading cs _ := (agree cs).map fun x => (x, reading)
  moves _ _ _ _ _ _ found _ := found

def Stepper.fixed (read : Reading → Stepper α) : Stepper α := fun reading => read reading reading

theorem good_fixed {read read' : Reading → Stepper α}
    (good : ∀ fixed, Good limit longest slack (read fixed) (read' fixed)) :
    Good limit longest slack (Stepper.fixed read) (Stepper.fixed read') where
  takes reading := (good reading).takes reading
  agree reading := (good reading).agree reading
  moves reading := (good reading).moves reading

-- A change of what was read.
def Stepper.tell (change : Reading → Option (α × Reading)) : Stepper α := fun reading cs =>
  (change reading).map fun p => (p, cs)

def Stepper.headed (nil : Stepper α) (onward : Char → Stepper α) : Stepper α := fun reading cs =>
  match cs with
  | [] => nil reading []
  | c :: rest => onward c reading rest

theorem good_headed {onward onward' : Char → Stepper α}
    (good : ∀ c, Good limit (longest - 1) (slack + 1) (onward c) (onward' c)) :
    Good limit longest slack (Stepper.headed .fail onward) (Stepper.headed .fail onward') where
  takes := by
    intro reading cs x after rest found
    cases cs with
    | nil => cases found
    | cons c others =>
      have takes := (good c).takes _ _ _ _ _ found
      exact ⟨takes.suffix.trans (List.suffix_cons c others), takes.groups, takes.byNumber,
        by have := takes.weight; simp only [List.length_cons]; omega⟩
  agree reading cs short := by
    cases cs with
    | nil => exact .crossed ((good ')').leaves reading).within_ending
    | cons c others => exact (good c).agree reading others (Nat.lt_sub_of_add_lt short)
  moves := by
    intro reading cs x after rest short found limited
    cases cs with
    | nil => cases found
    | cons c others => exact (good c).moves _ _ _ _ _ (by simp at short; omega) found limited

theorem good_tell {change change' : Reading → Option (α × Reading)}
    (keeps : ∀ reading x after, change reading = some (x, after) → reading.groups ≤ after.groups ∧
      (reading.byNumber = true → after.byNumber = true) ∧ after.weight ≤ reading.weight + slack)
    (moves : ∀ reading x after, change reading = some (x, after) → (after.byNumber = true → after.groups < limit) →
      change' reading = some (x, after)) :
    Good limit longest slack (Stepper.tell change) (Stepper.tell change') where
  takes := by
    intro reading cs x after rest found
    obtain ⟨p, taken, same⟩ := Option.map_eq_some_iff.mp found
    cases same
    obtain ⟨groups, byNumber, weight⟩ := keeps _ _ _ taken
    exact ⟨List.suffix_refl cs, groups, byNumber, by omega⟩
  agree reading cs _ := by
    unfold Stepper.tell
    cases change reading with
    | none => exact .failed
    | some p => exact .kept
  moves := by
    intro reading cs x after rest short found limited
    obtain ⟨p, taken, same⟩ := Option.map_eq_some_iff.mp found
    cases same
    simp [Stepper.tell, moves _ _ _ taken limited]

def Stepper.know (f : Reading → α) : Stepper α := .tell fun reading => some (f reading, reading)

theorem good_know (f : Reading → α) : Good limit longest 0 (Stepper.know f) (Stepper.know f) :=
  good_tell (by rintro reading x after ⟨⟩; exact ⟨Nat.le_refl _, id, by omega⟩) fun _ _ _ found _ => found

-- What to do if the text goes on with one of some characters, and what if not.
def Stepper.when (p : Char → Bool) (yes : Char → Stepper α) (no : Stepper α) : Stepper α := fun reading cs =>
  match cs with
  | [] => no reading []
  | c :: rest => if p c then yes c reading rest else no reading (c :: rest)

theorem good_when {p : Char → Bool} {yes yes' : Char → Stepper α} {no no' : Stepper α} (other : p ')' = false)
    (one : ∀ c, p c = true → Good limit (longest - 1) (slack + 1) (yes c) (yes' c))
    (two : Good limit longest slack no no') :
    Good limit longest slack (.when p yes no) (.when p yes' no') where
  takes := by
    intro reading cs x after rest found
    cases cs with
    | nil => exact two.takes _ _ _ _ _ found
    | cons d others =>
      simp only [Stepper.when] at found
      split at found
      · obtain ⟨suffix, groups, byNumber, weight⟩ := (one d ‹_›).takes _ _ _ _ _ found
        exact ⟨suffix.trans (List.suffix_cons d others), groups, byNumber, by simp only [List.length_cons]; omega⟩
      · exact two.takes _ _ _ _ _ found
  agree reading cs short := by
    cases cs with
    | nil =>
      have behind : Stepper.when p yes no reading ([] ++ ending) = no reading ([] ++ ending) := if_neg (by simp [other])
      rw [behind]
      exact two.agree reading [] short
    | cons d others =>
      simp only [Stepper.when, List.cons_append]
      split
      · exact (one d ‹_›).agree reading others (Nat.lt_sub_of_add_lt short)
      · exact two.agree reading (d :: others) short
  moves := by
    intro reading cs x after rest short found limited
    cases cs with
    | nil => exact two.moves _ _ _ _ _ short found limited
    | cons d others =>
      simp only [Stepper.when] at found ⊢
      split at found
      · rw [if_pos ‹_›]
        exact (one d ‹_›).moves _ _ _ _ _ (Nat.lt_sub_of_add_lt short) found limited
      · rw [if_neg ‹_›]
        exact two.moves _ _ _ _ _ short found limited

def Stepper.onHead (c : Char) (yes no : Stepper α) : Stepper α := .when (· == c) (fun _ => yes) no

@[simp] theorem onHead_cons (c d : Char) (yes no : Stepper α) (reading : Reading) (rest : List Char) :
    Stepper.onHead c yes no reading (d :: rest) = if d = c then yes reading rest else no reading (d :: rest) := by
  simp [Stepper.onHead, Stepper.when]

theorem onHead_other {c : Char} {cs : List Char} (yes no : Stepper α) (reading : Reading)
    (other : ∀ rest, cs = c :: rest → False) :
    Stepper.onHead c yes no reading cs = no reading cs := by
  cases cs with
  | nil => rfl
  | cons d rest => rw [onHead_cons, if_neg fun same => other rest (by rw [same])]

theorem good_onHead {c : Char} {yes yes' no no' : Stepper α} (other : c ≠ ')')
    (one : Good limit (longest - 1) (slack + 1) yes yes') (two : Good limit longest slack no no') :
    Good limit longest slack (.onHead c yes no) (.onHead c yes' no') :=
  good_when (by simpa using other.symm) (fun _ _ => one) two

-- A reader with a round for every character.
def Stepper.fuelled (read : Nat → Stepper α) : Stepper α := fun reading cs => read (cs.length + 1) reading cs

theorem enough_alike {read : Nat → Stepper α}
    (good : ∀ limit longest fuel fuel', longest ≤ fuel' → Good limit longest slack (read fuel) (read fuel'))
    {reading : Reading} {cs : List Char} {fuel fuel' : Nat} (enough : cs.length < fuel) (enough' : cs.length < fuel') :
    read fuel reading cs = read fuel' reading cs := by
  have onward {fuel fuel' : Nat} (enough : cs.length < fuel') {found} (read_ : read fuel reading cs = some found) :
      read fuel' reading cs = some found :=
    (good (found.1.2.groups + 1) (cs.length + 1) fuel fuel' enough).moves reading cs _ _ _ (Nat.lt_succ_self _) read_
      fun _ => Nat.lt_succ_self _
  cases one : read fuel reading cs with
  | some found => exact (onward enough' one).symm
  | none =>
    cases two : read fuel' reading cs with
    | none => rfl
    | some found => rw [onward enough two] at one; cases one

theorem good_fuelled {read read' : Nat → Stepper α}
    (good : ∀ limit longest fuel fuel', longest ≤ fuel' → Good limit longest slack (read fuel) (read fuel'))
    (other : ∀ longest fuel fuel', longest ≤ fuel' → Good limit longest slack (read fuel) (read' fuel')) :
    Good limit longest slack (.fuelled read) (.fuelled read') where
  takes reading cs := (good limit 0 _ 0 (Nat.le_refl _)).takes reading cs
  agree reading cs short := by
    have agree := (good limit longest ((cs ++ ending).length + 1) longest (Nat.le_refl _)).agree reading cs short
    rwa [enough_alike good (by rw [List.length_append]; omega) (Nat.lt_succ_self cs.length)] at agree
  moves reading cs x after rest short found limited :=
    (other (cs.length + 1) _ _ (Nat.le_refl _)).moves reading cs x after rest (Nat.lt_succ_self _) found limited

-- What to do behind something that may stand there, and what if it does not.
def Stepper.tried (read : Stepper α) (yes : α → Stepper β) (no : Stepper β) : Stepper β := fun reading cs =>
  match read reading cs with
  | some ((x, middle), rest) => yes x middle rest
  | none => no reading cs

-- What does not stand at the end of a text does not come about by the ending.
def Firm (read : Stepper α) : Prop := ∀ reading cs, read reading cs = none → read reading (cs ++ ending) = none

def Sealed (read : Stepper α) : Prop := ∀ reading cs, cs <:+ ['$'] → read reading cs = none

theorem Sealed.bind (leaves : ∀ reading, Leaves (read reading)) (shut : ∀ x, Sealed (next x)) :
    Sealed (read.bind next) := by
  intro reading cs short
  unfold Stepper.bind
  cases taken : read reading cs with
  | none => rfl
  | some found => exact shut _ _ _ ((leaves reading _ _ _ taken).trans short)

-- Where something follows that is not in the ending, the ending is not begun.
theorem Sealed.behind {found : (α × Reading) × List Char} (shut : Sealed read)
    (follows : read reading rest = some found)
    (suffix : rest <:+ cs ++ ending) : ending.length ≤ rest.length := by
  by_contra short
  have finish : ['$'] <:+ cs ++ ending := ⟨cs ++ [')'], by simp [ending]⟩
  rw [shut reading rest (List.suffix_of_suffix_length_le suffix finish
    (Nat.le_of_lt_succ (Nat.lt_of_not_le short)))] at follows
  cases follows

theorem Sealed.when {p : Char → Bool} {yes : Char → Stepper α} {no : Stepper α} (other : p '$' = false)
    (shut : Sealed no) :
    Sealed (.when p yes no) := by
  intro reading cs short
  cases cs with
  | nil => exact shut reading [] short
  | cons c rest =>
    have single : c = '$' := List.mem_singleton.mp (short.subset List.mem_cons_self)
    simp only [Stepper.when, single, other, Bool.false_eq_true, if_false]
    exact shut reading _ (single ▸ short)

theorem sealed_fail : Sealed (Stepper.fail : Stepper α) := fun _ _ _ => rfl

theorem Firm.bind (first : ∀ longest, Good limit longest slack read read) (firm : ∀ x, Firm (next x))
    (shut : ∀ x, Sealed (next x)) : Firm (read.bind next) := by
  intro reading cs missing
  have agree := (first _).agree reading cs (Nat.lt_succ_self _)
  have leaves := (first 0).leaves reading
  unfold Stepper.bind at missing ⊢
  cases taken : read reading (cs ++ ending) with
  | none => rfl
  | some found =>
    obtain ⟨⟨x, middle⟩, after⟩ := found
    cases follows : next x middle after with
    | none => exact follows
    | some last =>
      have enough := (shut x).behind follows (leaves _ _ _ taken)
      obtain ⟨rest, rfl, own⟩ := (agree.back _ after taken enough).resolve_left id
      rw [own] at missing
      cases (firm x middle rest missing).symm.trans follows

theorem Firm.when {p : Char → Bool} {yes : Char → Stepper α} {no : Stepper α} (other : p ')' = false)
    (one : ∀ c, Firm (yes c)) (two : Firm no) : Firm (.when p yes no) := by
  intro reading cs missing
  cases cs with
  | nil =>
    have behind : Stepper.when p yes no reading ([] ++ ending) = no reading ([] ++ ending) := if_neg (by simp [other])
    rw [behind]
    exact two reading [] missing
  | cons c rest =>
    simp only [Stepper.when, List.cons_append] at missing ⊢
    split at missing
    · rw [if_pos ‹_›]; exact one c reading rest missing
    · rw [if_neg ‹_›]; exact two reading (c :: rest) missing

theorem firm_done (x : α) : Firm (.done x) := fun _ _ missing => by cases missing

theorem firm_fail : Firm (Stepper.fail : Stepper α) := fun _ _ _ => rfl

theorem good_tried {yes yes' : α → Stepper β} {no no' : Stepper β} (first : Good limit longest slack read read)
    (firm : Firm read)
    (one : ∀ x, Good limit longest (more - slack) (yes x) (yes' x)) (two : Good limit longest more no no') :
    Good limit longest more (.tried read yes no) (.tried read yes' no') where
  takes := by
    intro reading cs y after rest found
    unfold Stepper.tried at found
    split at found
    · have whole := (first.takes _ _ _ _ _ ‹_›).trans ((one _).takes _ _ _ _ _ found)
      rwa [show slack + (more - slack) = more by omega] at whole
    · exact two.takes _ _ _ _ _ found
  agree reading cs short := by
    unfold Stepper.tried
    cases own : read reading cs with
    | none =>
      rw [firm reading cs own]
      exact two.agree reading cs short
    | some found =>
      obtain ⟨⟨x, middle⟩, rest⟩ := found
      obtain ⟨after, behind, rfl | ⟨rfl, rfl⟩⟩ := (first.agree reading cs short).onward _ _ own
      · rw [behind]
        have suffix := (first.leaves reading _ _ _ own).length_le
        exact (one x).agree middle rest (by simp only [List.length_append] at short ⊢; omega)
      · rw [behind]
        exact ((one x).leaves middle).of_nil
  moves := by
    intro reading cs y after rest short found limited
    unfold Stepper.tried at found ⊢
    split at found
    · have here := first.takes _ _ _ _ _ ‹_›
      exact (one _).moves _ _ _ _ _ (here.suffix.length_le.trans_lt short) found limited
    · exact two.moves _ _ _ _ _ short found limited

-- What to do if nothing was taken, and what if something was.
def Stepper.taking (read : Stepper α) (same other : α → Stepper β) : Stepper β := fun reading cs =>
  (read reading cs).bind fun p => if p.2.length == cs.length then same p.1.1 p.1.2 p.2 else other p.1.1 p.1.2 p.2

theorem good_taking {same same' other other' : α → Stepper β} (first : Good limit longest 0 read read')
    (kept : ending.length < longest → ∀ reading x rest, read reading [] = some (x, rest) →
      read reading ending = some (x, ending))
    (one : ∀ x, Good limit longest slack (same x) (same' x))
    (two : ∀ x, Good limit (longest - 1) slack (other x) (other' x)) :
    Good limit longest slack (read.taking same other) (read'.taking same' other') where
  takes := by
    intro reading cs y after rest found
    obtain ⟨⟨⟨x, middle⟩, left⟩, taken, found⟩ := Option.bind_eq_some_iff.mp found
    have here := first.takes _ _ _ _ _ taken
    split at found
    · simpa using here.trans ((one x).takes _ _ _ _ _ found)
    · simpa using here.trans ((two x).takes _ _ _ _ _ found)
  agree reading cs short := by
    have leaves := first.leaves reading
    have agree := first.agree reading cs short
    have lengths (rest : List Char) : ((rest ++ ending).length == (cs ++ ending).length) =
        (rest.length == cs.length) := by
      simp only [List.length_append, Bool.beq_eq_decide_eq, Nat.add_right_cancel_iff]
    have onward (x : α) (middle : Reading) (rest : List Char) (suffix : rest <:+ cs) : Agree Never
        (if rest.length == cs.length then same x middle rest else other x middle rest)
        (if (rest ++ ending).length == (cs ++ ending).length then same x middle (rest ++ ending) else
          other x middle (rest ++ ending)) := by
      rw [lengths]
      have shorter := suffix.length_le
      simp only [List.length_append] at short
      split
      · exact (one x).agree middle rest (by simp only [List.length_append]; omega)
      · rename_i fewer
        exact (two x).agree middle rest (by simp only [List.length_append, beq_iff_eq] at fewer ⊢; omega)
    refine ⟨?_, ?_⟩
    · intro y rest found
      obtain ⟨⟨⟨x, middle⟩, left⟩, taken, found⟩ := Option.bind_eq_some_iff.mp found
      obtain ⟨after, behind, rfl | ⟨rfl, rfl⟩⟩ := agree.onward _ _ taken
      · obtain ⟨last, further, keeps⟩ := (onward x middle left (leaves _ _ _ taken)).onward _ _ found
        exact ⟨last, Option.bind_eq_some_iff.mpr ⟨_, behind, further⟩, keeps⟩
      · cases cs with
        | nil =>
          cases behind.symm.trans (kept (by simpa using short) reading _ _ taken)
        | cons c others =>
          have never : ((([] : List Char).length) == (c :: others ++ ending).length) = false := rfl
          have spent := List.suffix_nil.mp (((two x).leaves middle) _ _ _ found)
          refine ⟨rest, Option.bind_eq_some_iff.mpr ⟨_, behind, ?_⟩, .inr ⟨spent, spent⟩⟩
          rw [never]
          exact found
    · intro y after found enough
      obtain ⟨⟨⟨x, middle⟩, left⟩, taken, found⟩ := Option.bind_eq_some_iff.mp found
      have shorter : after.length ≤ left.length := by
        split at found
        · exact ((one x).leaves middle _ _ _ found).length_le
        · exact ((two x).leaves middle _ _ _ found).length_le
      obtain ⟨rest, rfl, own⟩ := (agree.back _ left taken (enough.trans shorter)).resolve_left id
      obtain ⟨last, rfl, further⟩ := ((onward x middle rest (leaves _ _ _ own)).back y after found
        enough).resolve_left id
      exact .inr ⟨last, rfl, Option.bind_eq_some_iff.mpr ⟨_, own, further⟩⟩
  moves := by
    intro reading cs y after rest short found limited
    obtain ⟨⟨⟨x, middle⟩, left⟩, taken, found⟩ := Option.bind_eq_some_iff.mp found
    have here := first.takes _ _ _ _ _ taken
    have shorter := here.suffix.length_le
    unfold Stepper.taking
    split at found
    · have there := (one x).takes _ _ _ _ _ found
      rw [first.moves _ _ _ _ _ short taken (there.within limited), Option.bind_some, if_pos ‹_›]
      exact (one x).moves _ _ _ _ _ (shorter.trans_lt short) found limited
    · have there := (two x).takes _ _ _ _ _ found
      rw [first.moves _ _ _ _ _ short taken (there.within limited), Option.bind_some, if_neg ‹_›]
      rename_i fewer
      replace fewer : left.length ≠ cs.length := by simpa using fewer
      exact (two x).moves _ left _ _ _ (by omega) found limited

-- What is read of no text at all, and what of any other.
def Stepper.ended (x : α) (next : Stepper α) : Stepper α := fun reading cs =>
  match cs with
  | [] => some ((x, reading), [])
  | cs => next reading cs

theorem good_ended {next next' : Stepper α} (stops : ending.length < longest →
    ∀ reading, next reading ending = some ((x, reading), ending))
    (good : Good limit longest 0 next next') : Good limit longest 0 (.ended x next) (.ended x next') where
  takes := by
    intro reading cs y after rest found
    cases cs with
    | nil => cases found; exact .stay reading []
    | cons c others => exact good.takes _ _ _ _ _ found
  agree reading cs short := by
    cases cs with
    | nil =>
      have behind : Stepper.ended x next reading ([] ++ ending) = some ((x, reading), ending) :=
        stops (by simpa using short) reading
      rw [behind]
      exact .kept
    | cons c others => exact good.agree reading (c :: others) short
  moves := by
    intro reading cs y after rest short found limited
    cases cs with
    | nil => exact found
    | cons c others => exact good.moves _ _ _ _ _ short found limited

end
end RepositoryAccess.Lookaround
