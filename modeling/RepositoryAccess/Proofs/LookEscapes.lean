import RepositoryAccess.Proofs.LookTrailing

namespace RepositoryAccess.Lookaround
open RepositoryAccess.Text RepositoryAccess.Pattern

section
variable {α β γ : Type} {limit longest : Nat} {slack : Int}

theorem leaves_leadingMinus : Leaves fun cs => some (leadingMinus cs) := by
  intro cs x rest found
  simp only [Option.some.injEq] at found
  unfold leadingMinus at found
  split at found
  · cases found; exact List.suffix_cons _ _
  · cases found; exact List.suffix_refl _

theorem leadingMinus_exact : Exact fun cs => some (leadingMinus cs) := by
  intro cs
  cases cs with
  | nil => rfl
  | cons c rest =>
    by_cases minus : c = '-'
    · subst minus; rfl
    · simp [leadingMinus, minus]

def numberNamed (minus : Bool) (name : List Char) : Stepper Nat :=
  .tell fun reading => (groupNumber reading minus name).map fun number => (number, reading)

def groupNamed (stop : Char) : Stepper Nat :=
  (Stepper.lift fun cs => some (leadingMinus cs)).bind fun minus =>
    (Stepper.lift (name? stop)).bind (numberNamed minus)

theorem told_namedGroup (stop : Char) : told (namedGroup stop) = groupNamed stop := by
  funext reading cs
  simp only [told, namedGroup, outcome_lift, outcome_get, outcome_pure, groupNamed, numberNamed, Stepper.bind,
    Stepper.lift, Stepper.tell, Option.map_some, Option.bind_some, Option.bind_map, Function.comp_def, Option.map_map]
  congr
  funext found
  cases groupNumber reading (leadingMinus cs).1 found.1 <;> rfl

theorem good_groupNamed (stop : Char) : Good limit longest 0 (groupNamed stop) (groupNamed stop) := by
  refine (good_lift leaves_leadingMinus leadingMinus_exact.agree).bind fun minus =>
    (good_lift (leaves_name stop) (agree_name stop)).bind fun name => good_tell ?_ fun _ _ _ found _ => found
  intro reading x after found
  obtain ⟨number, -, same⟩ := Option.map_eq_some_iff.mp found
  cases same
  exact ⟨Nat.le_refl _, id, by omega⟩

theorem referTo_eq (number : Nat) (reading : Reading) : referTo number reading =
    if number ≤ reading.groups then some (number, { reading with referenced := number :: reading.referenced })
    else none := by
  show (if number ≤ reading.groups then _ else _ : Read Nat) reading = _
  split <;> rfl

-- A number that follows its first digit.
def decimalFrom (c : Char) : Reader Nat := fun rest => decimal? (c :: rest)

theorem decimalFrom_exact (c : Char) : Exact (decimalFrom c) := fun rest => decimal_exact (c :: rest)

theorem leaves_decimalFrom {c : Char} (digit : c.isDigit = true) : Leaves (decimalFrom c) := by
  intro rest n left found
  simp only [decimalFrom, decimal?] at found
  split at found
  · cases found
  · cases found
    rw [List.dropWhile_cons_of_pos digit]
    exact List.dropWhile_suffix _

-- A reference by number and what is made of it.
def referred (size : Nat) (use : Nat → Read Expr) (c : Char) : Stepper Expr :=
  (Stepper.lift (decimalFrom c)).bind fun number =>
  .tell fun reading => if number < size / 2 then use number { reading with byNumber := true } else none

-- What is done with the number of a group that was opened.
def Refers (use : Nat → Read Expr) : Prop := ∀ number reading x after, use number reading = some (x, after) →
  number ≤ reading.groups ∧ after.groups = reading.groups ∧ after.byNumber = reading.byNumber

theorem good_referred {use : Nat → Read Expr} (refers : Refers use) {c : Char} (digit : c.isDigit = true)
    (size size' : Nat) :
    Good (size' / 2) longest 2 (referred size use c) (referred size' use c) := by
  refine (good_lift (leaves_decimalFrom digit) (decimalFrom_exact c).agree).bind fun number => good_tell ?_ ?_
  · intro reading x after found
    split at found
    · obtain ⟨-, groups, byNumber⟩ := refers _ _ _ _ found
      refine ⟨groups.ge, fun _ => byNumber, ?_⟩
      simp only [Reading.weight, groups, byNumber]
      split <;> omega
    · cases found
  · intro reading x after found limited
    split at found
    · obtain ⟨opened, groups, byNumber⟩ := refers _ _ _ _ found
      have within := limited byNumber
      rw [groups] at within
      rw [if_pos (opened.trans_lt within), found]
    · cases found

theorem refers_matched : Refers fun number => do return .matched (← referTo number) := by
  intro number reading x after found
  replace found : (referTo number reading).bind (fun p => some (Expr.matched p.1, p.2)) = some (x, after) := found
  rw [referTo_eq] at found
  split at found
  · cases found; exact ⟨‹_›, rfl, rfl⟩
  · cases found

theorem refers_backref : Refers backref := by
  intro number reading x after found
  replace found : (if number == 0 then failure else do return .backref (← referTo number) : Read Expr) reading =
    some (x, after) := found
  split at found
  · cases found
  · replace found : (referTo number reading).bind (fun p => some (Expr.backref p.1, p.2)) = some (x, after) := found
    rw [referTo_eq] at found
    split at found
    · cases found; exact ⟨‹_›, rfl, rfl⟩
    · cases found

theorem leaves_propertyName : Leaves propertyName? := by
  intro cs x rest found
  unfold propertyName? at found
  split at found
  · rename_i inner
    split at found
    · rename_i d others dropped
      cases found
      exact (List.suffix_cons d rest).trans ((dropped ▸ List.dropWhile_suffix _).trans (List.suffix_cons '{' inner))
    · cases found
  · cases found; exact List.suffix_cons _ _
  · cases found

theorem agree_propertyName (cs : List Char) : Agree Never (propertyName? cs) (propertyName? (cs ++ ending)) := by
  cases cs with
  | nil => exact .crossed (by rintro x after ⟨⟩; decide)
  | cons c rest =>
    by_cases brace : c = '{'
    · subst brace
      have behind := dropWhile_ending (p := (· != '}')) rest (by decide)
      cases dropped : rest.dropWhile (· != '}') with
      | nil =>
        rw [dropped] at behind
        simp only [List.cons_append, propertyName?, dropped, behind]
        exact .failed
      | cons d others =>
        rw [dropped] at behind
        have taken := takeWhile_ending (p := (· != '}')) rest (by simp [dropped])
        simp only [List.cons_append, propertyName?, dropped, behind, taken]
        exact .kept
    · have single (rest : List Char) : propertyName? (c :: rest) = some ([c], rest) := by
        unfold propertyName?
        split
        · cases ‹c :: rest = _›; exact absurd rfl brace
        · cases ‹c :: rest = _›; rfl
        · cases ‹c :: rest = _›
      rw [List.cons_append, single, single]
      exact .kept

theorem leaves_bracedCode : Leaves bracedCode? := by
  intro cs x rest found
  unfold bracedCode? at found
  split at found
  · rename_i inner
    split at found
    · rename_i others dropped
      dsimp only at found
      split at found
      · cases found
      · obtain ⟨code, -, same⟩ := Option.map_eq_some_iff.mp found
        cases same
        exact (List.suffix_cons '}' rest).trans ((dropped ▸ List.dropWhile_suffix _).trans (List.suffix_cons '{' inner))
    · cases found
  · cases found

theorem bracedCode_exact : Exact bracedCode? := by
  intro cs
  cases cs with
  | nil => rfl
  | cons c inner =>
    by_cases brace : c = '{'
    · subst brace
      obtain ⟨drop, take⟩ := dropWhile_kept (p := isHex) inner (by decide)
      simp only [List.cons_append, bracedCode?, drop, take]
      cases inner.dropWhile isHex with
      | nil => rfl
      | cons d others =>
        by_cases closing : d = '}'
        · subst closing
          simp only [List.cons_append]
          split
          · rfl
          · simp only [Option.map_map]; rfl
        · simp [closing]
    · simp [bracedCode?, brace]

theorem leaves_numbered (count : Nat) : Leaves (numbered? count) := by
  intro cs x rest found
  simp only [numbered?] at found
  split at found
  · obtain ⟨code, -, same⟩ := Option.map_eq_some_iff.mp found
    cases same
    exact List.drop_suffix _ _
  · exact leaves_bracedCode _ _ _ found

theorem numbered_exact (count : Nat) : Exact (numbered? count) := by
  intro cs
  simp only [numbered?]
  by_cases enough : count ≤ cs.length
  · rw [List.take_append_of_le_length enough, List.drop_append_of_le_length enough]
    split
    · simp only [Option.map_map]; rfl
    · exact bracedCode_exact cs
  · have short : ((cs.take count).length == count) = false := by simp; omega
    have close : ((cs ++ ending).take count).all isHex = false := by
      obtain ⟨left, rfl⟩ : ∃ left, count = cs.length + (left + 1) := ⟨count - cs.length - 1, by omega⟩
      rw [List.take_length_add_append]
      simp [ending, show isHex ')' = false by decide]
    simp only [short, close, Bool.and_false, Bool.false_and, Bool.false_eq_true, if_false]
    exact bracedCode_exact cs

def backrefNamed (stop : Char) : Stepper Escape := (groupNamed stop).bind fun number =>
  .tell fun reading => (backref number reading).map fun p => (.expr p.1, p.2)

theorem good_referring {use : Nat → Read Expr} (refers : Refers use) (number : Nat) (f : Expr → α) :
    Good limit longest 0 (Stepper.tell fun reading => (use number reading).map fun p => (f p.1, p.2))
      (Stepper.tell fun reading => (use number reading).map fun p => (f p.1, p.2)) := by
  refine good_tell (fun reading x after found => ?_) fun _ _ _ found _ => found
  obtain ⟨p, taken, same⟩ := Option.map_eq_some_iff.mp found
  cases same
  obtain ⟨-, groups, byNumber⟩ := refers _ _ _ _ taken
  exact ⟨groups.ge, fun _ => by rwa [byNumber], by simp [Reading.weight, groups, byNumber]⟩

theorem good_backrefNamed (stop : Char) : Good limit longest 0 (backrefNamed stop) (backrefNamed stop) :=
  (good_groupNamed stop).bind fun number => good_referring refers_backref number Escape.expr

def backrefQuoted : Stepper Escape := .onHead '\'' (backrefNamed '\'') (.onHead '<' (backrefNamed '>') .fail)

theorem good_backrefQuoted : Good limit longest 0 backrefQuoted backrefQuoted :=
  good_onHead (by decide) ((good_backrefNamed _).mono (Nat.le_refl _) (by decide))
    (good_onHead (by decide) ((good_backrefNamed _).mono (Nat.le_refl _) (by decide)) good_fail)

theorem told_readNamedBackref : told readNamedBackref = backrefQuoted := by
  have named (stop : Char) (cs : List Char) (reading : Reading) : outcome (do
      let found ← namedGroup stop cs
      return (Escape.expr (← backref found.1), found.2)) reading = backrefNamed stop reading cs := by
    simp only [outcome_bind, outcome_tell, ← told_namedGroup, told, backrefNamed, Stepper.bind,
      Stepper.tell, Option.map_map, Function.comp_def]
  funext reading cs
  unfold told readNamedBackref backrefQuoted
  split
  · exact named _ _ reading
  · exact named _ _ reading
  · rw [onHead_other _ _ _ (by assumption), onHead_other _ _ _ (by assumption)]; rfl

def escapeBehind (inClass : Bool) (size : Nat) (c : Char) : Stepper Escape :=
  if c.isDigit then
    if inClass then .fail else (referred size backref c).bind fun expr => .done (.expr expr)
  else if c == 'x' || c == 'u' || c == 'U' then
    (Stepper.lift (numbered? (if c == 'x' then 2 else if c == 'u' then 4 else 8))).bind fun c => .done (.char c true)
  else if c == 'p' || c == 'P' then
    (Stepper.lift propertyName?).bind fun name => .know fun reading =>
      .expr (.plain ('\\' :: c :: name) reading.flags.anyCase)
  else if c == 'k' && !inClass then backrefQuoted
  else if c == 'b' && !inClass then .onHead '{' .fail (.done (.expr (.place (.wordEdge false))))
  else .tell fun reading => (singleEscape? inClass reading.flags c).map fun escape => (escape, reading)

def escape (inClass : Bool) (size : Nat) : Stepper Escape := .headed .fail (escapeBehind inClass size)

theorem good_escape (inClass : Bool) (size : Nat) {size' : Nat} (limited : inClass = false → limit = size' / 2) :
    Good limit longest 1 (escape inClass size) (escape inClass size') := by
  refine good_headed fun c => ?_
  unfold escapeBehind
  split
  · split
    · exact good_fail
    · rw [limited (Bool.eq_false_iff.mpr ‹_›)]
      exact (good_referred refers_backref ‹_› size size').bind fun expr => good_done _
  · refine Good.mono (?_ : Good _ _ 0 _ _) (Nat.le_refl _) (by decide)
    split
    · exact (good_lift (leaves_numbered _) (numbered_exact _).agree).bind fun c => good_done _
    · split
      · exact (good_lift leaves_propertyName agree_propertyName).bind fun name => good_know _
      · split
        · exact good_backrefQuoted
        · split
          · exact good_onHead (by decide) good_fail (good_done _)
          · refine good_tell (fun reading x after found => ?_) fun _ _ _ found _ => found
            obtain ⟨e, -, same⟩ := Option.map_eq_some_iff.mp found
            cases same
            exact ⟨Nat.le_refl _, id, by omega⟩

theorem numberedGroup_eq (size : Nat) (cs : List Char) (reading : Reading) : numberedGroup size cs reading =
    (decimal? cs).bind fun p => if p.1 < size / 2 then some (p, { reading with byNumber := true }) else none := by
  unfold numberedGroup
  cases decimal? cs with
  | none => rfl
  | some found =>
    show (if found.1 < size / 2 then _ else _ : Read (Nat × List Char)) reading = if _ then _ else _
    split <;> rfl

theorem outcome_referred (size : Nat) (use : Nat → Read Expr) (f : Expr → α) (c : Char) (reading : Reading)
    (rest : List Char) :
    outcome (do
      let (number, rest) ← numberedGroup size (c :: rest)
      return (f (← use number), rest)) reading =
      ((referred size use c).bind fun expr => .done (f expr)) reading rest := by
  have taken : outcome (numberedGroup size (c :: rest)) reading =
      (decimal? (c :: rest)).bind fun p => if p.1 < size / 2 then
        some ((p.1, { reading with byNumber := true }), p.2) else none := by
    rw [outcome, numberedGroup_eq]
    cases decimal? (c :: rest) with
    | none => rfl
    | some found => dsimp only [Option.bind_some]; split <;> rfl
  simp only [outcome_bind, outcome_tell, taken, referred, Stepper.bind, Stepper.lift, decimalFrom, Option.bind_map,
    Option.bind_assoc, Function.comp_def]
  congr
  funext found
  simp only [Stepper.tell]
  split
  · simp only [Option.bind_some, Option.bind_map]
    cases use found.1 _ <;> rfl
  · rfl

theorem told_readEscape (inClass : Bool) (size : Nat) : told (readEscape inClass size) = escape inClass size := by
  funext reading cs
  cases cs with
  | nil => rfl
  | cons c rest =>
    unfold told readEscape escape
    simp only [outcome_get, Stepper.headed, escapeBehind]
    split
    · split
      · rfl
      · exact outcome_referred size backref Escape.expr c reading rest
    · split
      · simp only [outcome_lift, outcome_pure, Stepper.bind, Stepper.lift, Option.bind_map,
          Function.comp_def, Stepper.done]
      · split
        · simp only [outcome_lift, outcome_pure, Stepper.bind, Stepper.lift, Option.bind_map, Function.comp_def,
            Stepper.know, Stepper.tell, Option.map_some]
        · split
          · exact congrFun (congrFun told_readNamedBackref reading) rest
          · split
            · cases rest with
              | nil => rfl
              | cons d others =>
                by_cases brace : d = '{'
                · subst brace; rfl
                · have other : ((d :: others).head? == some '{') = false := by simpa using brace
                  simp only [onHead_cons, other, brace, Bool.false_eq_true, if_false]
                  rfl
            · cases found : singleEscape? inClass reading.flags c with
              | none => simp only [found, Stepper.tell]; rfl
              | some escape => simp only [found, Stepper.tell]; rfl

-- A class up to its closing bracket, from what was read of it.
def classBehind (size : Nat) : Nat → Nat → List Char → Stepper (List Char)
  | 0, _, _ => .fail
  | fuel + 1, nest, read => skipped.bind fun _ => .headed .fail fun c =>
    if c = '\\' then (escape true size).bind fun found =>
      match found with
      | .char c _ => classBehind size fuel nest ((escapedInClass c).reverse ++ read)
      | .expr (.plain text _) => classBehind size fuel nest (text.reverse ++ read)
      | _ => .fail
    else if c = '[' then classBehind size fuel (nest + 1) ('[' :: read)
    else if c = ']' then if nest ≤ 1 then .done (']' :: read) else classBehind size fuel (nest - 1) (']' :: read)
    else classBehind size fuel nest (c :: read)

theorem good_classBehind (size size' fuel : Nat) {fuel' : Nat} (enough : longest ≤ fuel') (nest : Nat)
    (read : List Char) :
    Good limit longest 0 (classBehind size fuel nest read) (classBehind size' fuel' nest read) := by
  induction fuel generalizing fuel' longest nest read with
  | zero => exact good_fail
  | succ fuel ih =>
    have further {fuel' longest : Nat} (enough : longest ≤ fuel' + 1) : Good limit longest 0
        (classBehind size (fuel + 1) nest read) (classBehind size' (fuel' + 1) nest read) := by
      have inner (nest : Nat) (read : List Char) : Good limit (longest - 1) 0
        (classBehind size fuel nest read) (classBehind size' fuel' nest read) := ih (by omega) nest read
      have inside (nest : Nat) (read : List Char) :=
        (inner nest read).mono (Nat.le_refl _) (show (0 : Int) ≤ 1 by decide)
      refine (good_skipped _ _).bind fun _ => good_headed fun c => ?_
      split
      · refine (good_escape true size (by simp)).bind fun found => ?_
        split
        · exact inner _ _
        · exact inner _ _
        · exact good_fail
      · split
        · exact inside _ _
        · split
          · split
            · exact (good_done _).mono (Nat.le_refl _) (by decide)
            · exact inside _ _
          · exact inside _ _
    cases fuel' with
    | zero => exact .shortest (Nat.le_zero.mp enough) (further (Nat.zero_le 1))
    | succ fuel' => exact further enough

theorem told_readClass (size fuel nest : Nat) (read : List Char) :
    told (readClass size fuel nest read) = classBehind size fuel nest read := by
  induction fuel generalizing nest read with
  | zero => rfl
  | succ fuel ih =>
    have onward (nest : Nat) (read cs : List Char) (reading : Reading) :
        outcome (readClass size fuel nest read cs) reading = classBehind size fuel nest read reading cs :=
          congrFun (congrFun (ih nest read) reading) cs
    funext reading cs
    unfold told readClass
    refine skip_then (fun reading cs => ?_) reading cs
    split
    · rfl
    · rw [Stepper.headed, if_pos rfl, ← told_readEscape]
      refine outcome_then (fun escape reading rest => ?_) reading _
      cases escape with
      | char c folds => exact onward nest _ rest reading
      | expr expr =>
        cases expr
        case plain text anyCase => exact onward nest _ rest reading
        all_goals rfl
    · exact onward (nest + 1) _ _ reading
    · simp only [Stepper.headed]
      split
      · rfl
      · exact onward (nest - 1) _ _ reading
    · rename_i c rest backslash opening closing
      rw [Stepper.headed, if_neg backslash, if_neg opening, if_neg closing]
      exact onward nest _ rest reading

def classStart : Stepper (List Char) := (Stepper.onHead '^' (.done ['^', '[']) (.done ['['])).bind fun read =>
  .onHead ']' (.done (']' :: read)) (.done read)

theorem good_classStart : Good limit longest 0 classStart classStart :=
  (good_onHead (by decide) ((good_done _).mono (Nat.le_refl _) (by decide)) (good_done _)).bind fun read =>
    good_onHead (by decide) ((good_done _).mono (Nat.le_refl _) (by decide)) (good_done _)

theorem classStart_eq (reading : Reading) (cs : List Char) :
    classStart reading cs = some (((classOpening cs).1, reading), (classOpening cs).2) := by
  have first (read cs : List Char) : Stepper.onHead ']' (.done (']' :: read)) (.done read) reading cs =
      some (((firstInClass read cs).1, reading), (firstInClass read cs).2) := by
    cases cs with
    | nil => rfl
    | cons c rest =>
      by_cases closing : c = ']'
      · subst closing; rfl
      · simp [firstInClass, onHead_cons, closing, Stepper.done]
  cases cs with
  | nil => rfl
  | cons c rest =>
    by_cases negated : c = '^'
    · subst negated; exact first _ rest
    · have own : classOpening (c :: rest) = firstInClass ['['] (c :: rest) := by simp [classOpening, negated]
      rw [own, ← first]
      simp [classStart, Stepper.bind, onHead_cons, negated, Stepper.done]

def class_ (size : Nat) (flags : Flags) : Stepper Expr := classStart.bind fun read =>
  (Stepper.fuelled fun fuel => classBehind size fuel 1 read).bind fun read => .done (.plain read.reverse flags.anyCase)

theorem good_class (size size' : Nat) (flags : Flags) : Good limit longest 0 (class_ size flags) (class_ size' flags) :=
  good_classStart.bind fun read => (good_fuelled
    (fun _ _ fuel _ enough => good_classBehind size size fuel enough 1 read)
    fun _ fuel _ enough => good_classBehind size size' fuel enough 1 read).bind fun _ => good_done _

theorem leaves_namedOpening (stop : Char) (opening : List Char → Opening) : Leaves (namedOpening stop · opening) :=
  (leaves_name stop).map opening

theorem agree_namedOpening (stop : Char) (opening : List Char → Opening) (cs : List Char) :
    Agree Never (namedOpening stop cs opening) (namedOpening stop (cs ++ ending) opening) :=
  (agree_name stop cs).map opening

theorem leaves_angleOpening : Leaves angleOpening := by
  intro cs x rest found
  unfold angleOpening at found
  split at found
  · cases found; exact List.suffix_cons _ _
  · cases found; exact List.suffix_cons _ _
  · exact leaves_namedOpening _ _ _ _ _ found

theorem agree_angleOpening (cs : List Char) : Agree Never (angleOpening cs) (angleOpening (cs ++ ending)) := by
  cases cs with
  | nil => exact agree_namedOpening _ _ []
  | cons c rest =>
    by_cases ahead : c = '='
    · subst ahead; exact .kept
    by_cases not_ahead : c = '!'
    · subst not_ahead; exact .kept
    have other (rest : List Char) : angleOpening (c :: rest) = namedOpening '>' (c :: rest) .named := by
      simp [angleOpening, ahead, not_ahead]
    rw [List.cons_append, other, other]
    exact agree_namedOpening _ _ (c :: rest)

theorem letterOpening_suffix {cs rest : List Char} {x : Opening} (found : letterOpening cs = some (x, rest)) :
    rest <:+ 'P' :: cs := by
  unfold letterOpening at found
  split at found
  · exact (leaves_namedOpening _ _ _ _ _ found).trans ⟨['P', '<'], rfl⟩
  · exact (leaves_namedOpening _ _ _ _ _ found).trans ⟨['P', '='], rfl⟩
  · cases found; exact List.suffix_refl _

theorem agree_letterOpening (cs : List Char) : Agree Never (letterOpening cs) (letterOpening (cs ++ ending)) := by
  cases cs with
  | nil => exact .kept
  | cons c rest =>
    by_cases angle : c = '<'
    · subst angle; exact agree_namedOpening _ _ rest
    by_cases same : c = '='
    · subst same; exact agree_namedOpening _ _ rest
    have other (rest : List Char) : letterOpening (c :: rest) = some (.flags, 'P' :: c :: rest) := by
      simp [letterOpening, angle, same]
    rw [List.cons_append, other, other]
    exact .kept

theorem leaves_specialOpening : Leaves specialOpening := by
  intro cs x rest found
  unfold specialOpening at found
  split at found
  case h_3 => exact (leaves_angleOpening _ _ _ found).trans (List.suffix_cons _ _)
  case h_4 => exact letterOpening_suffix found
  case h_7 => cases found; exact List.suffix_refl _
  all_goals
    cases found
    exact List.suffix_cons _ _

theorem agree_specialOpening (cs : List Char) : Agree Never (specialOpening cs) (specialOpening (cs ++ ending)) := by
  cases cs with
  | nil => exact .kept
  | cons c rest =>
    by_cases angle : c = '<'
    · subst angle; exact agree_angleOpening rest
    by_cases letter : c = 'P'
    · subst letter; exact agree_letterOpening rest
    by_cases single : c ∈ ['=', '!', '>', '(']
    · simp only [List.mem_cons, List.not_mem_nil, or_false] at single
      rcases single with rfl | rfl | rfl | rfl <;> exact .kept
    · have other (rest : List Char) : specialOpening (c :: rest) = some (.flags, c :: rest) := by
        simp only [List.mem_cons, List.not_mem_nil, or_false, not_or] at single
        simp [specialOpening, angle, letter, single]
      rw [List.cons_append, other, other]
      exact .kept

theorem leaves_opening : Leaves opening? := by
  intro cs x rest found
  unfold opening? at found
  split at found
  · exact (leaves_specialOpening _ _ _ found).trans (List.suffix_cons _ _)
  · cases found; exact List.suffix_refl _

theorem agree_opening (cs : List Char) : Agree Never (opening? cs) (opening? (cs ++ ending)) := by
  cases cs with
  | nil => exact .kept
  | cons c rest =>
    by_cases question : c = '?'
    · subst question; exact agree_specialOpening rest
    · have other (rest : List Char) : opening? (c :: rest) = some (.capture, c :: rest) := by simp [opening?, question]
      rw [List.cons_append, other, other]
      exact .kept

end
end RepositoryAccess.Lookaround
