import RepositoryAccess.Proofs.TrailingParts

namespace RepositoryAccess.Pattern
open RepositoryAccess.Text

section Groups

theorem leaves_readName : Leaves readName := by
  intro cs x rest found
  unfold readName at found
  dsimp only at found
  split at found
  · rename_i left same
    have inside := List.dropWhile_suffix (l := cs) (· != '>')
    rw [same] at inside
    split at found
    · cases found; exact (List.suffix_cons _ _).trans inside
    · cases found
  · cases found

theorem agree_readName (cs : List Char) : Agree Never (readName cs) (readName (cs ++ ending)) := by
  unfold readName
  dsimp only
  rw [dropWhile_ending cs (by decide)]
  cases found : cs.dropWhile (· != '>') with
  | nil =>
    cases cs.takeWhile (· != '>') <;> cases (cs ++ ending).takeWhile (· != '>') <;> exact .failed
  | cons d left =>
    rw [takeWhile_ending cs (by simp [found])]
    cases cs.takeWhile (· != '>') with
    | nil => exact .failed
    | cons first others =>
      simp only [List.isEmpty_cons, Bool.false_eq_true, if_false, List.cons_append]
      split
      · exact .kept
      · exact .failed

def flagsRead (seen : List Flag) (negated dangling : Bool) (flags : Flags) (cs : List Char) :
    Option ((Flags × Bool) × List Char) :=
  (readFlags cs seen negated dangling flags).map fun p => ((p.1, p.2.1), p.2.2)

theorem leaves_flagsRead (seen : List Flag) (negated dangling : Bool) (flags : Flags) :
    Leaves (flagsRead seen negated dangling flags) := by
  intro cs
  induction cs generalizing seen negated dangling flags with
  | nil => rintro x rest ⟨⟩
  | cons c others ih =>
    intro x rest found
    unfold flagsRead readFlags at found
    split at found
    · split at found
      · cases found
      · cases found; exact List.suffix_cons _ _
    · split at found
      · split at found
        · cases found
        · exact (ih _ _ _ _ x rest found).trans (List.suffix_cons c others)
      · split at found
        · cases found
        · split at found
          · cases found
          · exact (ih _ _ _ _ x rest found).trans (List.suffix_cons c others)

theorem agree_flagsRead (seen : List Flag) (negated dangling : Bool) (flags : Flags) (cs : List Char) :
    Agree Never (flagsRead seen negated dangling flags cs) (flagsRead seen negated dangling flags (cs ++ ending)) := by
  induction cs generalizing seen negated dangling flags with
  | nil =>
    refine .crossed ?_
    cases dangling with
    | true => rintro x after ⟨⟩
    | false => rintro x after ⟨⟩; simp [ending]
  | cons c others ih =>
    simp only [List.cons_append, flagsRead, readFlags]
    split
    · split
      · exact .failed
      · exact .kept
    · split
      · split
        · exact .failed
        · exact ih _ _ _ _
      · split
        · exact .failed
        · split
          · exact .failed
          · exact ih _ _ _ _

variable (reading : Reading)

theorem named_eq (cs : List Char) : reading.named cs = (readName cs).bind fun p =>
    yields (fun name => if reading.names.contains name then none
      else some { reading.enter reading.flags with names := name :: reading.names }) p.1 p.2 := by
  unfold Reading.named yields
  simp only [Option.bind_eq_bind]
  congr! 2
  split <;> rfl

theorem leaves_named : Leaves reading.named := by
  intro cs x rest found
  rw [named_eq] at found
  exact (leaves_readName.bind (leaves_yields _)) cs x rest found

theorem agree_named (cs : List Char) : Agree Never (reading.named cs) (reading.named (cs ++ ending)) := by
  rw [named_eq, named_eq]
  exact (agree_readName cs).bind (fun name rest _ => agree_yields _ name rest) (leaves_yields _)

def flagged (cs : List Char) : Option (Reading × List Char) :=
  (flagsRead [] false false reading.flags cs).bind fun p =>
    yields (fun q : Flags × Bool =>
      if q.2 then if cs.head? == some ')' then none
        else some { reading.push ⟨.empty, 0, false⟩ with flags := q.1 }
      else some (reading.enter q.1)) p.1 p.2

theorem leaves_flagged : Leaves (flagged reading) :=
  fun cs x rest found => ((leaves_flagsRead [] false false reading.flags).bind (leaves_yields _)) cs x rest found

theorem agree_flagged (cs : List Char) : Agree Never (flagged reading cs) (flagged reading (cs ++ ending)) := by
  cases cs with
  | nil => exact .crossed (by rintro x after ⟨⟩)
  | cons c rest =>
    exact (agree_flagsRead [] false false reading.flags (c :: rest)).bind
      (fun flags rest _ => agree_yields _ flags rest) (leaves_yields _)

def openName? (cs : List Char) : Option (List Char) :=
  match cs with
  | 'P' :: '<' :: rest => some rest
  | '<' :: rest => some rest
  | _ => none

theorem openName_ending (cs : List Char) : openName? (cs ++ ending) = (openName? cs).map (· ++ ending) := by
  cases cs with
  | nil => rfl
  | cons c rest =>
    by_cases angle : c = '<'
    · subst angle; rfl
    · by_cases letter : c = 'P'
      · subst letter
        cases rest with
        | nil => rfl
        | cons d rest =>
          by_cases angle : d = '<'
          · subst angle; rfl
          · simp [openName?, angle]
      · simp [openName?, angle, letter]

theorem openName_suffix {cs rest : List Char} (found : openName? cs = some rest) : rest <:+ cs := by
  unfold openName? at found
  split at found
  · cases found; exact (List.suffix_cons _ _).trans (List.suffix_cons _ _)
  · cases found; exact List.suffix_cons _ _
  · cases found

def groupOn (cs : List Char) : Option (Reading × List Char) :=
  if isLookaround cs then none
  else match cs with
    | '?' :: rest =>
      match openName? rest with
      | some rest => reading.named rest
      | none => flagged reading rest
    | cs => some (reading.enter reading.flags, cs)

theorem flagged_eq (cs : List Char) : flagged reading cs =
    match readFlags cs [] false false reading.flags with
    | none => none
    | some (flags, true, after) =>
      if cs.head? == some ')' then none
      else some ({ reading.push ⟨.empty, 0, false⟩ with flags }, after)
    | some (flags, false, after) => some (reading.enter flags, after) := by
  unfold flagged flagsRead yields
  rcases readFlags cs [] false false reading.flags with _ | ⟨flags, alone, after⟩
  · rfl
  · cases alone with
    | false => rfl
    | true =>
      simp only [Option.map_some, Option.bind_some, if_true]
      split <;> rfl

theorem group_eq (cs : List Char) : reading.group cs = groupOn reading (reading.flags.skip cs) := by
  simp only [Reading.group, groupOn]
  split
  · rfl
  · generalize reading.flags.skip cs = cs
    cases cs with
    | nil => rfl
    | cons c rest =>
      by_cases question : c = '?'
      · subst question
        cases rest with
        | nil => exact (flagged_eq reading []).symm
        | cons d others =>
          by_cases angle : d = '<'
          · subst angle; rfl
          · by_cases letter : d = 'P'
            · subst letter
              cases others with
              | nil => exact (flagged_eq reading ['P']).symm
              | cons e others =>
                by_cases angle : e = '<'
                · subst angle; rfl
                · have same := flagged_eq reading ('P' :: e :: others)
                  simp [openName?, angle] at same ⊢
                  exact same.symm
            · have same := flagged_eq reading (d :: others)
              simp [openName?, angle, letter] at same ⊢
              exact same.symm
      · simp [question]

theorem isLookaround_ending (cs : List Char) : isLookaround (cs ++ ending) = isLookaround cs := by
  rcases cs with _ | ⟨a, _ | ⟨b, _ | ⟨c, rest⟩⟩⟩
  · rfl
  · by_cases question : a = '?'
    · subst question; rfl
    · simp [isLookaround, question]
  · by_cases question : a = '?'
    · subst question
      by_cases angle : b = '<'
      · subst angle; rfl
      · by_cases positive : b = '='
        · subst positive; rfl
        · by_cases negative : b = '!'
          · subst negative; rfl
          · simp [isLookaround, angle, positive, negative]
    · simp [isLookaround, question]
  · unfold isLookaround
    split <;> split <;> simp_all

theorem groupOn_cons (c : Char) (rest : List Char) : groupOn reading (c :: rest) =
    if isLookaround (c :: rest) then none
    else if c = '?' then
      match openName? rest with
      | some rest => reading.named rest
      | none => flagged reading rest
    else some (reading.enter reading.flags, c :: rest) := by
  by_cases question : c = '?'
  · subst question; rfl
  · simp [groupOn, question]

theorem leaves_groupOn : Leaves (groupOn reading) := by
  intro cs x rest found
  cases cs with
  | nil => cases found; exact List.suffix_refl _
  | cons c others =>
    rw [groupOn_cons] at found
    split at found
    · cases found
    · split at found
      · refine List.IsSuffix.trans ?_ (List.suffix_cons c others)
        split at found
        · rename_i named
          exact (leaves_named reading _ x rest found).trans (openName_suffix named)
        · exact leaves_flagged reading others x rest found
      · cases found; exact List.suffix_refl _

theorem agree_groupOn (cs : List Char) : Agree Never (groupOn reading cs) (groupOn reading (cs ++ ending)) := by
  cases cs with
  | nil => exact .kept
  | cons c rest =>
    have same := isLookaround_ending (c :: rest)
    rw [List.cons_append] at same ⊢
    rw [groupOn_cons, groupOn_cons, same, openName_ending]
    split
    · exact .failed
    · split
      · cases openName? rest with
        | some rest => exact agree_named reading rest
        | none => exact agree_flagged reading rest
      · exact .kept

theorem leaves_group : Leaves reading.group := by
  intro cs x rest found
  rw [group_eq] at found
  exact reading.flags.leaves_skip (leaves_groupOn reading) cs x rest found

theorem agree_group (cs : List Char) : Agree Never (reading.group cs) (reading.group (cs ++ ending)) := by
  rw [group_eq, group_eq]
  exact reading.flags.agree_skip _ _ (leaves_groupOn reading) rfl (agree_groupOn reading _)

end Groups

section Counts
variable (flags : Flags)

theorem readDigits_cons (fuel : Nat) (c : Char) (rest : List Char) : readDigits flags (fuel + 1) (c :: rest) =
    if c.isDigit then
      ((c.toNat - '0'.toNat) :: (readDigits flags fuel (flags.skip rest)).1, (readDigits flags fuel (flags.skip rest)).2)
    else ([], c :: rest) := rfl

theorem readDigits_nil (fuel : Nat) : readDigits flags fuel [] = ([], []) := by cases fuel <;> rfl

theorem leaves_readDigits (fuel : Nat) : Leaves fun cs => some (readDigits flags fuel cs) := by
  induction fuel with
  | zero => exact leaves_some []
  | succ fuel ih =>
    intro cs x rest found
    cases cs with
    | nil => cases found; exact List.suffix_refl _
    | cons c others =>
      dsimp only at found
      rw [readDigits_cons] at found
      split at found
      · cases found
        exact (flags.leaves_skip ih others _ _ rfl).trans (List.suffix_cons c others)
      · cases found; exact List.suffix_refl _

theorem agree_readDigits (fuel more : Nat) (cs : List Char) (enough : cs.length < fuel)
    (behind : cs.length + ending.length < more) :
    Agree Never (some (readDigits flags fuel cs)) (some (readDigits flags more (cs ++ ending))) := by
  induction fuel generalizing more cs with
  | zero => exact absurd enough (Nat.not_lt_zero _)
  | succ fuel ih =>
    obtain ⟨more, rfl⟩ : ∃ n, more = n + 1 := ⟨more - 1, by omega⟩
    cases cs with
    | nil => exact .kept
    | cons c rest =>
      have shorter := (flags.skip_suffix rest).length_le
      rw [List.length_cons] at enough behind
      rw [List.cons_append, readDigits_cons, readDigits_cons]
      split
      · have inner := flags.agree_skip (fun cs => some (readDigits flags fuel cs))
          (fun cs => some (readDigits flags more cs)) (leaves_readDigits flags fuel)
          (by simp only [readDigits_nil]) (ih more (flags.skip rest) (by omega) (by omega))
        exact inner.map ((c.toNat - '0'.toNat) :: ·)
      · exact .kept

theorem trimStart_ending (cs : List Char) : trimStart (cs ++ ending) = trimStart cs ++ ending := by
  unfold trimStart
  rw [List.dropWhile_append]
  cases cs.dropWhile isBlank with
  | nil => rfl
  | cons c rest => rfl

theorem trimStart_suffix (cs : List Char) : trimStart cs <:+ cs := List.dropWhile_suffix _

def blanksOff (cs : List Char) : List Char :=
  match cs with
  | c :: _ => if isBlank c then flags.skip (trimStart cs) else cs
  | [] => []

theorem blanksOff_suffix (cs : List Char) : blanksOff flags cs <:+ cs := by
  unfold blanksOff
  split
  · split
    · exact (flags.skip_suffix _).trans (trimStart_suffix _)
    · exact List.suffix_refl _
  · exact List.suffix_refl _

theorem agree_blanksOff {α : Type} (x : α) (cs : List Char) :
    Agree Never (some (x, blanksOff flags cs)) (some (x, blanksOff flags (cs ++ ending))) := by
  cases cs with
  | nil => exact .kept
  | cons c rest =>
    have trimmed := trimStart_ending (c :: rest)
    simp only [List.cons_append, blanksOff] at trimmed ⊢
    split
    · rw [trimmed]; exact flags.agree_skipped x
    · exact .kept

def countOf (digits : List Nat) (rest : List Char) : Option (Nat × List Char) :=
  if digits.isEmpty then none
  else
    let value := digits.foldl (fun value digit => value * 10 + digit) 0
    if value ≤ maxCount then some (value, blanksOff flags rest) else none

theorem leaves_countOf (digits : List Nat) : Leaves (countOf flags digits) := by
  intro cs x rest found
  unfold countOf at found
  dsimp only at found
  split at found
  · cases found
  · split at found
    · cases found; exact blanksOff_suffix flags cs
    · cases found

theorem agree_countOf (digits : List Nat) (rest : List Char) :
    Agree Never (countOf flags digits rest) (countOf flags digits (rest ++ ending)) := by
  unfold countOf
  dsimp only
  split
  · exact .failed
  · split
    · exact agree_blanksOff flags _ rest
    · exact .failed

theorem readCount_eq (cs : List Char) : readCount flags cs =
    (some (readDigits flags (cs.length + 1) (trimStart cs))).bind fun p => countOf flags p.1 p.2 := rfl

theorem leaves_readCount : Leaves (readCount flags) := by
  intro cs x rest found
  rw [readCount_eq] at found
  exact (((leaves_readDigits flags (cs.length + 1)).bind (leaves_countOf flags)) _ x rest found).trans
    (trimStart_suffix cs)

theorem agree_readCount (cs : List Char) : Agree Never (readCount flags cs) (readCount flags (cs ++ ending)) := by
  have shorter := (trimStart_suffix cs).length_le
  rw [readCount_eq, readCount_eq, trimStart_ending]
  exact (agree_readDigits flags _ _ (trimStart cs) (by omega) (by simp; omega)).bind
    (fun digits rest _ => agree_countOf flags digits rest) (leaves_countOf flags)

def afterMost (least most : Nat) : List Char → Option ((Nat × Option Nat) × List Char)
  | [] => none
  | c :: rest => if c = '}' ∧ least ≤ most then some ((least, some most), rest) else none

def afterComma (least : Nat) (cs : List Char) : Option ((Nat × Option Nat) × List Char) :=
  if cs.head? = some '}' then some ((least, none), cs.drop 1)
  else (readCount flags cs).bind fun p => afterMost least p.1 p.2

def afterLeast (least : Nat) : List Char → Option ((Nat × Option Nat) × List Char)
  | [] => none
  | c :: rest =>
    if c = '}' then some ((least, some least), rest)
    else if c = ',' then afterComma flags least (flags.skip rest)
    else none

def boundsRead (cs : List Char) : Option ((Nat × Option Nat) × List Char) :=
  (readBounds flags cs).map fun p => ((p.1, p.2.1), p.2.2)

def upTo (least : Nat) (most : Nat × List Char) : Option (Nat × Option Nat × List Char) :=
  match most.2 with
  | '}' :: rest => if least ≤ most.1 then some (least, some most.1, rest) else none
  | _ => none

theorem upTo_eq (least : Nat) (cs : List Char) :
    ((readCount flags cs).bind (upTo least)).map (fun p => ((p.1, p.2.1), p.2.2)) =
      (readCount flags cs).bind fun p => afterMost least p.1 p.2 := by
  rw [Option.map_bind]
  congr! 2 with ⟨most, rest⟩
  cases rest with
  | nil => rfl
  | cons c rest =>
    by_cases brace : c = '}'
    · subst brace
      simp only [afterMost, true_and, Function.comp_apply, upTo]
      split <;> rfl
    · simp [afterMost, brace, upTo]

theorem boundsRead_eq (cs : List Char) : boundsRead flags cs =
    (readCount flags (flags.skip cs)).bind fun p => afterLeast flags p.1 p.2 := by
  unfold boundsRead readBounds
  simp only [Option.bind_eq_bind, Option.map_bind, Function.comp_def]
  congr! 2 with ⟨least, rest⟩
  cases rest with
  | nil => rfl
  | cons c rest =>
    by_cases brace : c = '}'
    · subst brace; rfl
    · by_cases comma : c = ','
      · subst comma
        simp only [afterLeast, brace, if_false, if_true, afterComma]
        cases flags.skip rest with
        | nil => exact upTo_eq flags least []
        | cons c rest =>
          by_cases brace : c = '}'
          · subst brace; rfl
          · simp only [brace, if_false, List.head?_cons, Option.some.injEq, ← upTo_eq]
            split
            · rename_i same
              cases same
              exact absurd rfl brace
            · rfl
      · simp [afterLeast, brace, comma]

theorem leaves_afterMost (least most : Nat) : Leaves (afterMost least most) := by
  intro cs x rest found
  cases cs with
  | nil => cases found
  | cons c others =>
    simp only [afterMost] at found
    split at found
    · cases found; exact List.suffix_cons _ _
    · cases found

theorem agree_afterMost (least most : Nat) (rest : List Char) :
    Agree Never (afterMost least most rest) (afterMost least most (rest ++ ending)) := by
  cases rest with
  | nil => exact .failed
  | cons c others =>
    simp only [List.cons_append, afterMost]
    split
    · exact .kept
    · exact .failed

theorem leaves_afterComma (least : Nat) : Leaves (afterComma flags least) := by
  intro cs x rest found
  unfold afterComma at found
  split at found
  · cases found; exact List.drop_suffix 1 cs
  · exact ((leaves_readCount flags).bind (leaves_afterMost least)) cs x rest found

theorem agree_afterComma (least : Nat) (cs : List Char) :
    Agree Never (afterComma flags least cs) (afterComma flags least (cs ++ ending)) := by
  have count : Agree Never _ _ := (agree_readCount flags cs).bind
    (fun most rest _ => agree_afterMost least most rest) (leaves_afterMost least)
  unfold afterComma
  cases cs with
  | nil => exact count
  | cons c rest =>
    simp only [List.cons_append, List.head?_cons, List.drop_succ_cons, List.drop_zero]
    split
    · exact .kept
    · exact count

theorem leaves_afterLeast (least : Nat) : Leaves (afterLeast flags least) := by
  intro cs x rest found
  cases cs with
  | nil => cases found
  | cons c others =>
    simp only [afterLeast] at found
    refine List.IsSuffix.trans ?_ (List.suffix_cons c others)
    split at found
    · cases found; exact List.suffix_refl _
    · split at found
      · exact flags.leaves_skip (leaves_afterComma flags least) others x rest found
      · cases found

theorem agree_afterLeast (least : Nat) (cs : List Char) :
    Agree Never (afterLeast flags least cs) (afterLeast flags least (cs ++ ending)) := by
  cases cs with
  | nil => exact .failed
  | cons c rest =>
    simp only [List.cons_append, afterLeast]
    split
    · exact .kept
    · split
      · exact flags.agree_skip _ _ (leaves_afterComma flags least) rfl (agree_afterComma flags least _)
      · exact .failed

theorem leaves_boundsRead : Leaves (boundsRead flags) := by
  intro cs x rest found
  rw [boundsRead_eq] at found
  exact ((flags.leaves_skip (leaves_readCount flags)).bind (leaves_afterLeast flags)) cs x rest found

theorem agree_boundsRead (cs : List Char) : Agree Never (boundsRead flags cs) (boundsRead flags (cs ++ ending)) := by
  rw [boundsRead_eq, boundsRead_eq]
  have count := flags.agree_skip _ _ (leaves_readCount flags) rfl (agree_readCount flags (flags.skip cs))
  exact count.bind (fun least rest _ => agree_afterLeast flags least rest) (leaves_afterLeast flags)

theorem readLaziness_cons (c : Char) (rest : List Char) :
    readLaziness (c :: rest) = if c = '?' then (false, rest) else (true, c :: rest) := by
  by_cases question : c = '?'
  · subst question; rfl
  · simp [readLaziness, question]

theorem leaves_readLaziness : Leaves fun cs => some (readLaziness cs) := by
  intro cs x rest found
  cases cs with
  | nil => cases found; exact List.suffix_refl _
  | cons c others =>
    dsimp only at found
    rw [readLaziness_cons] at found
    split at found
    · cases found; exact List.suffix_cons _ _
    · cases found; exact List.suffix_refl _

theorem agree_readLaziness (cs : List Char) :
    Agree Never (some (readLaziness cs)) (some (readLaziness (cs ++ ending))) := by
  cases cs with
  | nil => exact .kept
  | cons c rest =>
    rw [List.cons_append, readLaziness_cons, readLaziness_cons]
    split
    · exact .kept
    · exact .kept

end Counts

section Steps
variable (reading : Reading)

def repeated (least : Nat) (most : Option Nat) (cs : List Char) : Option (Reading × List Char) :=
  (some (readLaziness cs)).bind fun p => yields (reading.repeatLast least most) p.1 p.2

theorem leaves_repeated (least : Nat) (most : Option Nat) : Leaves (repeated reading least most) :=
  fun cs x rest found => (leaves_readLaziness.bind (leaves_yields (reading.repeatLast least most))) cs x rest found

theorem agree_repeated {useless : Reading → List Char → Prop} (least : Nat) (most : Option Nat) (cs : List Char) :
    Agree useless (repeated reading least most cs) (repeated reading least most (cs ++ ending)) :=
  (agree_readLaziness cs).bind (fun greedy rest _ => agree_yields _ greedy rest) (leaves_yields _)

theorem step_repeats (rest : List Char) :
    reading.step '?' rest = repeated reading 0 (some 1) rest ∧ reading.step '*' rest = repeated reading 0 none rest ∧
      reading.step '+' rest = repeated reading 1 none rest := by
  refine ⟨?_, ?_, ?_⟩ <;>
  · simp only [repeated, yields, Option.bind_some, Option.map_eq_bind]
    rfl

def counted (bounds : Nat × Option Nat) (cs : List Char) : Option (Reading × List Char) :=
  repeated reading bounds.1 bounds.2 (reading.flags.skip cs)

theorem leaves_counted (bounds : Nat × Option Nat) : Leaves (counted reading bounds) :=
  reading.flags.leaves_skip (leaves_repeated reading bounds.1 bounds.2)

theorem agree_counted {useless : Reading → List Char → Prop} (bounds : Nat × Option Nat) (cs : List Char) :
    Agree useless (counted reading bounds cs) (counted reading bounds (cs ++ ending)) :=
  reading.flags.agree_skip _ _ (leaves_repeated reading _ _) rfl (agree_repeated reading _ _ _)

theorem step_bounds (rest : List Char) : reading.step '{' rest =
    (boundsRead reading.flags rest).bind fun p => counted reading p.1 p.2 := by
  simp only [boundsRead, counted, repeated, yields, Option.bind_some, Option.map_eq_bind, Option.bind_assoc]
  rfl

def withAtom (atom : Atom) : Reading := reading.push ⟨atomRegex reading.flags atom, 0, true⟩
def withClass (operand : Operand) : Reading := reading.push ⟨.one operand.set, operand.depth, true⟩

theorem step_escape (rest : List Char) : reading.step '\\' rest =
    (readEscape reading.flags rest).map fun p => (withAtom reading p.1, p.2) := rfl

theorem step_class (rest : List Char) : reading.step '[' rest =
    (readClass reading.flags rest).map fun p => (withClass reading p.1, p.2) := rfl

def alone (c : Char) : Option Reading := (reading.step c []).map (·.1)

theorem step_alone {c : Char} (other : c ∉ ['(', '[', '?', '*', '+', '{', '\\']) (rest : List Char) :
    reading.step c rest = yields (alone reading) c rest := by
  simp only [List.mem_cons, List.not_mem_nil, or_false, not_or] at other
  obtain ⟨paren, bracket, question, star, plus, brace, backslash⟩ := other
  unfold yields alone Reading.step
  dsimp only
  split
  all_goals first
    | contradiction
    | simp [Option.map_map, Function.comp_def]

theorem leaves_step (c : Char) : Leaves (reading.step c) := by
  intro cs x rest found
  by_cases paren : c = '('
  · subst paren; exact leaves_group reading cs x rest found
  by_cases bracket : c = '['
  · subst bracket
    rw [step_class] at found
    exact (leaves_readClass reading.flags).map (withClass reading) cs x rest found
  by_cases question : c = '?'
  · subst question
    rw [(step_repeats reading cs).1] at found
    exact leaves_repeated reading 0 (some 1) cs x rest found
  by_cases star : c = '*'
  · subst star
    rw [(step_repeats reading cs).2.1] at found
    exact leaves_repeated reading 0 none cs x rest found
  by_cases plus : c = '+'
  · subst plus
    rw [(step_repeats reading cs).2.2] at found
    exact leaves_repeated reading 1 none cs x rest found
  by_cases brace : c = '{'
  · subst brace
    rw [step_bounds] at found
    exact ((leaves_boundsRead reading.flags).bind (leaves_counted reading)) cs x rest found
  by_cases backslash : c = '\\'
  · subst backslash
    rw [step_escape] at found
    exact (leaves_readEscape reading.flags).map (withAtom reading) cs x rest found
  · rw [step_alone reading (by simp [*])] at found
    exact leaves_yields _ c cs x rest found

theorem agree_step (c : Char) (rest : List Char) :
    Agree (fun next after => Dangling next.flags after) (reading.step c rest) (reading.step c (rest ++ ending)) := by
  by_cases paren : c = '('
  · subst paren; exact (agree_group reading rest).weaken
  by_cases bracket : c = '['
  · subst bracket
    rw [step_class, step_class]
    exact (agree_readClass reading.flags rest).map (withClass reading)
  by_cases question : c = '?'
  · subst question
    rw [(step_repeats reading _).1, (step_repeats reading _).1]
    exact agree_repeated reading 0 (some 1) rest
  by_cases star : c = '*'
  · subst star
    rw [(step_repeats reading _).2.1, (step_repeats reading _).2.1]
    exact agree_repeated reading 0 none rest
  by_cases plus : c = '+'
  · subst plus
    rw [(step_repeats reading _).2.2, (step_repeats reading _).2.2]
    exact agree_repeated reading 1 none rest
  by_cases brace : c = '{'
  · subst brace
    rw [step_bounds, step_bounds]
    exact (agree_boundsRead reading.flags rest).bind (fun bounds rest _ => agree_counted reading bounds rest)
      (leaves_counted reading)
  by_cases backslash : c = '\\'
  · subst backslash
    rw [step_escape, step_escape]
    exact (agree_readEscape reading.flags rest).map_useless (withAtom reading) fun atom after bad => bad.2
  · rw [step_alone reading (by simp [*]), step_alone reading (by simp [*])]
    exact agree_yields _ c rest

-- A dangling brace opens no count, so that nothing can be read on from it.
theorem dangling_step {blanks : List Char} (skipped : reading.flags.skip blanks = []) :
    reading.step '{' (blanks ++ ending) = none := by
  have none : boundsRead reading.flags (blanks ++ ending) = .none := by
    rw [boundsRead_eq]
    rcases reading.flags.skip_ending blanks with same | ⟨-, lost⟩
    · rw [same, skipped]; rfl
    · rw [lost]; rfl
  rw [step_bounds, none]
  rfl

end Steps
end RepositoryAccess.Pattern
