import RepositoryAccess.Proofs.Trailing

namespace RepositoryAccess.Pattern
open RepositoryAccess.Text

section Brackets
variable (flags : Flags)

theorem openingHyphens_cons (fuel : Nat) (bracket : Bracket) (c : Char) (rest : List Char) :
    openingHyphens flags (fuel + 1) bracket (c :: rest) =
      if c = '-' then openingHyphens flags fuel (bracket.push ⟨.only '-', 0⟩) (flags.skip rest)
      else (bracket, c :: rest) := by
  by_cases hyphen : c = '-'
  · subst hyphen; rfl
  · simp [openingHyphens, hyphen]

theorem openingHyphens_nil (fuel : Nat) (bracket : Bracket) : openingHyphens flags fuel bracket [] = (bracket, []) := by
  cases fuel <;> rfl

theorem leaves_openingHyphens (fuel : Nat) (bracket : Bracket) :
    Leaves fun cs => some (openingHyphens flags fuel bracket cs) := by
  induction fuel generalizing bracket with
  | zero => exact leaves_some bracket
  | succ fuel ih =>
    intro cs x rest found
    cases cs with
    | nil => cases found; exact List.suffix_refl _
    | cons c others =>
      dsimp only at found
      rw [openingHyphens_cons] at found
      split at found
      · exact (flags.leaves_skip (ih _) others x rest found).trans (List.suffix_cons c others)
      · cases found; exact List.suffix_refl _

theorem agree_openingHyphens (fuel more : Nat) (bracket : Bracket) (cs : List Char) (enough : cs.length ≤ fuel)
    (behind : cs.length + ending.length ≤ more) :
    Agree Never (some (openingHyphens flags fuel bracket cs))
      (some (openingHyphens flags more bracket (cs ++ ending))) := by
  induction fuel generalizing more bracket cs with
  | zero =>
    obtain rfl : cs = [] := List.length_eq_zero_iff.mp (by omega)
    cases more <;> exact .kept
  | succ fuel ih =>
    obtain ⟨more, rfl⟩ : ∃ n, more = n + 1 := ⟨more - 1, by simp [ending] at behind; omega⟩
    cases cs with
    | nil => exact .kept
    | cons c rest =>
      have shorter := (flags.skip_suffix rest).length_le
      rw [List.length_cons] at enough behind
      rw [List.cons_append, openingHyphens_cons, openingHyphens_cons]
      split
      · exact flags.agree_skip (fun cs => some (openingHyphens flags fuel _ cs))
          (fun cs => some (openingHyphens flags more _ cs)) (leaves_openingHyphens flags fuel _)
          (by simp only [openingHyphens_nil]) (ih more _ (flags.skip rest) (by omega) (by omega))
      · exact .kept

def caret (cs : List Char) : Bool × List Char :=
  match cs with
  | '^' :: rest => (true, flags.skip rest)
  | cs => (false, cs)

theorem caret_cons (c : Char) (rest : List Char) :
    caret flags (c :: rest) = if c = '^' then (true, flags.skip rest) else (false, c :: rest) := by
  by_cases sign : c = '^'
  · subst sign; rfl
  · simp [caret, sign]

theorem leaves_caret : Leaves fun cs => some (caret flags cs) := by
  intro cs x rest found
  cases cs with
  | nil => cases found; exact List.suffix_refl _
  | cons c others =>
    dsimp only at found
    rw [caret_cons] at found
    split at found
    · cases found; exact (flags.skip_suffix others).trans (List.suffix_cons c others)
    · cases found; exact List.suffix_refl _

theorem agree_caret (cs : List Char) : Agree Never (some (caret flags cs)) (some (caret flags (cs ++ ending))) := by
  cases cs with
  | nil => exact .kept
  | cons c rest =>
    rw [List.cons_append, caret_cons, caret_cons]
    split
    · exact flags.agree_skipped true
    · exact .kept

def firstClosing (bracket : Bracket) (cs : List Char) : Bracket × List Char :=
  match cs with
  | ']' :: rest =>
    if bracket.items.isEmpty then (bracket.push ⟨.only ']', 0⟩, flags.skip rest) else (bracket, ']' :: rest)
  | cs => (bracket, cs)

theorem firstClosing_cons (bracket : Bracket) (c : Char) (rest : List Char) : firstClosing flags bracket (c :: rest) =
    if c = ']' ∧ bracket.items.isEmpty then (bracket.push ⟨.only ']', 0⟩, flags.skip rest)
    else (bracket, c :: rest) := by
  by_cases closing : c = ']'
  · subst closing; simp [firstClosing]
  · simp [firstClosing, closing]

theorem leaves_firstClosing (bracket : Bracket) : Leaves fun cs => some (firstClosing flags bracket cs) := by
  intro cs x rest found
  cases cs with
  | nil => cases found; exact List.suffix_refl _
  | cons c others =>
    dsimp only at found
    rw [firstClosing_cons] at found
    split at found
    · cases found; exact (flags.skip_suffix others).trans (List.suffix_cons c others)
    · cases found; exact List.suffix_refl _

theorem agree_firstClosing (bracket : Bracket) (cs : List Char) :
    Agree Never (some (firstClosing flags bracket cs)) (some (firstClosing flags bracket (cs ++ ending))) := by
  cases cs with
  | nil => exact .kept
  | cons c rest =>
    rw [List.cons_append, firstClosing_cons, firstClosing_cons]
    split
    · exact flags.agree_skipped _
    · exact .kept

def opening (negated : Bool) (cs : List Char) : Option (Bracket × List Char) :=
  (some (openingHyphens flags cs.length { negated := negated } cs)).bind fun q => some (firstClosing flags q.1 q.2)

def opensBehind (sign : Bool × List Char) : Bracket × List Char :=
  match openingHyphens flags sign.2.length { negated := sign.1 } sign.2 with
  | (bracket, ']' :: rest) =>
    if bracket.items.isEmpty then (bracket.push ⟨.only ']', 0⟩, flags.skip rest) else (bracket, ']' :: rest)
  | opened => opened

theorem openBracket_eq (cs : List Char) : some (openBracket flags cs) =
    (some (caret flags (flags.skip cs))).bind fun p => opening flags p.1 p.2 := by
  simp only [opening, Option.bind_some, Option.some.injEq]
  change opensBehind flags (caret flags (flags.skip cs)) = _
  generalize caret flags (flags.skip cs) = sign
  unfold opensBehind
  rcases openingHyphens flags sign.2.length { negated := sign.1 } sign.2 with ⟨bracket, others⟩
  cases others with
  | nil => rfl
  | cons c others =>
    by_cases closing : c = ']'
    · subst closing; rfl
    · simp [firstClosing, closing]

theorem leaves_opening (negated : Bool) : Leaves (opening flags negated) := by
  intro cs x rest found
  exact ((leaves_openingHyphens flags cs.length { negated := negated }).bind (leaves_firstClosing flags)) cs x rest found

theorem agree_opening (negated : Bool) (cs : List Char) :
    Agree Never (opening flags negated cs) (opening flags negated (cs ++ ending)) :=
  (agree_openingHyphens flags _ _ _ cs (by omega) (by simp)).bind
    (fun bracket rest _ => agree_firstClosing flags bracket rest) (leaves_firstClosing flags)

theorem leaves_openBracket : Leaves fun cs => some (openBracket flags cs) := by
  intro cs x rest found
  dsimp only at found
  rw [openBracket_eq] at found
  exact ((flags.leaves_skip (leaves_caret flags)).bind (leaves_opening flags)) cs x rest found

theorem agree_openBracket (cs : List Char) :
    Agree Never (some (openBracket flags cs)) (some (openBracket flags (cs ++ ending))) := by
  rw [openBracket_eq, openBracket_eq]
  have first := flags.agree_skip (fun cs => some (caret flags cs)) (fun cs => some (caret flags cs))
    (leaves_caret flags) rfl (agree_caret flags (flags.skip cs))
  exact first.bind (fun negated rest _ => agree_opening flags negated rest) (leaves_opening flags)

theorem dropWhile_ending {p : Char → Bool} (cs : List Char) (all : p ')' = true ∧ p '$' = true) :
    (cs ++ ending).dropWhile p = if (cs.dropWhile p).isEmpty then [] else cs.dropWhile p ++ ending := by
  rw [List.dropWhile_append]
  simp [ending, all]

theorem takeWhile_ending {p : Char → Bool} (cs : List Char) (found : cs.dropWhile p ≠ []) :
    (cs ++ ending).takeWhile p = cs.takeWhile p := by
  rw [List.takeWhile_append, if_neg]
  intro whole
  have both := congrArg List.length (List.takeWhile_append_dropWhile (p := p) (l := cs))
  rw [List.length_append, whole] at both
  exact found (List.length_eq_zero_iff.mp (by omega))

def signed (cs : List Char) : Bool × List Char :=
  match cs with
  | '^' :: rest => (true, rest)
  | rest => (false, rest)

def classNamed (negated : Bool) (cs : List Char) : Option (Bool × CharSet × List Char) :=
  match cs.dropWhile (· != ':') with
  | ':' :: ']' :: after =>
    (namedSet? (String.ofList (cs.takeWhile (· != ':')))).map fun set => (negated, set, after)
  | _ => none

theorem signed_ending (cs : List Char) : signed (cs ++ ending) = ((signed cs).1, (signed cs).2 ++ ending) := by
  cases cs with
  | nil => rfl
  | cons c rest =>
    by_cases sign : c = '^'
    · subst sign; rfl
    · simp [signed, sign]

theorem classNamed_ending (negated : Bool) (cs : List Char) : classNamed negated (cs ++ ending) =
    (classNamed negated cs).map fun p => (p.1, p.2.1, p.2.2 ++ ending) := by
  unfold classNamed
  rw [dropWhile_ending cs (by decide)]
  cases found : cs.dropWhile (· != ':') with
  | nil => rfl
  | cons c others =>
    rw [takeWhile_ending cs (by simp [found])]
    by_cases colon : c = ':'
    · subst colon
      cases others with
      | nil => rfl
      | cons d after =>
        by_cases closing : d = ']'
        · subst closing; simp [Option.map_map, Function.comp_def]
        · simp [closing]
    · simp [colon]

theorem namedClass_ending (cs : List Char) :
    namedClass? (cs ++ ending) = (namedClass? cs).map fun p => (p.1, p.2.1, p.2.2 ++ ending) := by
  have colon (rest : List Char) : namedClass? (':' :: rest) = classNamed (signed rest).1 (signed rest).2 := rfl
  cases cs with
  | nil => rfl
  | cons c rest =>
    by_cases first : c = ':'
    · subst first
      rw [List.cons_append, colon, colon, signed_ending, classNamed_ending]
    · simp [namedClass?, first]

theorem signed_suffix (cs : List Char) : (signed cs).2 <:+ cs := by
  unfold signed
  split
  · exact List.suffix_cons _ _
  · exact List.suffix_refl _

theorem classNamed_suffix {cs after : List Char} {negated sign : Bool} {set : CharSet}
    (found : classNamed sign cs = some (negated, set, after)) : after <:+ cs := by
  unfold classNamed at found
  split at found
  · rename_i others same
    obtain ⟨set, -, same⟩ := Option.map_eq_some_iff.mp found
    cases same
    have inside := List.dropWhile_suffix (l := cs) (· != ':')
    rw [‹cs.dropWhile (· != ':') = _›] at inside
    exact ((List.suffix_cons _ _).trans (List.suffix_cons _ _)).trans inside
  · cases found

theorem namedClass_suffix {cs after : List Char} {negated : Bool} {set : CharSet}
    (found : namedClass? cs = some (negated, set, after)) : after <:+ cs := by
  cases cs with
  | nil => cases found
  | cons c rest =>
    by_cases first : c = ':'
    · subst first
      exact (classNamed_suffix found).trans ((signed_suffix rest).trans (List.suffix_cons _ _))
    · simp [namedClass?, first] at found

theorem readMember_takes {c : Char} {cs rest : List Char} {x : Atom} (found : readMember flags (c :: cs) = some (x, rest)) :
    rest <:+ cs := by
  by_cases backslash : c = '\\'
  · subst backslash; exact leaves_readEscape flags cs x rest found
  · simp only [readMember] at found
    cases found; exact List.suffix_refl _

theorem leaves_readMember : Leaves (readMember flags) := by
  intro cs x rest found
  cases cs with
  | nil => cases found
  | cons c others => exact (readMember_takes flags found).trans (List.suffix_cons c others)

theorem agree_readMember (cs : List Char) :
    Agree (DanglingEdge flags) (readMember flags cs) (readMember flags (cs ++ ending)) := by
  cases cs with
  | nil => exact .crossed (by rintro x after ⟨⟩; decide)
  | cons c rest =>
    by_cases backslash : c = '\\'
    · subst backslash; exact agree_readEscape flags rest
    · simp only [List.cons_append, readMember]
      exact .kept

def allowsRange (next : Option Char) : Bool := next != some ']' && next != some '-'

theorem peekSpaced_ending (comment : Bool) (whole whole' cs : List Char) (plain : allowsRange whole.head? = true) :
    allowsRange (peekSpaced comment whole' (cs ++ ending)) = allowsRange (peekSpaced comment whole cs) := by
  induction cs generalizing comment with
  | nil => cases comment <;> exact plain.symm
  | cons c rest ih =>
    simp only [List.cons_append, peekSpaced]
    repeat' split
    · exact ih comment
    · exact ih true
    · rfl

theorem peek_ending (cs : List Char) : allowsRange (flags.peek (cs ++ ending)) = allowsRange (flags.peek cs) := by
  unfold Flags.peek
  cases flags.spaced with
  | false => cases cs <;> rfl
  | true =>
    cases cs with
    | nil => decide
    | cons c rest =>
      by_cases ordinary : allowsRange (some c) = true
      · exact peekSpaced_ending false (c :: rest) _ (c :: rest) ordinary
      · have special : c = ']' ∨ c = '-' := by
          simp only [allowsRange, Bool.and_eq_true, bne_iff_ne, ne_eq, Option.some.injEq] at ordinary
          tauto
        rcases special with rfl | rfl <;> rfl

theorem startsRange_ending (cs : List Char) : startsRange flags (cs ++ ending) = startsRange flags cs := by
  cases cs with
  | nil => rfl
  | cons c rest =>
    by_cases hyphen : c = '-'
    · subst hyphen; exact peek_ending flags rest
    · simp [startsRange, hyphen]

def rangeSet (first last : Atom) : Option Operand :=
  match first, last with
  | .char first, .char last =>
    (memberChar flags first).bind fun first => (memberChar flags last).bind fun last =>
      if last < first then none else some ⟨.between first last, 0⟩
  | _, _ => none

def aloneSet (atom : Atom) : Option Operand := (memberSet flags atom).map fun set => ⟨set, 0⟩

def readRange (first : Atom) (rest : List Char) : Option (Operand × List Char) :=
  if rest.isEmpty then none
  else if startsRange flags rest then
    (readMember flags (flags.skip (rest.drop 1))).bind fun p => yields (rangeSet flags first) p.1 p.2
  else yields (aloneSet flags) first rest

theorem readItem_eq (cs : List Char) : readItem flags cs =
    (readMember flags cs).bind fun p => readRange flags p.1 (flags.skip p.2) := by
  unfold readItem
  simp only [Option.bind_eq_bind]
  congr! 2 with ⟨first, rest⟩
  unfold readRange
  split
  · rfl
  · split
    · congr! 2 with ⟨last, rest⟩
      cases first <;> cases last <;> try rfl
      simp only [yields, rangeSet, Option.map_bind, Function.comp_def]
      congr! 4
      split <;> rfl
    · simp [yields, aloneSet, Option.map_eq_bind, Option.bind_assoc]

theorem leaves_readRange (first : Atom) : Leaves (readRange flags first) := by
  intro cs x rest found
  unfold readRange at found
  split at found
  · cases found
  · split at found
    · have inner := (flags.leaves_skip (leaves_readMember flags)).bind (leaves_yields (rangeSet flags first))
      exact (inner _ x rest found).trans (List.drop_suffix 1 cs)
    · exact leaves_yields _ first cs x rest found

theorem readItem_takes {c : Char} {cs rest : List Char} {x : Operand} (found : readItem flags (c :: cs) = some (x, rest)) :
    rest <:+ cs := by
  rw [readItem_eq] at found
  obtain ⟨⟨first, middle⟩, taken, found⟩ := Option.bind_eq_some_iff.mp found
  exact (flags.leaves_skip (leaves_readRange flags first) middle x rest found).trans (readMember_takes flags taken)

theorem readRange_place (place : Place) (rest : List Char) : readRange flags (.place place) rest = none := by
  unfold readRange
  split
  · rfl
  · split
    · cases readMember flags (flags.skip (rest.drop 1)) <;> rfl
    · rfl

-- With the ending right behind it, a member is followed by something, though not by what closes a class.
theorem agree_readRange (first : Atom) (rest : List Char) : Agree (fun _ after => after = ending)
    (readRange flags first rest) (readRange flags first (rest ++ ending)) := by
  unfold readRange
  rw [startsRange_ending]
  cases rest with
  | nil =>
    refine ⟨by rintro x rest ⟨⟩, ?_⟩
    intro x after found enough
    obtain ⟨item, -, same⟩ := Option.map_eq_some_iff.mp found
    cases same
    exact .inl rfl
  | cons c others =>
    simp only [List.cons_append, List.isEmpty_cons, Bool.false_eq_true, if_false, List.drop_succ_cons, List.drop_zero]
    split
    · have last := flags.agree_skip _ _ (leaves_readMember flags) rfl (agree_readMember flags (flags.skip others))
      refine last.bind_useless (fun atom rest _ => agree_yields (rangeSet flags first) atom rest)
        (leaves_yields _) (leaves_yields _) (fun _ => rfl) ?_
      rintro atom after ⟨⟨place, rfl⟩, -⟩ y rest found
      cases first <;> cases found
    · exact agree_yields _ first (c :: others)

theorem agree_readItem (cs : List Char) :
    Agree (fun _ after => after = ending) (readItem flags cs) (readItem flags (cs ++ ending)) := by
  rw [readItem_eq, readItem_eq]
  refine (agree_readMember flags cs).bind_useless
    (fun first rest _ => flags.agree_skip _ _ (leaves_readRange flags first) rfl (agree_readRange flags first _))
    (fun first => flags.leaves_skip (leaves_readRange flags first))
    (fun first => flags.leaves_skip (leaves_readRange flags first)) (fun _ => rfl) ?_
  rintro atom after ⟨⟨place, rfl⟩, -⟩ y rest found
  rw [readRange_place] at found
  cases found

def doubled? (c : Char) (rest : List Char) : Option SetOp :=
  if rest.head? != some c then none
  else if c == '&' then some .both
  else if c == '-' then some .without
  else if c == '~' then some .apart
  else none

def bracketsOn (fuel : Nat) (bracket : Bracket) (outer : List Bracket) (cs : List Char) :
    Option (Operand × List Char) :=
  match cs with
  | [] => none
  | c :: rest =>
    if c = '[' then
      match namedClass? rest with
      | some (negated, set, rest) =>
        (flags.negate negated (flags.fold set)).bind fun set =>
          readBrackets flags fuel (bracket.push ⟨set, 0⟩) outer rest
      | none =>
        (some (openBracket flags rest)).bind fun p => readBrackets flags fuel p.1 (bracket :: outer) p.2
    else if c = ']' then
      (bracket.close flags).bind fun closed =>
        match outer with
        | [] => some (closed, rest)
        | around :: outer => readBrackets flags fuel (around.push closed) outer rest
    else
      match doubled? c rest with
      | some op => readBrackets flags fuel (bracket.operator flags op) outer (rest.drop 1)
      | none => (readItem flags (c :: rest)).bind fun p => readBrackets flags fuel (bracket.push p.1) outer p.2

theorem doubled_none {c : Char} {rest : List Char} (both : ∀ others, c = '&' → rest = '&' :: others → False)
    (without : ∀ others, c = '-' → rest = '-' :: others → False)
    (apart : ∀ others, c = '~' → rest = '~' :: others → False) : doubled? c rest = none := by
  cases rest with
  | nil => rfl
  | cons d others =>
    by_cases same : d = c
    · subst same
      have noBoth : d ≠ '&' := by rintro rfl; exact both others rfl rfl
      have noWithout : d ≠ '-' := by rintro rfl; exact without others rfl rfl
      have noApart : d ≠ '~' := by rintro rfl; exact apart others rfl rfl
      simp [doubled?, noBoth, noWithout, noApart]
    · simp [doubled?, same]

theorem readBrackets_succ (fuel : Nat) (bracket : Bracket) (outer : List Bracket) (cs : List Char) :
    readBrackets flags (fuel + 1) bracket outer cs = bracketsOn flags fuel bracket outer (flags.skip cs) := by
  rw [readBrackets]
  cases flags.skip cs with
  | nil => rfl
  | cons c rest =>
    by_cases opening : c = '['
    · subst opening
      simp only [bracketsOn, if_true]
      cases namedClass? rest <;> rfl
    · by_cases closing : c = ']'
      · subst closing
        simp only [bracketsOn, opening, if_false, if_true]
        rfl
      · simp only [bracketsOn, opening, closing, if_false]
        split <;> try (simp_all [doubled?]; done)
        rename_i both without apart
        rw [doubled_none (fun others first same => both others (by rw [first, same]))
          (fun others first same => without others (by rw [first, same]))
          (fun others first same => apart others (by rw [first, same]))]
        rfl

theorem readBrackets_nil (fuel : Nat) (bracket : Bracket) (outer : List Bracket) :
    readBrackets flags fuel bracket outer [] = none := by
  cases fuel with
  | zero => rfl
  | succ fuel => rw [readBrackets_succ, List.suffix_nil.mp (flags.skip_suffix [])]; rfl

theorem bracketsOn_takes {fuel : Nat} (leaves : ∀ bracket outer, Leaves (readBrackets flags fuel bracket outer))
    {bracket : Bracket} {outer : List Bracket} {c : Char} {cs rest : List Char} {x : Operand}
    (found : bracketsOn flags fuel bracket outer (c :: cs) = some (x, rest)) : rest <:+ cs := by
  simp only [bracketsOn] at found
  split at found
  · split at found
    · rename_i named
      obtain ⟨set, -, found⟩ := Option.bind_eq_some_iff.mp found
      exact (leaves _ _ _ x rest found).trans (namedClass_suffix named)
    · exact ((leaves_openBracket flags).bind fun opened => leaves opened _) cs x rest found
  · split at found
    · obtain ⟨closed, -, found⟩ := Option.bind_eq_some_iff.mp found
      split at found
      · cases found; exact List.suffix_refl _
      · exact leaves _ _ _ x rest found
    · split at found
      · exact (leaves _ _ _ x rest found).trans (List.drop_suffix 1 cs)
      · obtain ⟨⟨item, middle⟩, taken, found⟩ := Option.bind_eq_some_iff.mp found
        exact (leaves _ _ middle x rest found).trans (readItem_takes flags taken)

theorem leaves_bracketsOn {fuel : Nat} (leaves : ∀ bracket outer, Leaves (readBrackets flags fuel bracket outer))
    (bracket : Bracket) (outer : List Bracket) : Leaves (bracketsOn flags fuel bracket outer) := by
  intro cs x rest found
  cases cs with
  | nil => cases found
  | cons c others => exact (bracketsOn_takes flags leaves found).trans (List.suffix_cons c others)

theorem leaves_readBrackets (fuel : Nat) (bracket : Bracket) (outer : List Bracket) :
    Leaves (readBrackets flags fuel bracket outer) := by
  induction fuel generalizing bracket outer with
  | zero => exact leaves_none
  | succ fuel ih =>
    intro cs x rest found
    rw [readBrackets_succ] at found
    exact flags.leaves_skip (leaves_bracketsOn flags ih bracket outer) cs x rest found

-- Nothing of the ending closes a class.
theorem bracketsOn_ending {fuel : Nat} {bracket : Bracket} {outer : List Bracket} {x : Operand} {rest : List Char}
    (found : bracketsOn flags fuel bracket outer ending = some (x, rest)) : rest.length < ending.length :=
  Nat.lt_succ_of_le (bracketsOn_takes flags (leaves_readBrackets flags fuel) found).length_le

theorem readBrackets_ending {fuel : Nat} {bracket : Bracket} {outer : List Bracket} {x : Operand} {rest : List Char}
    (found : readBrackets flags fuel bracket outer ending = some (x, rest)) : rest.length < ending.length := by
  cases fuel with
  | zero => cases found
  | succ fuel =>
    rw [readBrackets_succ] at found
    rcases flags.skip_ending [] with same | ⟨-, lost⟩
    · rw [List.suffix_nil.mp (flags.skip_suffix []), List.nil_append] at same
      rw [same] at found
      exact bracketsOn_ending flags found
    · rw [List.nil_append] at lost
      rw [lost] at found
      cases found

theorem doubled_ending (c : Char) (rest : List Char) : doubled? c (rest ++ ending) = doubled? c rest := by
  cases rest with
  | nil =>
    by_cases closing : c = ')'
    · subst closing; rfl
    · simp [doubled?, ending, Ne.symm closing]
  | cons d others => rfl

theorem agree_readBrackets (fuel more : Nat) (bracket : Bracket) (outer : List Bracket) (cs : List Char)
    (enough : cs.length < fuel) (behind : cs.length + ending.length < more) :
    Agree Never (readBrackets flags fuel bracket outer cs) (readBrackets flags more bracket outer (cs ++ ending)) := by
  induction fuel generalizing more bracket outer cs with
  | zero => exact absurd enough (Nat.not_lt_zero _)
  | succ fuel ih =>
    obtain ⟨more, rfl⟩ : ∃ n, more = n + 1 := ⟨more - 1, by omega⟩
    rw [readBrackets_succ, readBrackets_succ]
    have shorter := (flags.skip_suffix cs).length_le
    refine flags.agree_skip _ _ (leaves_bracketsOn flags (leaves_readBrackets flags fuel) bracket outer) rfl ?_
    cases skipped : flags.skip cs with
    | nil => exact .crossed fun x rest found => bracketsOn_ending flags found
    | cons c rest =>
      rw [skipped, List.length_cons] at shorter
      have further (bracket : Bracket) (outer : List Bracket) {left : List Char} (inside : left <:+ rest) :
          Agree Never (readBrackets flags fuel bracket outer left)
            (readBrackets flags more bracket outer (left ++ ending)) := by
        have := inside.length_le
        exact ih more bracket outer left (by omega) (by omega)
      have nil (bracket : Bracket) (outer : List Bracket) :
          readBrackets flags more bracket outer [] = readBrackets flags fuel bracket outer [] := by
        rw [readBrackets_nil, readBrackets_nil]
      simp only [List.cons_append, bracketsOn]
      split
      · rw [namedClass_ending]
        cases named : namedClass? rest with
        | none =>
          exact (agree_openBracket flags rest).bind_useless
            (fun opened left taken => further opened _ (leaves_openBracket flags rest opened left taken))
            (fun opened => leaves_readBrackets flags fuel opened _)
            (fun opened => leaves_readBrackets flags more opened _) (fun opened => nil opened _)
            fun _ _ never => never.elim
        | some class_ =>
          obtain ⟨negated, set, left⟩ := class_
          simp only [Option.map_some]
          cases flags.negate negated (flags.fold set) with
          | none => exact .failed
          | some set => exact further _ outer (namedClass_suffix named)
      · split
        · cases bracket.close flags with
          | none => exact .failed
          | some closed =>
            cases outer with
            | nil => exact .kept
            | cons around outer => exact further _ outer (List.suffix_refl rest)
        · rw [doubled_ending]
          cases twice : doubled? c rest with
          | some op =>
            cases rest with
            | nil => simp [doubled?] at twice
            | cons d others => exact further _ outer (List.suffix_cons d others)
          | none =>
            exact (agree_readItem flags (c :: rest)).bind_useless
              (fun item left taken => further (bracket.push item) outer (readItem_takes flags taken))
              (fun item => leaves_readBrackets flags fuel (bracket.push item) outer)
              (fun item => leaves_readBrackets flags more (bracket.push item) outer)
              (fun item => nil (bracket.push item) outer)
              (by rintro item after rfl y left found; exact readBrackets_ending flags found)

def readOpened (opened : Bracket) (cs : List Char) : Option (Operand × List Char) :=
  readBrackets flags (cs.length + 1) opened [] cs

theorem readClass_eq (cs : List Char) : readClass flags cs =
    (some (openBracket flags cs)).bind fun p => readOpened flags p.1 p.2 := rfl

theorem leaves_readOpened (opened : Bracket) : Leaves (readOpened flags opened) :=
  fun cs x rest found => leaves_readBrackets flags _ opened [] cs x rest found

theorem agree_readOpened (opened : Bracket) (cs : List Char) :
    Agree Never (readOpened flags opened cs) (readOpened flags opened (cs ++ ending)) :=
  agree_readBrackets flags _ _ opened [] cs (by omega) (by simp)

theorem leaves_readClass : Leaves (readClass flags) := by
  intro cs x rest found
  rw [readClass_eq] at found
  exact ((leaves_openBracket flags).bind (leaves_readOpened flags)) cs x rest found

theorem agree_readClass (cs : List Char) : Agree Never (readClass flags cs) (readClass flags (cs ++ ending)) := by
  rw [readClass_eq, readClass_eq]
  exact (agree_openBracket flags cs).bind (fun opened rest _ => agree_readOpened flags opened rest)
    (leaves_readOpened flags)

end Brackets
end RepositoryAccess.Pattern
