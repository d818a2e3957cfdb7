import RepositoryAccess.Proofs.Spans
import RepositoryAccess.Proofs.TrailingSteps

namespace RepositoryAccess.Pattern

inductive ReadTo : Reading → List Char → Reading → List Char → Prop
  | stay (reading : Reading) (cs : List Char) : ReadTo reading cs reading cs
  | part {reading next last : Reading} {cs rest left after : List Char} {c : Char}
      (skipped : reading.flags.skip cs = c :: rest) (stepped : reading.step c rest = some (next, left))
      (onward : ReadTo next left last after) : ReadTo reading cs last after

def Regex.Whole (pattern : List Char) (whole : Piece) : Prop :=
  ∃ last after, ReadTo {} pattern last after ∧ last.flags.skip after = [] ∧ last.around = [] ∧ last.inner = whole

def Regex.WellFormed (pattern : List Char) : Prop := ∃ whole, Whole pattern whole

-- The reader comes to a parenthesis that closes no group.
def Regex.Unopened (pattern : List Char) : Prop :=
  ∃ reading cs rest, ReadTo {} pattern reading cs ∧ reading.flags.skip cs = ')' :: rest ∧ reading.around = []

variable {reading next last other : Reading} {cs rest left after remaining : List Char} {c : Char} {outer : Around}

theorem skip_nil (flags : Flags) : flags.skip [] = [] := List.suffix_nil.mp (flags.skip_suffix [])

theorem skip_brace (flags : Flags) (cs : List Char) : flags.skip ('{' :: cs) = '{' :: cs := by
  unfold Flags.skip
  split
  · simp [skipSpaced, show Text.isBlank '{' = false by decide]
  · rfl

theorem ReadTo.suffix (reads : ReadTo reading cs last after) : after <:+ cs := by
  induction reads with
  | stay reading cs => exact List.suffix_refl cs
  | @part reading next last cs rest left after c skipped stepped onward ih =>
    have inside := reading.flags.skip_suffix cs
    rw [skipped] at inside
    have here := leaves_step reading c rest next left stepped
    exact ih.trans (here.trans ((List.suffix_cons c rest).trans inside))

theorem ReadTo.trans (reads : ReadTo reading cs last after) (further : ReadTo last after other remaining) :
    ReadTo reading cs other remaining := by
  induction reads with
  | stay reading cs => exact further
  | part skipped stepped onward ih => exact .part skipped stepped (ih further)

-- There is one way to read on only, so of two places that are reached one comes before the other.
theorem ReadTo.linear (reads : ReadTo reading cs last after) (further : ReadTo reading cs other remaining) :
    ReadTo last after other remaining ∨ ReadTo other remaining last after := by
  induction reads with
  | stay reading cs => exact .inl further
  | part skipped stepped onward ih =>
    cases further with
    | stay => exact .inr (.part skipped stepped onward)
    | part skipped' stepped' onward' =>
      rw [skipped] at skipped'
      cases skipped'
      rw [stepped] at stepped'
      cases stepped'
      exact ih onward'

theorem ReadTo.at_end (reads : ReadTo reading cs last after) (done : reading.flags.skip cs = []) :
    last = reading ∧ after = cs := by
  cases reads with
  | stay => exact ⟨rfl, rfl⟩
  | part skipped => rw [done] at skipped; cases skipped

theorem ReadTo.at_fault (reads : ReadTo reading cs last after) (skipped : reading.flags.skip cs = c :: rest)
    (fault : reading.step c rest = none) : last = reading ∧ after = cs := by
  cases reads with
  | stay => exact ⟨rfl, rfl⟩
  | part skipped' stepped =>
    rw [skipped] at skipped'
    cases skipped'
    rw [fault] at stepped
    cases stepped

theorem step_unopened (alone : reading.around = []) (rest : List Char) : reading.step ')' rest = none := by
  simp [Reading.step, Reading.leave, alone]

theorem readAll_iff {fuel : Nat} {regex : Regex} (enough : cs.length < fuel) :
    Reading.readAll fuel reading cs = some regex ↔
      ∃ last after, ReadTo reading cs last after ∧ last.flags.skip after = [] ∧ last.finish = some regex := by
  induction fuel generalizing reading cs with
  | zero => exact absurd enough (Nat.not_lt_zero _)
  | succ fuel ih =>
    unfold Reading.readAll
    have shorter := (reading.flags.skip_suffix cs).length_le
    cases skipped : reading.flags.skip cs with
    | nil =>
      constructor
      · intro finished
        exact ⟨reading, cs, .stay reading cs, skipped, finished⟩
      · rintro ⟨last, after, reads, done, finished⟩
        obtain ⟨rfl, rfl⟩ := reads.at_end skipped
        exact finished
    | cons c rest =>
      rw [skipped, List.length_cons] at shorter
      dsimp only
      cases stepped : reading.step c rest with
      | none =>
        constructor
        · intro never; cases never
        · rintro ⟨last, after, reads, done, finished⟩
          obtain ⟨rfl, rfl⟩ := reads.at_fault skipped stepped
          rw [skipped] at done
          cases done
      | some found =>
        obtain ⟨next, left⟩ := found
        have inside := (leaves_step reading c rest next left stepped).length_le
        have further : left.length < fuel := by omega
        refine (ih further).trans ⟨?_, ?_⟩
        · rintro ⟨last, after, reads, done, finished⟩
          exact ⟨last, after, .part skipped stepped reads, done, finished⟩
        · rintro ⟨last, after, reads, done, finished⟩
          cases reads with
          | stay => rw [skipped] at done; cases done
          | part skipped' stepped' onward =>
            rw [skipped] at skipped'
            cases skipped'
            rw [stepped] at stepped'
            cases stepped'
            exact ⟨last, after, onward, done, finished⟩

theorem Regex.whole_unique {pattern : List Char} {whole whole' : Piece} (one : Whole pattern whole)
    (two : Whole pattern whole') : whole = whole' := by
  obtain ⟨last, after, reads, done, -, rfl⟩ := one
  obtain ⟨last', after', reads', done', -, rfl⟩ := two
  rcases reads.linear reads' with further | further
  · rw [(further.at_end done).1]
  · rw [(further.at_end done').1]

theorem Regex.WellFormed.not_unopened {pattern : List Char} (formed : WellFormed pattern) : ¬Unopened pattern := by
  rintro ⟨reading, cs, rest, reads, skipped, alone⟩
  obtain ⟨whole, last, after, reads', done, -, -⟩ := formed
  rcases reads.linear reads' with further | further
  · obtain ⟨rfl, rfl⟩ := further.at_fault skipped (step_unopened alone rest)
    rw [skipped] at done
    cases done
  · obtain ⟨rfl, rfl⟩ := further.at_end done
    rw [skipped] at done
    cases done

theorem Regex.read_iff {pattern : List Char} {regex : Regex} :
    read pattern = some regex ↔ ∃ whole, Whole pattern whole ∧ whole.depth ≤ nestLimit ∧ whole.regex = regex := by
  refine (readAll_iff (Nat.lt_succ_self _)).trans ⟨?_, ?_⟩
  · rintro ⟨last, after, reads, done, finished⟩
    unfold Reading.finish at finished
    split at finished
    · cases finished
    · rename_i closed
      dsimp only at finished
      split at finished
      · cases finished
        exact ⟨last.inner, ⟨last, after, reads, done, by simpa using closed, rfl⟩, ‹_›, rfl⟩
      · cases finished
  · rintro ⟨whole, ⟨last, after, reads, done, closed, rfl⟩, shallow, rfl⟩
    exact ⟨last, after, reads, done, by simp [Reading.finish, closed, shallow]⟩

section Around

def Reading.under (outer : Around) (reading : Reading) : Reading := { reading with around := reading.around ++ [outer] }

@[simp] theorem under_flags : (reading.under outer).flags = reading.flags := rfl

theorem under_repeatLast (least : Nat) (most : Option Nat) (greedy : Bool) :
    (reading.under outer).repeatLast least most greedy = (reading.repeatLast least most greedy).map (·.under outer) := by
  unfold Reading.repeatLast
  cases same : reading.run with
  | nil => simp [Reading.under, same]
  | cons piece run =>
    simp only [Reading.under, same]
    split <;> rfl

-- What is read in the group is what is read without it, in the group.
def Enclosed (outer : Around) (inside own : Option (Reading × List Char)) : Prop :=
  inside = own.map fun p => (p.1.under outer, p.2)

theorem Enclosed.yields {α : Type} {f g : α → Option Reading} (same : ∀ x, g x = (f x).map (·.under outer)) (x : α)
    (rest : List Char) : Enclosed outer (yields g x rest) (yields f x rest) := by
  unfold Enclosed Pattern.yields
  rw [same, Option.map_map, Option.map_map]
  rfl

theorem Enclosed.bind {α : Type} {f g : α → Reader Reading} (first : Option (α × List Char))
    (same : ∀ x rest, Enclosed outer (g x rest) (f x rest)) :
    Enclosed outer (first.bind fun p => g p.1 p.2) (first.bind fun p => f p.1 p.2) := by
  cases first with
  | none => rfl
  | some found => exact same found.1 found.2

theorem enclosed_named (cs : List Char) : Enclosed outer ((reading.under outer).named cs) (reading.named cs) := by
  rw [named_eq, named_eq]
  apply Enclosed.bind
  intro name rest
  apply Enclosed.yields
  intro name
  by_cases taken : name ∈ reading.names
  · simp [Reading.under, taken]
  · simp [Reading.under, taken, Reading.enter]

theorem enclosed_flagged (cs : List Char) : Enclosed outer (flagged (reading.under outer) cs) (flagged reading cs) := by
  apply Enclosed.bind
  intro flags rest
  apply Enclosed.yields
  rintro ⟨flags, alone⟩
  cases alone with
  | false => rfl
  | true =>
    by_cases closing : cs.head? == some ')'
    · simp [closing]
    · simp [closing, Reading.under, Reading.push]

theorem enclosed_group (cs : List Char) : Enclosed outer ((reading.under outer).group cs) (reading.group cs) := by
  rw [group_eq, group_eq, under_flags]
  cases reading.flags.skip cs with
  | nil => rfl
  | cons c rest =>
    rw [groupOn_cons, groupOn_cons]
    split
    · rfl
    · split
      · cases openName? rest with
        | some rest => exact enclosed_named rest
        | none => exact enclosed_flagged rest
      · rfl

theorem enclosed_repeated (least : Nat) (most : Option Nat) (cs : List Char) :
    Enclosed outer (repeated (reading.under outer) least most cs) (repeated reading least most cs) := by
  apply Enclosed.bind
  intro greedy rest
  exact Enclosed.yields (under_repeatLast least most) greedy rest

theorem step_plain (reading : Reading) (other : c ∉ ['(', ')', '|', '[', '?', '*', '+', '{', '\\', '.', '^', '$'])
    (rest : List Char) : reading.step c rest = some (reading.push ⟨charRegex reading.flags c, 0, true⟩, rest) := by
  simp only [List.mem_cons, List.not_mem_nil, or_false, not_or] at other
  unfold Reading.step
  split
  all_goals first
    | rfl
    | simp at other

theorem enclosed_step (inside : c = ')' → reading.around ≠ []) (rest : List Char) :
    Enclosed outer ((reading.under outer).step c rest) (reading.step c rest) := by
  by_cases paren : c = '('
  · subst paren; exact enclosed_group rest
  by_cases bracket : c = '['
  · subst bracket
    rw [step_class, step_class]
    unfold Enclosed
    rw [Option.map_map]
    rfl
  by_cases question : c = '?'
  · subst question
    rw [(step_repeats _ _).1, (step_repeats _ _).1]
    exact enclosed_repeated 0 (some 1) rest
  by_cases star : c = '*'
  · subst star
    rw [(step_repeats _ _).2.1, (step_repeats _ _).2.1]
    exact enclosed_repeated 0 none rest
  by_cases plus : c = '+'
  · subst plus
    rw [(step_repeats _ _).2.2, (step_repeats _ _).2.2]
    exact enclosed_repeated 1 none rest
  by_cases brace : c = '{'
  · subst brace
    rw [step_bounds, step_bounds]
    apply Enclosed.bind
    intro bounds rest
    exact enclosed_repeated _ _ _
  by_cases backslash : c = '\\'
  · subst backslash
    rw [step_escape, step_escape]
    unfold Enclosed
    rw [Option.map_map]
    rfl
  by_cases close : c = ')'
  · subst close
    obtain ⟨inner, around, enclosing⟩ := List.exists_cons_of_ne_nil (inside rfl)
    simp [Enclosed, Reading.step, Reading.leave, enclosing, Reading.under, Reading.inner]
  by_cases bar : c = '|'
  · subst bar; rfl
  by_cases dot : c = '.'
  · subst dot
    simp only [Enclosed, Reading.step, under_flags, Option.map_map]
    rfl
  by_cases start : c = '^'
  · subst start; rfl
  by_cases finish : c = '$'
  · subst finish; rfl
  · rw [step_plain _ (by simp [*]), step_plain _ (by simp [*])]
    rfl

-- A parenthesis that would close the group around is a fault without it, so that whatever is read without it
-- is read within it.
theorem ReadTo.under (reads : ReadTo reading cs last after) (outer : Around) :
    ReadTo (reading.under outer) cs (last.under outer) after := by
  induction reads with
  | stay reading cs => exact .stay _ cs
  | @part reading next last cs rest left after c skipped stepped onward ih =>
    have inside : c = ')' → reading.around ≠ [] := by
      rintro rfl alone
      rw [step_unopened alone] at stepped
      cases stepped
    have same : Enclosed outer _ _ := enclosed_step inside rest
    rw [stepped] at same
    exact .part skipped same ih

theorem ReadTo.of_under (reads : ReadTo (reading.under outer) cs last after) :
    (∃ own, ReadTo reading cs own after ∧ last = own.under outer) ∨
      ∃ own middle rest, ReadTo reading cs own middle ∧ own.flags.skip middle = ')' :: rest ∧ own.around = [] ∧
        ReadTo (own.under outer) middle last after := by
  generalize start : reading.under outer = within at reads
  induction reads generalizing reading with
  | stay within cs => exact .inl ⟨reading, .stay reading cs, start.symm⟩
  | @part within next last cs rest left after c skipped stepped onward ih =>
    subst start
    by_cases inside : c = ')' → reading.around ≠ []
    · have same : Enclosed outer _ _ := enclosed_step inside rest
      rw [stepped] at same
      obtain ⟨⟨own, left⟩, taken, whole⟩ := Option.map_eq_some_iff.mp same.symm
      cases whole
      rcases ih rfl with ⟨final, reads, rfl⟩ | ⟨final, middle, others, reads, stopped⟩
      · exact .inl ⟨final, .part skipped taken reads, rfl⟩
      · exact .inr ⟨final, middle, others, .part skipped taken reads, stopped⟩
    · simp only [Classical.not_imp, not_not] at inside
      obtain ⟨rfl, alone⟩ := inside
      exact .inr ⟨reading, cs, rest, .stay reading cs, skipped, alone, .part skipped stepped onward⟩

end Around

section Behind

-- What is read of a text is read with the ending behind it, which a comment at the end may swallow.
theorem ReadTo.behind (reads : ReadTo reading cs last after) :
    ReadTo reading (cs ++ ending) last (after ++ ending) ∨
      last.flags.skip after = [] ∧ ∃ lost, ReadTo reading (cs ++ ending) last lost ∧ last.flags.skip lost = [] := by
  induction reads with
  | stay reading cs => exact .inl (.stay reading _)
  | @part reading next last cs rest left after c skipped stepped onward ih =>
    have same : reading.flags.skip (cs ++ ending) = c :: (rest ++ ending) := by
      rcases reading.flags.skip_ending cs with same | ⟨none, -⟩
      · rw [same, skipped]; rfl
      · rw [skipped] at none; cases none
    obtain ⟨behind, stepped', rfl | ⟨rfl, rfl⟩⟩ := (agree_step reading c rest).onward next left stepped
    · rcases ih with further | ⟨done, lost, further, spent⟩
      · exact .inl (.part same stepped' further)
      · exact .inr ⟨done, lost, .part same stepped' further, spent⟩
    · obtain ⟨rfl, rfl⟩ := onward.at_end (skip_nil next.flags)
      exact .inr ⟨skip_nil _, [], .part same stepped' (.stay last []), skip_nil _⟩

theorem ReadTo.beyond (reads : ReadTo reading cs last after) (short : cs <:+ ['$'])
    (skipped : last.flags.skip after = ')' :: rest) : False := by
  have inside := (last.flags.skip_suffix after).trans (reads.suffix.trans short)
  rw [skipped] at inside
  have member := inside.subset (List.mem_cons_self ..)
  simp at member

theorem ReadTo.of_behind (reads : ReadTo reading (cs ++ ending) last after)
    (skipped : last.flags.skip after = ')' :: rest) : ∃ left, ReadTo reading cs last left ∧ after = left ++ ending := by
  generalize start : cs ++ ending = text at reads
  induction reads generalizing cs with
  | stay reading text => exact ⟨cs, .stay reading cs, start.symm⟩
  | @part reading next last text others left after c begun stepped onward ih =>
    subst start
    have within := leaves_step reading c others next left stepped
    rcases reading.flags.skip_ending cs with same | ⟨-, lost⟩
    · rw [begun] at same
      cases own : reading.flags.skip cs with
      | nil =>
        rw [own] at same
        cases same
        exact (onward.beyond within skipped).elim
      | cons d own' =>
        rw [own] at same
        cases same
        by_cases short : left.length < ending.length
        · have last : ['$'] <:+ own' ++ ending := (List.suffix_cons ')' ['$']).trans (List.suffix_append own' ending)
          have inside := List.suffix_of_suffix_length_le within last (Nat.le_of_lt_succ short)
          exact (onward.beyond inside skipped).elim
        · rcases (agree_step reading c own').back next left stepped (by omega) with dangling | ⟨left, rfl, taken⟩
          · obtain ⟨blanks, rfl, gone⟩ := dangling
            obtain ⟨rfl, rfl⟩ := onward.at_fault (skip_brace next.flags _) (dangling_step next gone)
            cases (skip_brace last.flags (blanks ++ ending)).symm.trans skipped
          · obtain ⟨final, reads, rfl⟩ := ih skipped rfl
            exact ⟨final, .part own taken reads, rfl⟩
    · rw [begun] at lost
      cases lost

end Behind
end RepositoryAccess.Pattern
