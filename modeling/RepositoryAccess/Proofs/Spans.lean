import Mathlib.Data.Finset.Card
import Mathlib.Data.Finset.Range
import RepositoryAccess.Pattern.Match

namespace RepositoryAccess.Pattern

def Rounds (round : Nat → Nat → Prop) : Nat → Nat → Nat → Prop
  | 0, first, last => first = last
  | count + 1, first, last => ∃ middle, round first middle ∧ Rounds round count middle last

def Regex.Spans (text : Array Char) : Regex → Nat → Nat → Prop
  | .empty, first, last => first = last
  | .one set, first, last => ∃ c, text[first]? = some c ∧ set.contains c = true ∧ last = first + 1
  | .look kind, first, last => kind.holds text first = true ∧ first = last
  | .seq head tail, first, last => ∃ middle, head.Spans text first middle ∧ tail.Spans text middle last
  | .alt left right, first, last => left.Spans text first last ∨ right.Spans text first last
  | .loop body least most _, first, last =>
    ∃ count, least ≤ count ∧ (∀ bound, most = some bound → count ≤ max least bound) ∧
      Rounds (body.Spans text) count first last

variable {round : Nat → Nat → Prop} {first middle last n count more : Nat}

theorem Rounds.append (begun : Rounds round count first middle) (ended : Rounds round more middle last) :
    Rounds round (count + more) first last := by
  induction count generalizing first with
  | zero => cases begun; simpa using ended
  | succ count ih =>
    obtain ⟨next, taken, rest⟩ := begun
    rw [Nat.add_right_comm]
    exact ⟨next, taken, ih rest⟩

theorem Rounds.split (all : Rounds round (count + more) first last) :
    ∃ middle, Rounds round count first middle ∧ Rounds round more middle last := by
  induction count generalizing first with
  | zero => exact ⟨first, rfl, by simpa using all⟩
  | succ count ih =>
    rw [Nat.add_right_comm] at all
    obtain ⟨next, taken, rest⟩ := all
    obtain ⟨middle, begun, ended⟩ := ih rest
    exact ⟨middle, ⟨next, taken, begun⟩, ended⟩

theorem Rounds.stays {places : List Nat} (closed : ∀ first ∈ places, ∀ last, round first last → last ∈ places)
    (member : first ∈ places) (all : Rounds round count first last) : last ∈ places := by
  induction count generalizing first with
  | zero => cases all; exact member
  | succ count ih =>
    obtain ⟨middle, taken, rest⟩ := all
    exact ih (closed first member middle taken) rest

def Within (n : Nat) (round : Nat → Nat → Prop) : Prop :=
  ∀ first last, round first last → last = first ∨ first < last ∧ last ≤ n

theorem Within.rounds (within : Within n round) (all : Rounds round count first last) :
    last = first ∨ first < last ∧ last ≤ n := by
  induction count generalizing first with
  | zero => exact .inl (Eq.symm all)
  | succ count ih =>
    obtain ⟨middle, taken, rest⟩ := all
    have here := within first middle taken
    have later := ih rest
    omega

theorem Regex.spans_within (text : Array Char) (regex : Regex) : Within text.size (regex.Spans text) := by
  induction regex with
  | empty => intro first last spans; exact .inl (Eq.symm spans)
  | one set =>
    rintro first last ⟨c, found, -, rfl⟩
    have inside := (Array.getElem?_eq_some_iff.mp found).1
    omega
  | look kind => rintro first last ⟨-, same⟩; exact .inl same.symm
  | seq head tail headWithin tailWithin =>
    rintro first last ⟨middle, begun, ended⟩
    have here := headWithin first middle begun
    have later := tailWithin middle last ended
    omega
  | alt left right leftWithin rightWithin =>
    rintro first last (spans | spans)
    · exact leftWithin first last spans
    · exact rightWithin first last spans
  | loop body least most greedy within =>
    rintro first last ⟨count, -, -, all⟩
    exact within.rounds all

theorem mem_merge {left right : List Nat} : last ∈ merge left right ↔ last ∈ left ∨ last ∈ right := by
  induction left, right using merge.induct with
  | case1 right => simp [merge]
  | case2 left nonempty => simp [merge]
  | case3 a left b right smaller ih => simp [merge, smaller, ih, or_assoc]
  | case4 a left b right larger smaller ih =>
    simp only [merge, larger, smaller, if_true, if_false, List.mem_cons, ih]
    tauto
  | case5 a left b right larger smaller ih =>
    obtain rfl : a = b := by omega
    simp only [merge, Nat.lt_irrefl, if_false, List.mem_cons, ih]
    tauto

def Follows (step : List Nat → List Nat) (round : Nat → Nat → Prop) : Prop :=
  ∀ places last, last ∈ step places ↔ ∃ first ∈ places, round first last

section Search
variable {step : List Nat → List Nat} {places fresh seen : List Nat}

theorem Follows.steps (follows : Follows step round) (count : Nat) :
    Follows (steps step count) (Rounds round count) := by
  intro places last
  induction count generalizing places with
  | zero => simp [Pattern.steps, Rounds]
  | succ count ih =>
    cases places with
    | nil => simp [Pattern.steps]
    | cons place others =>
      simp only [Pattern.steps, List.isEmpty_cons, Bool.false_eq_true, if_false, ih]
      constructor
      · rintro ⟨middle, reached, rest⟩
        obtain ⟨first, member, taken⟩ := (follows _ middle).mp reached
        exact ⟨first, member, middle, taken, rest⟩
      · rintro ⟨first, member, middle, taken, rest⟩
        exact ⟨middle, (follows _ middle).mpr ⟨first, member, taken⟩, rest⟩

theorem saturate_eq_stepsUpTo (rounds : Nat) : saturate step rounds fresh seen = stepsUpTo step rounds fresh seen := by
  induction rounds generalizing fresh seen with
  | zero => rfl
  | succ rounds ih => simp only [saturate, stepsUpTo, ih]

-- Only from the places found last can there be a way to one that was not seen.
structure Explored (round : Nat → Nat → Prop) (fresh seen : List Nat) : Prop where
  known : ∀ place ∈ fresh, place ∈ seen
  closed : ∀ first ∈ seen, first ∉ fresh → ∀ last, round first last → last ∈ seen

theorem explored_start : Explored round places places := ⟨fun _ member => member, by simp_all⟩

def unseen (step : List Nat → List Nat) (fresh seen : List Nat) : List Nat :=
  (step fresh).filter fun place => !seen.contains place

theorem mem_unseen (follows : Follows step round) :
    last ∈ unseen step fresh seen ↔ (∃ first ∈ fresh, round first last) ∧ last ∉ seen := by
  simp [unseen, follows fresh last]

theorem stepsUpTo_succ (rounds : Nat) : stepsUpTo step (rounds + 1) fresh seen =
    if (unseen step fresh seen).isEmpty then seen
    else stepsUpTo step rounds (unseen step fresh seen) (merge seen (unseen step fresh seen)) := rfl

theorem Explored.next (explored : Explored round fresh seen) (follows : Follows step round) :
    Explored round (unseen step fresh seen) (merge seen (unseen step fresh seen)) := by
  constructor
  · intro place member
    exact mem_merge.mpr (.inr member)
  · intro first member old last taken
    have before : first ∈ seen := (mem_merge.mp member).resolve_right old
    by_cases known : last ∈ seen
    · exact mem_merge.mpr (.inl known)
    · by_cases recent : first ∈ fresh
      · exact mem_merge.mpr (.inr ((mem_unseen follows).mpr ⟨⟨first, recent, taken⟩, known⟩))
      · exact absurd (explored.closed first before recent last taken) known

theorem Explored.leaves (explored : Explored round fresh seen) (follows : Follows step round)
    (member : first ∈ seen) (all : Rounds round count first last) :
    last ∈ seen ∨ ∃ next ∈ unseen step fresh seen, ∃ fewer < count, Rounds round fewer next last := by
  induction count generalizing first with
  | zero => cases all; exact .inl member
  | succ count ih =>
    obtain ⟨middle, taken, rest⟩ := all
    by_cases known : middle ∈ seen
    · rcases ih known rest with seen | ⟨next, found, fewer, less, left⟩
      · exact .inl seen
      · exact .inr ⟨next, found, fewer, by omega, left⟩
    · by_cases recent : first ∈ fresh
      · have found : middle ∈ unseen step fresh seen :=
          (mem_unseen follows).mpr ⟨⟨first, recent, taken⟩, known⟩
        exact .inr ⟨middle, found, count, by omega, rest⟩
      · exact absurd (explored.closed first member recent middle taken) known

theorem Explored.mem_stepsUpTo (explored : Explored round fresh seen) (follows : Follows step round)
    (rounds : Nat) : last ∈ stepsUpTo step rounds fresh seen ↔
      ∃ first ∈ seen, last = first ∨ ∃ count ≤ rounds, first ∈ fresh ∧ Rounds round count first last := by
  induction rounds generalizing fresh seen with
  | zero =>
    simp only [stepsUpTo]
    constructor
    · intro member
      exact ⟨last, member, .inl rfl⟩
    · rintro ⟨first, member, rfl | ⟨count, bounded, -, all⟩⟩
      · exact member
      · obtain rfl : count = 0 := by omega
        cases all; exact member
  | succ rounds ih =>
    rw [stepsUpTo_succ]
    split
    · rename_i none
      rw [List.isEmpty_iff] at none
      constructor
      · intro member
        exact ⟨last, member, .inl rfl⟩
      · rintro ⟨first, member, rfl | ⟨count, -, -, all⟩⟩
        · exact member
        · rcases explored.leaves follows member all with seen | ⟨next, found, -⟩
          · exact seen
          · simp [none] at found
    · rw [ih (explored.next follows)]
      constructor
      · rintro ⟨first, member, rfl | ⟨count, bounded, found, all⟩⟩
        · rcases mem_merge.mp member with old | found
          · exact ⟨last, old, .inl rfl⟩
          · obtain ⟨⟨before, recent, taken⟩, -⟩ := (mem_unseen follows).mp found
            exact ⟨before, explored.known before recent, .inr ⟨1, by omega, recent, last, taken, rfl⟩⟩
        · obtain ⟨⟨before, recent, taken⟩, -⟩ := (mem_unseen follows).mp found
          exact ⟨before, explored.known before recent,
            .inr ⟨count + 1, by omega, recent, first, taken, all⟩⟩
      · rintro ⟨first, member, rfl | ⟨count, bounded, recent, all⟩⟩
        · exact ⟨last, mem_merge.mpr (.inl member), .inl rfl⟩
        · rcases explored.leaves follows member all with known | ⟨next, found, fewer, less, left⟩
          · exact ⟨last, mem_merge.mpr (.inl known), .inl rfl⟩
          · exact ⟨next, mem_merge.mpr (.inr found), .inr ⟨fewer, by omega, found, left⟩⟩

def remaining (n : Nat) (seen : List Nat) : Finset Nat := Finset.range (n + 1) \ seen.toFinset

theorem remaining_shrinks (within : Within n round) (explored : Explored round fresh seen)
    (follows : Follows step round) (found : ¬(unseen step fresh seen).isEmpty) :
    (remaining n (merge seen (unseen step fresh seen))).card < (remaining n seen).card := by
  obtain ⟨place, member⟩ := List.exists_mem_of_ne_nil _ fun none => found (List.isEmpty_iff.mpr none)
  obtain ⟨⟨first, recent, taken⟩, new⟩ := (mem_unseen follows).mp member
  have inside : place ≤ n := by
    rcases within first place taken with same | ⟨-, inside⟩
    · exact absurd (same ▸ explored.known first recent) new
    · exact inside
  apply Finset.card_lt_card
  constructor
  · intro other
    simp only [remaining, Finset.mem_sdiff, List.mem_toFinset, mem_merge]
    tauto
  · intro smaller
    have left : place ∈ remaining n seen := by simp [remaining, new]; omega
    have right := smaller left
    simp [remaining, mem_merge, member] at right

theorem Explored.stepsUpTo_closed (explored : Explored round fresh seen) (follows : Follows step round)
    (within : Within n round) {rounds : Nat} (enough : (remaining n seen).card ≤ rounds) :
    ∀ first ∈ stepsUpTo step rounds fresh seen, ∀ last, round first last →
      last ∈ stepsUpTo step rounds fresh seen := by
  induction rounds generalizing fresh seen with
  | zero =>
    intro first member last taken
    rcases within first last taken with same | ⟨-, inside⟩
    · exact same ▸ member
    · have none : remaining n seen = ∅ := Finset.card_eq_zero.mp (by omega)
      by_contra new
      have left : last ∈ remaining n seen := by simp [remaining]; exact ⟨by omega, new⟩
      simp [none] at left
  | succ rounds ih =>
    rw [stepsUpTo_succ]
    split
    · rename_i none
      rw [List.isEmpty_iff] at none
      intro first member last taken
      have once : Rounds round 1 first last := ⟨last, taken, rfl⟩
      rcases explored.leaves follows member once with seen | ⟨next, found, -⟩
      · exact seen
      · simp [none] at found
    · rename_i found
      have shrinks := remaining_shrinks within explored follows found
      exact ih (explored.next follows) (by omega)

theorem Follows.stepsUpTo (follows : Follows step round) (rounds : Nat) :
    last ∈ stepsUpTo step rounds places places ↔
      ∃ first ∈ places, ∃ count ≤ rounds, Rounds round count first last := by
  rw [explored_start.mem_stepsUpTo follows rounds]
  constructor
  · rintro ⟨first, member, rfl | ⟨count, bounded, -, all⟩⟩
    · exact ⟨last, member, 0, by omega, rfl⟩
    · exact ⟨first, member, count, bounded, all⟩
  · rintro ⟨first, member, count, bounded, all⟩
    exact ⟨first, member, .inr ⟨count, bounded, member, all⟩⟩

theorem Follows.saturate (follows : Follows step round) (within : Within n round) :
    last ∈ saturate step (n + 1) places places ↔
      ∃ first ∈ places, ∃ count, Rounds round count first last := by
  rw [saturate_eq_stepsUpTo]
  constructor
  · intro member
    obtain ⟨first, known, count, -, all⟩ := (follows.stepsUpTo (n + 1)).mp member
    exact ⟨first, known, count, all⟩
  · rintro ⟨first, member, count, all⟩
    have enough : (remaining n places).card ≤ n + 1 :=
      (Finset.card_le_card Finset.sdiff_subset).trans (by simp)
    have start : first ∈ Pattern.stepsUpTo step (n + 1) places places :=
      (follows.stepsUpTo (n + 1)).mpr ⟨first, member, 0, by omega, rfl⟩
    exact all.stays (explored_start.stepsUpTo_closed follows within enough) start

end Search

theorem follows_loop {step : List Nat → List Nat} (follows : Follows step round) (within : Within n round)
    (least : Nat) (most : Option Nat) : Follows
      (fun places =>
        match most with
        | none => saturate step (n + 1) (steps step least places) (steps step least places)
        | some most => stepsUpTo step (most - least) (steps step least places) (steps step least places))
      fun first last => ∃ count, least ≤ count ∧ (∀ bound, most = some bound → count ≤ max least bound) ∧
        Rounds round count first last := by
  intro places last
  cases most with
  | none =>
    simp only [follows.saturate within, follows.steps least places, reduceCtorEq, false_implies,
      implies_true, true_and]
    constructor
    · rintro ⟨middle, ⟨first, member, begun⟩, count, ended⟩
      exact ⟨first, member, least + count, by omega, begun.append ended⟩
    · rintro ⟨first, member, count, enough, all⟩
      obtain ⟨more, rfl⟩ := Nat.exists_eq_add_of_le enough
      obtain ⟨middle, begun, ended⟩ := all.split
      exact ⟨middle, ⟨first, member, begun⟩, more, ended⟩
  | some most =>
    simp only [follows.stepsUpTo, follows.steps least places, Option.some.injEq, forall_eq']
    constructor
    · rintro ⟨middle, ⟨first, member, begun⟩, count, bounded, ended⟩
      exact ⟨first, member, least + count, by omega, by omega, begun.append ended⟩
    · rintro ⟨first, member, count, enough, bounded, all⟩
      obtain ⟨more, rfl⟩ := Nat.exists_eq_add_of_le enough
      obtain ⟨middle, begun, ended⟩ := all.split
      exact ⟨middle, ⟨first, member, begun⟩, more, by omega, ended⟩

namespace Regex

-- Induction on the expression: from a set of places it reaches exactly the ends of its stretches.
theorem follows_reach (text : Array Char) (regex : Regex) :
    Follows (regex.reach text) (regex.Spans text) := by
  induction regex with
  | empty => intro places last; simp [reach, Spans]
  | one set =>
    intro places last
    simp only [reach, List.mem_filterMap, Spans]
    constructor
    · rintro ⟨first, member, taken⟩
      cases found : text[first]? with
      | none => simp [found] at taken
      | some c =>
        simp only [found, Option.ite_none_right_eq_some, Option.some.injEq] at taken
        exact ⟨first, member, c, found, taken.1, taken.2.symm⟩
    · rintro ⟨first, member, c, found, held, rfl⟩
      exact ⟨first, member, by simp [found, held]⟩
  | look kind =>
    intro places last
    simp only [reach, List.mem_filter, Spans]
    constructor
    · rintro ⟨member, held⟩
      exact ⟨last, member, held, rfl⟩
    · rintro ⟨first, member, held, rfl⟩
      exact ⟨member, held⟩
  | seq head tail headFollows tailFollows =>
    intro places last
    simp only [reach, tailFollows (head.reach text places), headFollows places, Spans]
    constructor
    · rintro ⟨middle, ⟨first, member, begun⟩, ended⟩
      exact ⟨first, member, middle, begun, ended⟩
    · rintro ⟨first, member, middle, begun, ended⟩
      exact ⟨middle, ⟨first, member, begun⟩, ended⟩
  | alt left right leftFollows rightFollows =>
    intro places last
    simp only [reach, mem_merge, leftFollows places, rightFollows places, Spans, ← exists_or, and_or_left]
  | loop body least most greedy follows =>
    exact follows_loop follows (body.spans_within text) least most

theorem isMatch_iff (regex : Regex) (text : List Char) : regex.isMatch text = true ↔
    ∃ first ≤ text.length, ∃ last, regex.Spans text.toArray first last := by
  simp only [isMatch, Bool.not_eq_true', List.isEmpty_eq_false_iff_exists_mem,
    regex.follows_reach text.toArray _ _, List.mem_range, Nat.lt_succ_iff]
  exact exists_comm.trans (by simp)

end Regex
end RepositoryAccess.Pattern
