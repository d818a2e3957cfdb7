import RepositoryAccess.Proofs.LookReads
import RepositoryAccess.Proofs.Relocation

namespace RepositoryAccess.Lookaround
open RepositoryAccess.Text RepositoryAccess.Pattern RepositoryAccess.Target

section Lifting
variable {last address : Nat} {before : Slots} {machine : Machine} {text : Array Char}

def Slots.lifted (slots : Slots) : Slots := { slots with marks := slots.marks.map (· + 1) }

def Way.lifted (way : Way) : Way := ⟨way.address + 1, way.place, way.slots.lifted⟩

def liftedWays (before : Slots) (ways : List Way) : List Way := ways.map Way.lifted ++ [⟨1, 0, before⟩]

-- The machine at the program that stands one further, with the way below its own that skips the first character.
def Machine.lifted (before : Slots) (machine : Machine) : Machine :=
  ⟨machine.address + 1, machine.place, machine.slots.lifted, liftedWays before machine.ways, machine.wayCount + 1,
    machine.goneBack⟩

def Among (last address : Nat) : Prop := 4 ≤ address ∧ address ≤ last

-- The machine is in the program of an expression that a search begins with at its fifth instruction.
structure Machine.Inside (last : Nat) (machine : Machine) : Prop where
  address : Among last machine.address
  ways : ∀ way ∈ machine.ways, Among last way.address
  count : machine.wayCount = machine.ways.length

-- Where the machine by itself has no way left, the other one goes back to its lowest one.
def Follows (last : Nat) (before : Slots) : Outcome → Outcome → Prop
  | .running machine, other => machine.Inside last ∧ other = .running (machine.lifted before)
  | .unmatched, other => other = .unmatched ∨ ∃ lost, other = .running lost ∧ Lost lost
  | .matched, _ => False

theorem lifted_get (slots : Slots) (slot : Nat) : slots.lifted.get slot = slots.get slot := rfl

theorem Machine.Inside.store (inside : machine.Inside last) (slot value : Nat) :
    (machine.store slot value).Inside last :=
  ⟨inside.address, inside.ways, inside.count⟩

theorem follows_goTo (inside : machine.Inside last) (among : Among last address) :
    Follows last before (machine.goTo address) ((machine.lifted before).goTo (address + 1)) :=
  ⟨⟨among, inside.ways, inside.count⟩, rfl⟩

theorem follows_moveTo (inside : machine.Inside last) (within : machine.address < last) (place : Nat) :
    Follows last before (machine.moveTo place) ((machine.lifted before).moveTo place) :=
  ⟨⟨⟨Nat.le_succ_of_le inside.address.1, within⟩, inside.ways, inside.count⟩, rfl⟩

theorem follows_next (inside : machine.Inside last) (within : machine.address < last) :
    Follows last before machine.next (machine.lifted before).next := follows_moveTo inside within machine.place

theorem follows_fork {other : Nat} (inside : machine.Inside last) (room : machine.wayCount + 1 < wayLimit)
    (one : Among last address) (two : Among last other) :
    Follows last before (machine.fork address other) ((machine.lifted before).fork (address + 1) (other + 1)) := by
  have few : ¬machine.wayCount ≥ wayLimit ∧ ¬(machine.lifted before).wayCount ≥ wayLimit := by
    simp only [Machine.lifted]
    omega
  rw [Machine.fork, if_neg few.1, Machine.fork, if_neg few.2]
  refine ⟨⟨one, ?_, by simp [inside.count]⟩, rfl⟩
  intro way member
  rcases List.mem_cons.mp member with rfl | member
  · exact two
  · exact inside.ways way member

theorem follows_back (inside : machine.Inside last) :
    Follows last before machine.back (machine.lifted before).back := by
  obtain ⟨address, place, slots, ways, count, gone⟩ := machine
  cases ways with
  | nil =>
    by_cases often : gone ≥ backLimit
    · exact .inl (if_pos often)
    · exact .inr ⟨_, if_neg often, .skip 0 before _ _⟩
  | cons way ways =>
    by_cases often : gone ≥ backLimit
    · have both : Machine.back ⟨address, place, slots, way :: ways, count, gone⟩ = .unmatched ∧
          (Machine.lifted before ⟨address, place, slots, way :: ways, count, gone⟩).back = .unmatched :=
            ⟨if_pos often, if_pos often⟩
      rw [both.1, both.2]
      exact .inl rfl
    · have some : count = ways.length + 1 := inside.count
      have own : Machine.back ⟨address, place, slots, way :: ways, count, gone⟩ =
          .running ⟨way.address, way.place, way.slots, ways, count - 1, gone + 1⟩ := if_neg often
      rw [own]
      refine ⟨⟨inside.ways way List.mem_cons_self,
        fun other member => inside.ways other (List.mem_cons_of_mem _ member), ?_⟩, ?_⟩
      · simp [some]
      · subst some
        exact if_neg often

theorem follows_abandon (inside : machine.Inside last) :
    Follows last before machine.abandon (machine.lifted before).abandon := by
  have kept (ways : List Way) : (liftedWays before ways).dropWhile (fun way => way.address != machine.address + 1 + 1) =
      if (ways.dropWhile fun way => way.address != machine.address + 1) = [] then []
      else liftedWays before (ways.dropWhile fun way => way.address != machine.address + 1) := by
    induction ways with
    | nil => simp [liftedWays]
    | cons way ways ih =>
      by_cases here : way.address = machine.address + 1
      · simp [liftedWays, here, Way.lifted]
      · simpa [liftedWays, here, Way.lifted] using ih
  unfold Machine.abandon
  simp only [Machine.lifted, kept]
  cases found : machine.ways.dropWhile fun way => way.address != machine.address + 1 with
  | nil => exact .inl rfl
  | cons way ways =>
    have inner : Machine.Inside last { machine with slots := way.slots, ways, wayCount := ways.length } := by
      refine ⟨inside.address, fun other member => inside.ways other ?_, rfl⟩
      exact (List.dropWhile_suffix _).subset (found ▸ List.mem_cons_of_mem _ member)
    have back : Follows last before _ _ := follows_back inner
    simpa [Machine.lifted, liftedWays, Way.lifted] using back

theorem follows_either {one two one' two' : Outcome} (condition : Prop) [Decidable condition]
    (yes : Follows last before one one') (no : Follows last before two two') :
    Follows last before (if condition then one else two) (if condition then one' else two') := by
  split
  · exact yes
  · exact no

theorem follows_roundsStep {least next slot : Nat} {most : Option Nat} {greedy : Bool} (inside : machine.Inside last)
    (within : machine.address < last) (room : machine.wayCount + 1 < wayLimit) (behind : Among last next) :
    Follows last before (machine.roundsStep least most next slot greedy)
    ((machine.lifted before).roundsStep least most (next + 1) slot greedy) := by
  have onward : Among last (machine.address + 1) := ⟨Nat.le_succ_of_le inside.address.1, within⟩
  have stored := inside.store slot ((machine.slots.get slot).getD 0 + 1)
  unfold Machine.roundsStep
  refine follows_either _ (follows_goTo inside behind)
    (follows_either _ (follows_goTo stored onward) (follows_either _ ?_ ?_))
  · exact follows_fork stored room onward behind
  · exact follows_fork stored room behind onward

theorem follows_nonemptyStep {least next slot check : Nat} {greedy : Bool} (inside : machine.Inside last)
    (within : machine.address < last) (room : machine.wayCount + 1 < wayLimit) (behind : Among last next) :
    Follows last before (machine.nonemptyStep least next slot check greedy)
      ((machine.lifted before).nonemptyStep least (next + 1) slot check greedy) := by
  have onward : Among last (machine.address + 1) := ⟨Nat.le_succ_of_le inside.address.1, within⟩
  have stored := inside.store slot ((machine.slots.get slot).getD 0 + 1)
  have checked := stored.store check machine.place
  unfold Machine.nonemptyStep
  refine follows_either _ (follows_back inside) (follows_either _ (follows_goTo stored onward) (follows_either _ ?_ ?_))
  · exact follows_fork checked room onward behind
  · exact follows_fork checked room behind onward

theorem follows_cut {count : Nat} (inside : machine.Inside last) (within : machine.address < last) :
    Follows last before (machine.cut count).next ((machine.lifted before).cut (count + 1)).next := by
  have same : (machine.cut count).Inside last := by
    refine ⟨inside.address, fun way member => inside.ways way (List.mem_of_mem_drop member), ?_⟩
    simp only [Machine.cut, List.length_drop, inside.count]
    omega
  have lifted : (machine.lifted before).cut (count + 1) = (machine.cut count).lifted before := by
    have kept : machine.wayCount - count ≤ machine.ways.length := by rw [inside.count]; exact Nat.sub_le _ _
    simp only [Machine.cut, Machine.lifted, Machine.mk.injEq, true_and, and_true, liftedWays, Nat.add_sub_add_right,
      Nat.add_min_add_right]
    rw [List.drop_append_of_le_length (by simpa using kept), List.map_drop]
  rw [lifted]
  exact follows_next same within

theorem follows_obey {instruction : Instruction} (inside : machine.Inside last) (within : machine.address < last)
    (room : machine.wayCount + 1 < wayLimit) (stays : instruction.Stays 4 last) :
    Follows last before (machine.obey text instruction) ((machine.lifted before).obey text (instruction.shift 1)) := by
  have next : Follows last before machine.next _ := follows_next inside within
  have moves (place : Nat) : Follows last before (machine.moveTo place) _ := follows_moveTo inside within place
  have back : Follows last before machine.back _ := follows_back inside
  cases instruction
  case finish => exact stays.elim
  case any => exact follows_either _ (moves _) back
  case anyButNewline =>
    simp only [Machine.obey, Instruction.shift, Machine.lifted]
    split
    · exact follows_either _ back (moves _)
    · exact back
  case place place => exact follows_either _ next back
  case literal cs => exact follows_either _ (moves _) back
  case plain regex =>
    simp only [Machine.obey, Instruction.shift, Machine.lifted]
    split
    · exact moves _
    · exact back
  case split first second => exact follows_fork inside room stays.1 stays.2
  case jump target => exact follows_goTo inside stays
  case save slot => exact follows_next (inside.store _ _) within
  case reset slot => exact follows_next (inside.store _ _) within
  case restore slot => exact moves _
  case rounds => exact follows_roundsStep inside within room stays
  case nonemptyRounds => exact follows_nonemptyStep inside within room stays
  case failLook => exact follows_abandon inside
  case goBack count => exact follows_either _ (moves _) back
  case backref number =>
    simp only [Machine.obey, Instruction.shift, Machine.lifted, lifted_get]
    split
    · exact follows_either _ (moves _) back
    · exact back
  case matched number => exact follows_either _ next back
  case beginAtomic => exact ⟨⟨next.1.address, inside.ways, inside.count⟩, rfl⟩
  case endAtomic =>
    obtain ⟨address, place, ⟨values, marks⟩, ways, count, gone⟩ := machine
    cases marks with
    | nil => exact .inl rfl
    | cons mark marks =>
      have opened : Machine.Inside last ⟨address, place, ⟨values, marks⟩, ways, count, gone⟩ :=
        ⟨inside.address, inside.ways, inside.count⟩
      exact follows_cut opened within
  case searchStart => exact follows_either _ next back

end Lifting

section Covering
variable {code : List Instruction} {text : Array Char} {machine next : Machine} {before : Slots} {fuel : Nat}

-- The machine comes to the end of its program where the text ends, if it goes back from each end that comes before.
inductive Machine.Covers (code : Array Instruction) (text : Array Char) : Machine → Prop
  | ended {machine : Machine} (stops : machine.step code text = .matched) (whole : machine.place = text.size) :
      Covers code text machine
  | onward {machine next : Machine} (runs : machine.step code text = .running next) (covers : Covers code text next) :
      Covers code text machine
  | again {machine next : Machine} (stops : machine.step code text = .matched) (early : machine.place ≠ text.size)
      (back : machine.back = .running next) (covers : Covers code text next) : Covers code text machine

-- The machine ends in so many steps, without coming to a limit.
def Machine.Affords (code : Array Instruction) (text : Array Char) : Nat → Machine → Prop
  | 0, _ => False
  | fuel + 1, machine => machine.wayCount < wayLimit ∧ machine.goneBack < backLimit ∧
    match machine.step code text with
    | .running next => Affords code text fuel next
    | _ => True

instance Machine.decidableAffords (code : Array Instruction) (text : Array Char) :
    ∀ fuel machine, Decidable (Machine.Affords code text fuel machine)
  | 0, _ => isFalse id
  | fuel + 1, machine =>
    have : Decidable (match machine.step code text with | .running next => Affords code text fuel next | _ => True) :=
      match machine.step code text with
      | .running next => decidableAffords code text fuel next
      | .matched | .unmatched => isTrue trivial
    inferInstanceAs (Decidable (_ ∧ _ ∧ _))

theorem covers_running {program : Array Instruction} (runs : machine.step program text = .running next) :
    machine.Covers program text ↔ next.Covers program text := by
  constructor
  · intro covers
    cases covers with
    | ended stops => rw [runs] at stops; cases stops
    | onward runs' covers => rw [runs] at runs'; cases runs'; exact covers
    | again stops => rw [runs] at stops; cases stops
  · exact .onward runs

-- The program of a search for an expression, and that of a search for it between the ends of the text.
def searching (code : List Instruction) : List Instruction :=
  [.split 3 1, .any, .jump 0, .save 0] ++ code ++ [.save 1, .finish]

def searchingWhole (code : List Instruction) : List Instruction :=
  skipping ++ (code.map (·.shift 1) ++ [.plain (.look .textEnd), .save 1, .finish])

theorem searching_code {address : Nat} (among : Among (4 + code.length) address) (within : address < 4 + code.length) :
    ∃ instruction ∈ code, (searching code).toArray[address]? = some instruction ∧
      (searchingWhole code).toArray[address + 1]? = some (instruction.shift 1) := by
  obtain ⟨k, rfl⟩ := Nat.exists_eq_add_of_le' among.1
  have inside : k < code.length := by omega
  refine ⟨code[k], List.getElem_mem inside, ?_, ?_⟩
  · simp [searching, List.getElem?_append_left, inside]
  · simp [searchingWhole, skipping, List.getElem?_append_left, inside]

theorem searching_end : (searching code).toArray[4 + code.length]? = some (.save 1) ∧
    (searching code).toArray[4 + code.length + 1]? = some .finish := by
  constructor
  · simp [searching, Nat.add_comm 4]
  · simp [searching, Nat.add_comm 4]

theorem searchingWhole_end : (searchingWhole code).toArray[4 + code.length + 1]? = some (.plain (.look .textEnd)) ∧
    (searchingWhole code).toArray[4 + code.length + 2]? = some (.save 1) ∧
    (searchingWhole code).toArray[4 + code.length + 3]? = some .finish := by
  refine ⟨?_, ?_, ?_⟩
  · simp [searchingWhole, skipping, Nat.add_comm 4]
  · simp [searchingWhole, skipping, Nat.add_comm 4]
  · simp [searchingWhole, skipping, Nat.add_comm 4]

theorem covers_unmatched {program : Array Instruction} (stops : machine.step program text = .unmatched) :
    ¬machine.Covers program text := by
  intro covers
  cases covers with
  | ended matched => rw [stops] at matched; cases matched
  | onward runs => rw [stops] at runs; cases runs
  | again matched => rw [stops] at matched; cases matched

theorem step_here {program : Array Instruction} {instruction : Instruction}
    (here : program[machine.address]? = some instruction) :
    machine.step program text = machine.obey text instruction := by
  simp only [Machine.step, here]

-- The one machine has run out of ways, and all that is left to the other one is to skip characters.
theorem run_unmatched {stopped : Outcome} (follows : Follows (4 + code.length) before .unmatched stopped)
    (steps : (machine.lifted before).step (searchingWhole code).toArray text = stopped) :
    Machine.run (searchingWhole code).toArray text (fuel + 1) (machine.lifted before) = false := by
  rw [Machine.run, steps]
  rcases follows with rfl | ⟨lost, rfl, gone⟩
  · rfl
  · exact gone.run _ text fuel

theorem covers_early {program : Array Instruction} (stops : machine.step program text = .matched)
    (early : machine.place ≠ text.size) :
    machine.Covers program text ↔ ∃ next, machine.back = .running next ∧ next.Covers program text := by
  constructor
  · intro covers
    cases covers with
    | ended _ whole => exact absurd whole early
    | onward runs => rw [stops] at runs; cases runs
    | again _ _ back covers => exact ⟨_, back, covers⟩
  · rintro ⟨next, back, covers⟩
    exact .again stops early back covers

theorem step_look {program : Array Instruction} (here : program[machine.address]? = some (.plain (.look .textEnd))) :
    machine.step program text = if machine.place = text.size then machine.next else machine.back := by
  rw [step_here here]
  by_cases whole : machine.place = text.size
  · simp [Machine.obey, Regex.preferredEnd, Regex.ends, Place.holds, whole, Machine.moveTo, Machine.next]
  · simp [Machine.obey, Regex.preferredEnd, Regex.ends, Place.holds, whole]

-- Behind the expression the one machine is at its end, and the other one looks whether the text is.
theorem covers_at_end (finish : machine.address = 4 + code.length) : machine.Covers (searching code).toArray text ↔
    machine.place = text.size ∨ ∃ next, machine.back = .running next ∧ next.Covers (searching code).toArray text := by
  obtain ⟨address, place, slots, ways, count, gone⟩ := machine
  subst finish
  have saves : Machine.step (searching code).toArray text ⟨4 + code.length, place, slots, ways, count, gone⟩ =
      .running ⟨4 + code.length + 1, place, slots.set 1 place, ways, count, gone⟩ :=
        (step_here searching_end.1).trans rfl
  have stops : Machine.step (searching code).toArray text
      ⟨4 + code.length + 1, place, slots.set 1 place, ways, count, gone⟩ =
      .matched := (step_here searching_end.2).trans rfl
  have back : Machine.back ⟨4 + code.length + 1, place, slots.set 1 place, ways, count, gone⟩ =
      Machine.back ⟨4 + code.length, place, slots, ways, count, gone⟩ := by cases ways <;> rfl
  rw [covers_running saves]
  by_cases whole : place = text.size
  · exact iff_of_true (.ended stops whole) (.inl whole)
  · rw [covers_early stops whole, back]
    simp [whole]

theorem Machine.Affords.running {program : Array Instruction} (affords : machine.Affords program text fuel)
    (runs : machine.step program text = .running next) : ∃ less, fuel = less + 1 ∧ next.Affords program text less := by
  cases fuel with
  | zero => exact affords.elim
  | succ fuel =>
    obtain ⟨-, -, further⟩ := affords
    rw [runs] at further
    exact ⟨fuel, rfl, further⟩

theorem run_at_end (finish : machine.address = 4 + code.length) (whole : machine.place = text.size)
    (affords : (machine.lifted before).Affords (searchingWhole code).toArray text fuel) :
    Machine.run (searchingWhole code).toArray text fuel (machine.lifted before) = true := by
  obtain ⟨address, place, slots, ways, count, gone⟩ := machine
  subst finish
  have looks : Machine.step (searchingWhole code).toArray text
      (Machine.lifted before ⟨4 + code.length, place, slots, ways, count, gone⟩) =
      .running ⟨4 + code.length + 2, place, slots.lifted, liftedWays before ways, count + 1, gone⟩ :=
    (step_look searchingWhole_end.1).trans (if_pos whole)
  have saves : Machine.step (searchingWhole code).toArray text
      ⟨4 + code.length + 2, place, slots.lifted, liftedWays before ways, count + 1, gone⟩ =
      .running ⟨4 + code.length + 3, place, slots.lifted.set 1 place, liftedWays before ways, count + 1, gone⟩ :=
    (step_here searchingWhole_end.2.1).trans rfl
  have stops : Machine.step (searchingWhole code).toArray text
      ⟨4 + code.length + 3, place, slots.lifted.set 1 place, liftedWays before ways,
      count + 1, gone⟩ = .matched := (step_here searchingWhole_end.2.2).trans rfl
  obtain ⟨_, rfl, looked⟩ := affords.running looks
  obtain ⟨fuel, rfl, saved⟩ := looked.running saves
  rw [run_step looks, run_step saves]
  cases fuel with
  | zero => exact saved.elim
  | succ fuel => rw [Machine.run, stops]

theorem run_lifted (stays : ∀ instruction ∈ code, instruction.Stays 4 (4 + code.length))
    (inside : machine.Inside (4 + code.length))
    (affords : (machine.lifted before).Affords (searchingWhole code).toArray text fuel) :
    Machine.run (searchingWhole code).toArray text fuel (machine.lifted before) = true ↔
    machine.Covers (searching code).toArray text := by
  induction fuel generalizing machine with
  | zero => exact affords.elim
  | succ fuel ih =>
    rcases Nat.lt_or_eq_of_le inside.address.2 with within | finish
    · obtain ⟨room, -, further⟩ := affords
      obtain ⟨instruction, member, own, whole⟩ := searching_code inside.address within
      have step : machine.step (searching code).toArray text = machine.obey text instruction := step_here own
      have step' : (machine.lifted before).step (searchingWhole code).toArray text =
        (machine.lifted before).obey text (instruction.shift 1) := step_here whole
      have follows : Follows (4 + code.length) before (machine.obey text instruction) _ :=
        follows_obey inside within room (stays instruction member)
      cases obeyed : machine.obey text instruction with
      | running next =>
        rw [obeyed] at follows step
        rw [follows.2] at step'
        rw [step'] at further
        rw [run_step step', covers_running step]
        exact ih follows.1 further
      | matched => rw [obeyed] at follows; exact follows.elim
      | unmatched =>
        rw [obeyed] at follows step
        exact iff_of_false (by rw [run_unmatched follows step']; decide) (covers_unmatched step)
    · rw [covers_at_end finish]
      by_cases whole : machine.place = text.size
      · exact iff_of_true (run_at_end finish whole affords) (.inl whole)
      · have looks : (machine.lifted before).step (searchingWhole code).toArray text =
            (machine.lifted before).back := by
          refine (step_look ?_).trans (if_neg whole)
          rw [Machine.lifted, finish]
          exact searchingWhole_end.1
        have follows : Follows (4 + code.length) before machine.back _ := follows_back inside
        cases left : machine.back with
        | running next =>
          rw [left] at follows
          rw [follows.2] at looks
          obtain ⟨_, same, further⟩ := affords.running looks
          cases same
          rw [run_step looks, ih follows.1 further]
          simp [whole]
        | matched => rw [left] at follows; exact follows.elim
        | unmatched =>
          rw [left] at follows
          refine iff_of_false (by rw [run_unmatched follows looks]; decide) ?_
          simp [whole]

end Covering
end RepositoryAccess.Lookaround
