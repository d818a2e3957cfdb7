import RepositoryAccess.Lookaround.Program
import RepositoryAccess.Pattern.Match

namespace RepositoryAccess.Lookaround
open RepositoryAccess.Pattern

-- Slots in use have a number; the marks of open atomic groups say how many ways there were.
structure Slots where
  values : Array (Option Nat)
  marks : List Nat

structure Way where
  address : Nat
  place : Nat
  slots : Slots

-- One way is tried at a time; those it may go back to are kept, latest first.
structure Machine where
  address : Nat
  place : Nat
  slots : Slots
  ways : List Way
  wayCount : Nat
  goneBack : Nat

def backLimit : Nat := 1000000

def wayLimit : Nat := 1000000

inductive Outcome
  | running (machine : Machine)
  | matched
  | unmatched

def Slots.get (slots : Slots) (slot : Nat) : Option Nat := (slots.values[slot]?).join

def Slots.set (slots : Slots) (slot value : Nat) : Slots :=
  { slots with values := slots.values.setIfInBounds slot (some value) }

namespace Machine

def start (slots : Nat) : Machine :=
  { address := 0, place := 0, slots := ⟨Array.replicate slots none, []⟩, ways := [], wayCount := 0,
    goneBack := 0 }

def back (machine : Machine) : Outcome :=
  match machine.ways with
  | [] => .unmatched
  | way :: ways =>
    if machine.goneBack ≥ backLimit then .unmatched
    else .running ⟨way.address, way.place, way.slots, ways, machine.wayCount - 1, machine.goneBack + 1⟩

def next (machine : Machine) : Outcome := .running { machine with address := machine.address + 1 }

def moveTo (machine : Machine) (place : Nat) : Outcome :=
  .running { machine with address := machine.address + 1, place }

def goTo (machine : Machine) (address : Nat) : Outcome := .running { machine with address }

def fork (machine : Machine) (address other : Nat) : Outcome :=
  if machine.wayCount ≥ wayLimit then .unmatched
  else .running { machine with
    address
    ways := ⟨other, machine.place, machine.slots⟩ :: machine.ways
    wayCount := machine.wayCount + 1 }

def store (machine : Machine) (slot value : Nat) : Machine :=
  { machine with slots := machine.slots.set slot value }

def cut (machine : Machine) (count : Nat) : Machine :=
  { machine with ways := machine.ways.drop (machine.wayCount - count), wayCount := min machine.wayCount count }

-- What was looked for and should not be there was found: everything since the look is dropped, and
-- so is the way on behind it.
def abandon (machine : Machine) : Outcome :=
  let behind := machine.ways.dropWhile fun way => way.address != machine.address + 1
  match behind with
  | [] => .unmatched
  | way :: ways => back { machine with slots := way.slots, ways, wayCount := ways.length }

def startsWithAt (text : Array Char) (place : Nat) : List Char → Bool
  | [] => true
  | c :: rest => text[place]? == some c && startsWithAt text (place + 1) rest

def roundsStep (machine : Machine) (least : Nat) (most : Option Nat) (next slot : Nat) (greedy : Bool) :
    Outcome :=
  let done := (machine.slots.get slot).getD 0
  if most == some done then machine.goTo next
  else
    let machine := machine.store slot (done + 1)
    if done < least then machine.goTo (machine.address + 1)
    else if greedy then machine.fork (machine.address + 1) next
    else machine.fork next (machine.address + 1)

-- A loop without an upper bound whose body may take no character: a round that took none is not
-- followed by another.
def nonemptyStep (machine : Machine) (least next slot check : Nat) (greedy : Bool) : Outcome :=
  let done := (machine.slots.get slot).getD 0
  if done > least && machine.slots.get check == some machine.place then machine.back
  else
    let machine := machine.store slot (done + 1)
    if done < least then machine.goTo (machine.address + 1)
    else
      let machine := machine.store check machine.place
      if greedy then machine.fork (machine.address + 1) next
      else machine.fork next (machine.address + 1)

def obey (text : Array Char) (machine : Machine) : Instruction → Outcome
  | .finish => .matched
  | .any => if machine.place < text.size then machine.moveTo (machine.place + 1) else machine.back
  | .anyButNewline =>
    match text[machine.place]? with
    | some c => if c == '\n' then machine.back else machine.moveTo (machine.place + 1)
    | none => machine.back
  | .place place => if place.holds text machine.place then machine.next else machine.back
  | .literal cs =>
    if startsWithAt text machine.place cs then machine.moveTo (machine.place + cs.length)
    else machine.back
  | .plain regex =>
    match regex.preferredEnd text machine.place with
    | some place => machine.moveTo place
    | none => machine.back
  | .split first second => machine.fork first second
  | .jump target => machine.goTo target
  | .save slot => (machine.store slot machine.place).next
  | .reset slot => (machine.store slot 0).next
  | .restore slot => machine.moveTo ((machine.slots.get slot).getD machine.place)
  | .rounds least most next slot greedy => machine.roundsStep least most next slot greedy
  | .nonemptyRounds least next slot check greedy => machine.nonemptyStep least next slot check greedy
  | .failLook => machine.abandon
  | .goBack count =>
    if count ≤ machine.place then machine.moveTo (machine.place - count) else machine.back
  | .backref number =>
    match machine.slots.get (2 * number), machine.slots.get (2 * number + 1) with
    | some first, some last =>
      let cs := (text.toList.drop first).take (last - first)
      if startsWithAt text machine.place cs then machine.moveTo (machine.place + cs.length)
      else machine.back
    | _, _ => machine.back
  | .matched number =>
    if (machine.slots.get (2 * number)).isSome then machine.next else machine.back
  | .beginAtomic =>
    { machine with slots := { machine.slots with marks := machine.wayCount :: machine.slots.marks } }.next
  | .endAtomic =>
    match machine.slots.marks with
    | [] => .unmatched
    | count :: marks => ({ machine with slots := { machine.slots with marks } }.cut count).next
  | .searchStart => if machine.place == 0 then machine.next else machine.back

def step (code : Array Instruction) (text : Array Char) (machine : Machine) : Outcome :=
  match code[machine.address]? with
  | none => .unmatched
  | some instruction => machine.obey text instruction

def run (code : Array Instruction) (text : Array Char) : Nat → Machine → Bool
  | 0, _ => false
  | fuel + 1, machine =>
    match machine.step code text with
    | .running machine => run code text fuel machine
    | .matched => true
    | .unmatched => false

end Machine

end RepositoryAccess.Lookaround
