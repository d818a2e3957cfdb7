import RepositoryAccess.Pattern.Syntax
import RepositoryAccess.Text.Word

namespace RepositoryAccess.Pattern
open RepositoryAccess.Text

def isWordAt (ascii : Bool) (text : Array Char) (place : Nat) : Bool :=
  match text[place]? with
  | some c => if ascii then isAsciiWord c else isWord c
  | none => false

def isWordBefore (ascii : Bool) (text : Array Char) (place : Nat) : Bool :=
  match place with
  | 0 => false
  | before + 1 => isWordAt ascii text before

def charBefore (text : Array Char) (place : Nat) : Option Char :=
  match place with
  | 0 => none
  | before + 1 => text[before]?

-- A wide line break is a carriage return, a line feed, or the two in this order as one.
def Place.holds (text : Array Char) (place : Nat) : Place → Bool
  | .textStart => place == 0
  | .textEnd => place == text.size
  | .lineStart => place == 0 || charBefore text place == some '\n'
  | .lineEnd => place == text.size || text[place]? == some '\n'
  | .wideLineStart =>
    place == 0 || charBefore text place == some '\n' ||
      (charBefore text place == some '\r' && text[place]? != some '\n')
  | .wideLineEnd =>
    place == text.size || text[place]? == some '\r' ||
      (text[place]? == some '\n' && charBefore text place != some '\r')
  | .wordEdge ascii => isWordBefore ascii text place != isWordAt ascii text place
  | .wordInside ascii => isWordBefore ascii text place == isWordAt ascii text place
  | .wordStart ascii => !isWordBefore ascii text place && isWordAt ascii text place
  | .wordEnd ascii => isWordBefore ascii text place && !isWordAt ascii text place
  | .wordStartHalf ascii => !isWordBefore ascii text place
  | .wordEndHalf ascii => !isWordAt ascii text place

def merge : List Nat → List Nat → List Nat
  | [], right => right
  | left, [] => left
  | a :: left, b :: right =>
    if a < b then a :: merge left (b :: right)
    else if b < a then b :: merge (a :: left) right
    else a :: merge left right
termination_by left right => left.length + right.length

-- Repeats a step from the places just found until it finds no new one.  A text of `n` characters
-- has `n + 1` places, so that many rounds are enough.
def saturate (step : List Nat → List Nat) : Nat → List Nat → List Nat → List Nat
  | 0, _, seen => seen
  | rounds + 1, fresh, seen =>
    let next := (step fresh).filter fun place => !seen.contains place
    if next.isEmpty then seen else saturate step rounds next (merge seen next)

def steps (step : List Nat → List Nat) : Nat → List Nat → List Nat
  | 0, places => places
  | count + 1, places => if places.isEmpty then [] else steps step count (step places)

def stepsUpTo (step : List Nat → List Nat) : Nat → List Nat → List Nat → List Nat
  | 0, _, seen => seen
  | count + 1, fresh, seen =>
    let next := (step fresh).filter fun place => !seen.contains place
    if next.isEmpty then seen else stepsUpTo step count next (merge seen next)

namespace Regex

def reach (text : Array Char) : Regex → List Nat → List Nat
  | .empty, places => places
  | .one set, places =>
    places.filterMap fun place =>
      match text[place]? with
      | some c => if set.contains c then some (place + 1) else none
      | none => none
  | .look kind, places => places.filter fun place => kind.holds text place
  | .seq first second, places => second.reach text (first.reach text places)
  | .alt left right, places => merge (left.reach text places) (right.reach text places)
  | .loop body least most _, places =>
    let start := steps (body.reach text) least places
    match most with
    | none => saturate (body.reach text) (text.size + 1) start start
    | some most => stepsUpTo (body.reach text) (most - least) start start

def isMatch (regex : Regex) (text : List Char) : Bool :=
  !(regex.reach text.toArray (List.range (text.length + 1))).isEmpty

end Regex

def dedup (places : List Nat) : List Nat :=
  (places.foldl (fun kept place => if kept.contains place then kept else place :: kept) []).reverse

-- A walk through a loop: where the body was entered, where it was left, and the ends found so far,
-- latest first.
structure Walk where
  entered : List Nat := []
  left : List Nat := []
  found : List Nat := []

def Walk.emit (walk : Walk) (place : Nat) : Walk :=
  if walk.found.contains place then walk else { walk with found := place :: walk.found }

-- One or more rounds of the body from a place.  The body is entered at most once in each place.
def Walk.rounds (body : Nat → List Nat) (greedy : Bool) : Nat → Walk → Nat → Walk
  | 0, walk, _ => walk
  | depth + 1, walk, place =>
    if walk.entered.contains place then walk
    else
      (body place).foldl (fun walk reached =>
        if walk.left.contains reached then walk
        else
          let walk := { walk with left := reached :: walk.left }
          if greedy then (rounds body greedy depth walk reached).emit reached
          else rounds body greedy depth (walk.emit reached) reached)
        { walk with entered := place :: walk.entered }

-- Up to so many rounds from a place, each place visited once for each number of rounds left.
def optionalRounds (body : Nat → List Nat) (greedy : Bool) :
    Nat → List (Nat × Nat) × List Nat → Nat → List (Nat × Nat) × List Nat
  | 0, (seen, found), place =>
    (seen, if found.contains place then found else place :: found)
  | more + 1, (seen, found), place =>
    if seen.contains (more, place) then (seen, found)
    else
      let emit := fun (state : List (Nat × Nat) × List Nat) =>
        (state.1, if state.2.contains place then state.2 else place :: state.2)
      let deeper := fun (state : List (Nat × Nat) × List Nat) =>
        (body place).foldl (optionalRounds body greedy more) state
      let start := ((more, place) :: seen, found)
      if greedy then emit (deeper start) else deeper (emit start)

def exactRounds (body : Nat → List Nat) : Nat → List Nat → List Nat
  | 0, places => places
  | count + 1, places =>
    if places.isEmpty then [] else exactRounds body count (dedup (places.flatMap body))

namespace Regex

-- The ends of the matches that start in one place, most preferred first.
def ends (text : Array Char) : Regex → Nat → List Nat
  | .empty, place => [place]
  | .one set, place =>
    match text[place]? with
    | some c => if set.contains c then [place + 1] else []
    | none => []
  | .look kind, place => if kind.holds text place then [place] else []
  | .seq first second, place => dedup ((first.ends text place).flatMap (second.ends text))
  | .alt left right, place => dedup (left.ends text place ++ right.ends text place)
  | .loop body least most greedy, place =>
    let body := body.ends text
    match most with
    | some most =>
      let starts := exactRounds body least [place]
      (starts.foldl (optionalRounds body greedy (most - least)) ([], [])).2.reverse
    | none =>
      match least with
      | 0 =>
        let walk := if greedy then (Walk.rounds body greedy (text.size + 2) {} place).emit place
          else Walk.rounds body greedy (text.size + 2) (Walk.emit {} place) place
        walk.found.reverse
      | least + 1 =>
        let starts := exactRounds body least [place]
        (starts.foldl (Walk.rounds body greedy (text.size + 2)) {}).found.reverse

def preferredEnd (regex : Regex) (text : Array Char) (place : Nat) : Option Nat :=
  (regex.ends text place).head?

end Regex
end RepositoryAccess.Pattern
