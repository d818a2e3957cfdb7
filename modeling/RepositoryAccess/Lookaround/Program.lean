import RepositoryAccess.Lookaround.Syntax
import RepositoryAccess.Pattern.Reader

namespace RepositoryAccess.Lookaround
open RepositoryAccess.Pattern

inductive Instruction
  | finish
  | any
  | anyButNewline
  | place (place : Place)
  | literal (cs : List Char)
  | plain (regex : Regex)
  | split (first second : Nat)
  | jump (target : Nat)
  | save (slot : Nat)
  | reset (slot : Nat)
  | restore (slot : Nat)
  | rounds (least : Nat) (most : Option Nat) (next slot : Nat) (greedy : Bool)
  | nonemptyRounds (least next slot check : Nat) (greedy : Bool)
  | failLook
  | goBack (count : Nat)
  | backref (number : Nat)
  | matched (number : Nat)
  | beginAtomic
  | endAtomic
  | searchStart

-- A piece of program, once it is known where it stands and how many slots are in use.
abbrev Piece := Nat → Nat → Option (List Instruction × Nat)

namespace Piece

def nothing : Piece := fun _ slots => some ([], slots)

def ofList (code : List Instruction) : Piece := fun _ slots => some (code, slots)

def append (first second : Piece) : Piece := fun start slots => do
  let (code, slots) ← first start slots
  let (more, slots) ← second (start + code.length) slots
  return (code ++ more, slots)

def concat (pieces : List Piece) : Piece := pieces.foldr append nothing

def choice (first second : Piece) : Piece := fun start slots => do
  let (code, slots) ← first (start + 1) slots
  let next := start + 1 + code.length + 1
  let (more, slots) ← second next slots
  return (.split (start + 1) next :: code ++ .jump (next + more.length) :: more, slots)

def alternatives : List Piece → Piece
  | [] => nothing
  | [last] => last
  | first :: rest => choice first (alternatives rest)

def ordered (greedy : Bool) (inside outside : Nat) : Instruction :=
  if greedy then .split inside outside else .split outside inside

def optional (greedy : Bool) (body : Piece) : Piece := fun start slots => do
  let (code, slots) ← body (start + 1) slots
  return (ordered greedy (start + 1) (start + 1 + code.length) :: code, slots)

def star (greedy : Bool) (body : Piece) : Piece := fun start slots => do
  let (code, slots) ← body (start + 1) slots
  return (ordered greedy (start + 1) (start + code.length + 2) :: code ++ [.jump start], slots)

def plus (greedy : Bool) (body : Piece) : Piece := fun start slots => do
  let (code, slots) ← body start slots
  return (code ++ [ordered greedy start (start + code.length + 1)], slots)

-- A loop with a counter; `control` gets the address behind the loop and the slots it may use.
def counted (slotCount : Nat) (control : Nat → Nat → Instruction) (body : Piece) : Piece :=
  fun start slots => do
    let (code, used) ← body (start + 2) (slots + slotCount)
    return (.reset slots :: control (start + code.length + 3) slots :: code ++ [.jump (start + 1)],
      used)

def positive (body : Piece) : Piece := fun start slots => do
  let (code, used) ← body (start + 1) (slots + 1)
  return (.save slots :: code ++ [.restore slots], used)

def negative (body : Piece) : Piece := fun start slots => do
  let (code, slots) ← body (start + 1) slots
  return (.split (start + 1) (start + code.length + 2) :: code ++ [.failLook], slots)

-- Once the test has matched there is no way back to the other branch.
def conditional (test yes no : Piece) : Piece :=
  (ofList [.beginAtomic]).append (choice ((test.append (ofList [.endAtomic])).append yes) no)

end Piece

def handOver (parts : List Expr) : Piece :=
  if parts.isEmpty then Piece.nothing
  else match Expr.literals? parts with
    | some cs => Piece.ofList [.literal cs]
    | none => fun _ slots =>
      (Regex.read (parts.flatMap (·.text 1))).map fun regex => ([.plain regex], slots)

def lookBody (kind : Look) (child : Expr) (body : Piece) : Piece :=
  if !kind.behind then body
  else if child.isConstSize then (Piece.ofList [.goBack child.minSize]).append body
  else fun _ _ => none

def lookPiece (kind : Look) (child : Expr) (body : Piece) : Piece :=
  let inner := lookBody kind child body
  if kind.negative then inner.negative else inner.positive

def lookEach (kind : Look) (branches : List Expr) (bodies : List Piece) : Piece :=
  let looks := (branches.zip bodies).map fun (branch, body) => lookPiece kind branch body
  if kind.negative then Piece.concat looks else Piece.alternatives looks

def lookWhole (kind : Look) (child : Expr) (body : Piece) (bodies : List Piece) : Piece :=
  match child with
  | .alt branches =>
    if kind.behind && !child.isConstSize then lookEach kind branches bodies
    else lookPiece kind child body
  | _ => lookPiece kind child body

-- Parts of a run: those in front that are plain and of fixed size are handed over together, and so
-- are plain parts at the end, which have to be of fixed size if the run may be gone back into.
def concatPiece (hard : Bool) (parts : List Expr) (pieces : List Piece) : Piece :=
  let inFront := (parts.takeWhile fun part => part.isConstSize && !part.isHard).length
  let others := parts.drop inFront
  let atEnd := (others.reverse.takeWhile fun part =>
    !part.isHard && (!hard || part.isConstSize)).length
  let between := others.length - atEnd
  (handOver (parts.take inFront)).append
    ((Piece.concat ((pieces.drop inFront).take between)).append (handOver (others.drop between)))

def loopPiece (childMin : Nat) (least : Nat) (most : Option Nat) (greedy : Bool) (body : Piece) : Piece :=
  match most with
  | none =>
    if childMin == 0 then
      body.counted 2 fun next slot => .nonemptyRounds least next slot (slot + 1) greedy
    else match least with
      | 0 => body.star greedy
      | 1 => body.plus greedy
      | least => body.counted 1 fun next slot => .rounds least none next slot greedy
  | some most => body.counted 1 fun next slot => .rounds least (some most) next slot greedy

mutual
-- The program of an expression.  `hard` says that there may be a way back into it although it is
-- plain itself.
def piece (hard : Bool) : Expr → Piece
  | .empty => if hard then Piece.nothing else handOver [.empty]
  | .char c anyCase => handOver [.char c anyCase]
  | .any newline =>
    if hard then Piece.ofList [if newline then .any else .anyButNewline] else handOver [.any newline]
  | .plain text anyCase => handOver [.plain text anyCase]
  | .place place =>
    if hard || isWordPlace place then Piece.ofList [.place place] else handOver [.place place]
  | .concat parts =>
    if !hard && !Expr.anyHard parts then handOver [.concat parts]
    else concatPiece hard parts (pieces true parts)
  | .alt branches =>
    if !hard && !Expr.anyHard branches then handOver [.alt branches]
    else Piece.alternatives (pieces hard branches)
  | .group number referenced child =>
    if !hard && !referenced && !child.isHard then handOver [.group number referenced child]
    else ((Piece.ofList [.save (2 * number)]).append (piece hard child)).append
      (Piece.ofList [.save (2 * number + 1)])
  | .loop child least most greedy =>
    if !hard && !child.isHard then handOver [.loop child least most greedy]
    else if least == 0 && most == some 1 then (piece hard child).optional greedy
    else loopPiece child.minSize least most greedy (piece true child)
  | .look kind child => lookWhole kind child (piece false child) (branchPieces child)
  | .backref number => Piece.ofList [.backref number]
  | .matched number => Piece.ofList [.matched number]
  | .atomic child =>
    ((Piece.ofList [.beginAtomic]).append (piece false child)).append (Piece.ofList [.endAtomic])
  | .keepOut => Piece.ofList [.save 0]
  | .searchStart => Piece.ofList [.searchStart]
  | .condition test yes no => Piece.conditional (piece hard test) (piece hard yes) (piece hard no)

def pieces (hard : Bool) : List Expr → List Piece
  | [] => []
  | part :: rest => piece hard part :: pieces hard rest

def branchPieces : Expr → List Piece
  | .alt branches => pieces false branches
  | _ => []
end

structure Program where
  code : Array Instruction
  slots : Nat

-- The search for an expression anywhere in a text: skip characters as long as need be, then match
-- it as group zero.
def search (expr : Expr) : Piece :=
  concatPiece false
    [.loop (.any true) 0 none false, .group 0 true expr]
    (pieces true [.loop (.any true) 0 none false, .group 0 true expr])

def Program.ofExpr (expr : Expr) (groups : Nat) : Option Program := do
  let (code, slots) ← search expr 0 (2 * (groups + 1))
  return ⟨(code ++ [Instruction.finish]).toArray, slots⟩

end RepositoryAccess.Lookaround
