import RepositoryAccess.Pattern.Bracket

namespace RepositoryAccess.Pattern
open RepositoryAccess.Text

structure Piece where
  regex : Regex
  depth : Nat := 0
  repeatable : Bool := true

-- What surrounds an open group, to go on with once it is closed.  Runs are kept latest first.
structure Around where
  flags : Flags
  run : List Piece
  branches : List Piece

structure Reading where
  flags : Flags := {}
  run : List Piece := []
  branches : List Piece := []
  around : List Around := []
  names : List (List Char) := []

def runPiece : List Piece → Piece
  | [] => ⟨.empty, 0, true⟩
  | [piece] => piece
  | run => ⟨.seqAll (run.reverse.map (·.regex)), 1 + maxDepth (run.map (·.depth)), true⟩

def branchPiece : List Piece → Piece
  | [] => ⟨.empty, 0, true⟩
  | [piece] => piece
  | branches =>
    ⟨.altAll (branches.reverse.map (·.regex)), 1 + maxDepth (branches.map (·.depth)), true⟩

def Reading.inner (reading : Reading) : Piece := branchPiece (runPiece reading.run :: reading.branches)

def Reading.push (reading : Reading) (piece : Piece) : Reading :=
  { reading with run := piece :: reading.run }

def Reading.enter (reading : Reading) (flags : Flags) : Reading :=
  { reading with flags, run := [], branches := [],
                 around := ⟨reading.flags, reading.run, reading.branches⟩ :: reading.around }

-- A closed group is one part of the run around it, and its flags end with it.
def Reading.leave (reading : Reading) : Option Reading :=
  match reading.around with
  | [] => none
  | outer :: around =>
    let inner := reading.inner
    some { reading with flags := outer.flags, branches := outer.branches, around,
                        run := ⟨inner.regex, 1 + inner.depth, true⟩ :: outer.run }

def Reading.branch (reading : Reading) : Reading :=
  { reading with run := [], branches := runPiece reading.run :: reading.branches }

def Reading.repeatLast (reading : Reading) (least : Nat) (most : Option Nat) (greedy : Bool) :
    Option Reading :=
  match reading.run with
  | [] => none
  | piece :: run =>
    if !piece.repeatable then none
    else
      let greedy := greedy != reading.flags.swapGreed
      some { reading with run := ⟨.loop piece.regex least most greedy, 1 + piece.depth, true⟩ :: run }

def isNameChar (first : Bool) (c : Char) : Bool :=
  if first then c == '_' || Trait.alphabetic.holds c
  else c == '_' || c == '.' || c == '[' || c == ']' || Trait.alphabetic.holds c || inCategory "N" c

def readName (cs : List Char) : Option (List Char × List Char) :=
  let name := cs.takeWhile (· != '>')
  match name, cs.dropWhile (· != '>') with
  | first :: others, _ :: rest =>
    if isNameChar true first && others.all (isNameChar false) then some (name, rest) else none
  | _, _ => none

-- Flags up to a colon or a closing parenthesis.  No flag may be given twice, and the one minus sign
-- has to be followed by a flag.
def readFlags : List Char → List Flag → Bool → Bool → Flags → Option (Flags × Bool × List Char)
  | [], _, _, _, _ => none
  | c :: rest, seen, negated, dangling, flags =>
    if c == ':' || c == ')' then if dangling then none else some (flags, c == ')', rest)
    else if c == '-' then if negated then none else readFlags rest seen true true flags
    else
      match Flag.ofChar? c with
      | none => none
      | some flag =>
        if seen.contains flag then none
        else readFlags rest (flag :: seen) negated false (flags.set (!negated) flag)

def isLookaround : List Char → Bool
  | '?' :: '=' :: _ | '?' :: '!' :: _ | '?' :: '<' :: '=' :: _ | '?' :: '<' :: '!' :: _ => true
  | _ => false

def Reading.named (reading : Reading) (cs : List Char) : Option (Reading × List Char) := do
  let (name, rest) ← readName cs
  if reading.names.contains name then none
  else return ({ reading.enter reading.flags with names := name :: reading.names }, rest)

def Reading.group (reading : Reading) (cs : List Char) : Option (Reading × List Char) :=
  let cs := reading.flags.skip cs
  if isLookaround cs then none
  else match cs with
    | '?' :: 'P' :: '<' :: rest => reading.named rest
    | '?' :: '<' :: rest => reading.named rest
    | '?' :: rest =>
      match readFlags rest [] false false reading.flags with
      | none => none
      | some (flags, true, after) =>
        if rest.head? == some ')' then none
        else some ({ reading.push ⟨.empty, 0, false⟩ with flags }, after)
      | some (flags, false, after) => some (reading.enter flags, after)
    | cs => some (reading.enter reading.flags, cs)

def maxCount : Nat := UInt32.size - 1

def readDigits (flags : Flags) : Nat → List Char → List Nat × List Char
  | 0, cs => ([], cs)
  | fuel + 1, cs =>
    match cs with
    | [] => ([], [])
    | c :: rest =>
      if c.isDigit then
        let (digits, rest) := readDigits flags fuel (flags.skip rest)
        ((c.toNat - '0'.toNat) :: digits, rest)
      else ([], c :: rest)

def readCount (flags : Flags) (cs : List Char) : Option (Nat × List Char) :=
  let (digits, rest) := readDigits flags (cs.length + 1) (trimStart cs)
  if digits.isEmpty then none
  else
    let value := digits.foldl (fun value digit => value * 10 + digit) 0
    let rest := match rest with
      | c :: _ => if isBlank c then flags.skip (trimStart rest) else rest
      | [] => []
    if value ≤ maxCount then some (value, rest) else none

def readBounds (flags : Flags) (cs : List Char) : Option (Nat × Option Nat × List Char) := do
  let (least, rest) ← readCount flags (flags.skip cs)
  match rest with
  | '}' :: rest => return (least, some least, rest)
  | ',' :: rest =>
    match flags.skip rest with
    | '}' :: rest => return (least, none, rest)
    | rest => do
      let (most, rest) ← readCount flags rest
      match rest with
      | '}' :: rest => if least ≤ most then return (least, some most, rest) else none
      | _ => none
  | _ => none

def readLaziness : List Char → Bool × List Char
  | '?' :: rest => (false, rest)
  | rest => (true, rest)

def charRegex (flags : Flags) (c : Char) : Regex :=
  if flags.unicode || c.toNat < 128 then .one (flags.fold (.only c)) else .one (.only c)

def dotRegex (flags : Flags) : Option Regex :=
  if !flags.unicode then none
  else if flags.dotAll then some (.one .any)
  else if flags.wideLines then some (.one (.complement (asciiSet [('\r', '\r'), ('\n', '\n')])))
  else some (.one (.complement (.only '\n')))

def startPlace (flags : Flags) : Place :=
  if !flags.multiLine then .textStart else if flags.wideLines then .wideLineStart else .lineStart

def endPlace (flags : Flags) : Place :=
  if !flags.multiLine then .textEnd else if flags.wideLines then .wideLineEnd else .lineEnd

def atomRegex (flags : Flags) : Atom → Regex
  | .char c => charRegex flags c
  | .set set => .one set
  | .place place => .look place

def Reading.step (reading : Reading) (c : Char) (rest : List Char) : Option (Reading × List Char) :=
  let flags := reading.flags
  match c with
  | '(' => reading.group rest
  | ')' => reading.leave.map (·, rest)
  | '|' => some (reading.branch, rest)
  | '[' => (readClass flags rest).map fun (operand, rest) =>
      (reading.push ⟨.one operand.set, operand.depth, true⟩, rest)
  | '?' => do
    let (greedy, rest) := readLaziness rest
    return (← reading.repeatLast 0 (some 1) greedy, rest)
  | '*' => do
    let (greedy, rest) := readLaziness rest
    return (← reading.repeatLast 0 none greedy, rest)
  | '+' => do
    let (greedy, rest) := readLaziness rest
    return (← reading.repeatLast 1 none greedy, rest)
  | '{' => do
    let (least, most, rest) ← readBounds flags rest
    let (greedy, rest) := readLaziness (flags.skip rest)
    return (← reading.repeatLast least most greedy, rest)
  | '\\' => (readEscape flags rest).map fun (atom, rest) => (reading.push ⟨atomRegex flags atom, 0, true⟩, rest)
  | '.' => (dotRegex flags).map fun regex => (reading.push ⟨regex, 0, true⟩, rest)
  | '^' => some (reading.push ⟨.look (startPlace flags), 0, true⟩, rest)
  | '$' => some (reading.push ⟨.look (endPlace flags), 0, true⟩, rest)
  | c => some (reading.push ⟨charRegex flags c, 0, true⟩, rest)

def nestLimit : Nat := 250

def Reading.finish (reading : Reading) : Option Regex :=
  if !reading.around.isEmpty then none
  else
    let whole := reading.inner
    if whole.depth ≤ nestLimit then some whole.regex else none

def Reading.readAll : Nat → Reading → List Char → Option Regex
  | 0, _, _ => none
  | fuel + 1, reading, cs =>
    match reading.flags.skip cs with
    | [] => reading.finish
    | c :: rest => do
      let (reading, rest) ← reading.step c rest
      readAll fuel reading rest

-- Every part takes at least one character, so the text is long enough as a measure.
def Regex.read (pattern : List Char) : Option Regex := Reading.readAll (pattern.length + 1) {} pattern

end RepositoryAccess.Pattern
