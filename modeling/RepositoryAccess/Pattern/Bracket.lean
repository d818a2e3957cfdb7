import RepositoryAccess.Pattern.Escape

namespace RepositoryAccess.Pattern
open RepositoryAccess.Text

structure Operand where
  set : CharSet
  depth : Nat

inductive SetOp
  | both
  | without
  | apart

-- An open bracket: the union being read, latest first, and the left operand that waits for it.
structure Bracket where
  negated : Bool
  waiting : Option (SetOp × Operand) := none
  items : List Operand := []

def maxDepth (depths : List Nat) : Nat := depths.foldl max 0

def unionOf : List Operand → Operand
  | [] => ⟨.none, 0⟩
  | [item] => item
  | items => ⟨.unionAll (items.reverse.map (·.set)), 1 + maxDepth (items.map (·.depth))⟩

def SetOp.apply (op : SetOp) (left right : CharSet) : CharSet :=
  match op with
  | .both => left.inter right
  | .without => left.without right
  | .apart => left.apart right

def Bracket.operand (flags : Flags) (bracket : Bracket) : Operand :=
  let right := unionOf bracket.items
  match bracket.waiting with
  | none => right
  | some (op, left) =>
    ⟨op.apply (flags.fold left.set) (flags.fold right.set), 1 + max left.depth right.depth⟩

def Bracket.close (flags : Flags) (bracket : Bracket) : Option Operand :=
  let whole := bracket.operand flags
  (flags.negate bracket.negated (flags.fold whole.set)).map (⟨·, 1 + whole.depth⟩)

def Bracket.push (bracket : Bracket) (item : Operand) : Bracket :=
  { bracket with items := item :: bracket.items }

def Bracket.operator (flags : Flags) (op : SetOp) (bracket : Bracket) : Bracket :=
  { bracket with waiting := some (op, bracket.operand flags), items := [] }

def openingHyphens (flags : Flags) : Nat → Bracket → List Char → Bracket × List Char
  | 0, bracket, cs => (bracket, cs)
  | fuel + 1, bracket, cs =>
    match cs with
    | '-' :: rest =>
      openingHyphens flags fuel (bracket.push ⟨.only '-', 0⟩) (flags.skip rest)
    | cs => (bracket, cs)

-- Reads what follows the opening bracket up to the first item.  A closing bracket in the first
-- place stands for itself.
def openBracket (flags : Flags) (cs : List Char) : Bracket × List Char :=
  let (negated, cs) := match flags.skip cs with
    | '^' :: rest => (true, flags.skip rest)
    | cs => (false, cs)
  match openingHyphens flags cs.length { negated } cs with
  | (bracket, ']' :: rest) =>
    if bracket.items.isEmpty then (bracket.push ⟨.only ']', 0⟩, flags.skip rest)
    else (bracket, ']' :: rest)
  | opened => opened

def namedSet? (name : String) : Option CharSet :=
  match name with
  | "alnum" => some (asciiSet [('0', '9'), ('A', 'Z'), ('a', 'z')])
  | "alpha" => some (asciiSet [('A', 'Z'), ('a', 'z')])
  | "ascii" => some (asciiSet [('\x00', '\x7f')])
  | "blank" => some (asciiSet [('\t', '\t'), (' ', ' ')])
  | "cntrl" => some (asciiSet [('\x00', '\x1f'), ('\x7f', '\x7f')])
  | "digit" => some (asciiSet [('0', '9')])
  | "graph" => some (asciiSet [('!', '~')])
  | "lower" => some (asciiSet [('a', 'z')])
  | "print" => some (asciiSet [(' ', '~')])
  | "punct" => some (asciiSet [('!', '/'), (':', '@'), ('[', '\x60'), ('\x7b', '~')])
  | "space" => some (asciiSet [('\t', '\r'), (' ', ' ')])
  | "upper" => some (asciiSet [('A', 'Z')])
  | "word" => some (asciiSet [('0', '9'), ('A', 'Z'), ('_', '_'), ('a', 'z')])
  | "xdigit" => some (asciiSet [('0', '9'), ('A', 'F'), ('a', 'f')])
  | _ => none

-- A named class `[:name:]`, read after its bracket.  What does not have this form is no named class
-- but a nested bracket.
def namedClass? (cs : List Char) : Option (Bool × CharSet × List Char) :=
  match cs with
  | ':' :: rest =>
    let (negated, rest) := match rest with
      | '^' :: rest => (true, rest)
      | rest => (false, rest)
    match rest.dropWhile (· != ':') with
    | ':' :: ']' :: after =>
      (namedSet? (String.ofList (rest.takeWhile (· != ':')))).map fun set => (negated, set, after)
    | _ => none
  | _ => none

def memberChar (flags : Flags) (c : Char) : Option Char :=
  if flags.unicode || c.toNat < 128 then some c else none

def readMember (flags : Flags) : List Char → Option (Atom × List Char)
  | [] => none
  | '\\' :: rest => readEscape flags rest
  | c :: rest => some (.char c, rest)

def peekSpaced (comment : Bool) (whole : List Char) : List Char → Option Char
  | [] => whole.head?
  | c :: rest =>
    if isBlank c then peekSpaced comment whole rest
    else if !comment && c == '#' then peekSpaced true whole rest
    else some c

def Flags.peek (flags : Flags) (cs : List Char) : Option Char :=
  if flags.spaced then peekSpaced false cs cs else cs.head?

def startsRange (flags : Flags) : List Char → Bool
  | '-' :: rest => flags.peek rest != some ']' && flags.peek rest != some '-'
  | _ => false

def memberSet (flags : Flags) : Atom → Option CharSet
  | .char c => (memberChar flags c).map .only
  | .set set => some set
  | .place _ => none

def readItem (flags : Flags) (cs : List Char) : Option (Operand × List Char) := do
  let (first, rest) ← readMember flags cs
  let rest := flags.skip rest
  if rest.isEmpty then none
  else if startsRange flags rest then do
    let (last, rest) ← readMember flags (flags.skip (rest.drop 1))
    match first, last with
    | .char first, .char last => do
      let first ← memberChar flags first
      let last ← memberChar flags last
      if last < first then none else return (⟨.between first last, 0⟩, rest)
    | _, _ => none
  else do
    let set ← memberSet flags first
    return (⟨set, 0⟩, rest)

-- Reads on in the innermost open bracket until the outermost one is closed.  Every round reads at
-- least one character.
def readBrackets (flags : Flags) :
    Nat → Bracket → List Bracket → List Char → Option (Operand × List Char)
  | 0, _, _, _ => none
  | fuel + 1, bracket, outer, cs =>
    match flags.skip cs with
    | [] => none
    | '[' :: rest =>
      match namedClass? rest with
      | some (negated, set, rest) => do
        let set ← flags.negate negated (flags.fold set)
        readBrackets flags fuel (bracket.push ⟨set, 0⟩) outer rest
      | none =>
        let (opened, rest) := openBracket flags rest
        readBrackets flags fuel opened (bracket :: outer) rest
    | ']' :: rest => do
      let closed ← bracket.close flags
      match outer with
      | [] => return (closed, rest)
      | around :: outer => readBrackets flags fuel (around.push closed) outer rest
    | '&' :: '&' :: rest => readBrackets flags fuel (bracket.operator flags .both) outer rest
    | '-' :: '-' :: rest => readBrackets flags fuel (bracket.operator flags .without) outer rest
    | '~' :: '~' :: rest => readBrackets flags fuel (bracket.operator flags .apart) outer rest
    | cs => do
      let (item, rest) ← readItem flags cs
      readBrackets flags fuel (bracket.push item) outer rest

def readClass (flags : Flags) (cs : List Char) : Option (Operand × List Char) :=
  let (opened, rest) := openBracket flags cs
  readBrackets flags (rest.length + 1) opened [] rest

end RepositoryAccess.Pattern
