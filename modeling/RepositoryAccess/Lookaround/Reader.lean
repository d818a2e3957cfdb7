import RepositoryAccess.Lookaround.Syntax
import RepositoryAccess.Pattern.Reader

namespace RepositoryAccess.Lookaround
open RepositoryAccess.Text RepositoryAccess.Pattern

-- What is known while a pattern is read: flags, how many groups were opened, their names, which of
-- them are referred to, and whether by number.
structure Reading where
  flags : Flags := {}
  groups : Nat := 0
  names : List (List Char × Nat) := []
  referenced : List Nat := []
  byNumber : Bool := false

abbrev Read := StateT Reading Option

inductive Gap
  | blanks
  | line
  | remark

def skipGap (spaced : Bool) : Gap → List Char → Option (List Char)
  | .blanks, [] => some []
  | .blanks, '(' :: '?' :: '#' :: rest => skipGap spaced .remark rest
  | .blanks, c :: rest =>
    if spaced && (c == ' ' || c == '\r' || c == '\n' || c == '\t') then skipGap spaced .blanks rest
    else if spaced && c == '#' then skipGap spaced .line rest
    else some (c :: rest)
  | .line, [] => some []
  | .line, c :: rest => skipGap spaced (if c == '\n' then .blanks else .line) rest
  | .remark, [] => none
  | .remark, '\\' :: _ :: rest => skipGap spaced .remark rest
  | .remark, c :: rest => skipGap spaced (if c == ')' then .blanks else .remark) rest

def skip (cs : List Char) : Read (List Char) := do
  let reading ← get
  skipGap reading.flags.spaced .blanks cs

def closing (cs : List Char) : Read (List Char) := do
  match ← skip cs with
  | ')' :: rest => return rest
  | _ => failure

def decimal? (cs : List Char) : Option (Nat × List Char) :=
  let digits := cs.takeWhile Char.isDigit
  let value := digits.foldl (fun value c => value * 10 + (c.toNat - '0'.toNat)) 0
  if digits.isEmpty || value ≥ UInt64.size then none else some (value, cs.dropWhile Char.isDigit)

def bound (n : Nat) : Option Nat := if n + 1 == UInt64.size then none else some n

def leastBound (cs : List Char) : Option (Nat × List Char) :=
  match cs with
  | ',' :: _ => some (0, cs)
  | cs => decimal? cs

def mostBound (cs : List Char) : Option Nat × List Char :=
  match decimal? cs with
  | some (most, rest) => (bound most, rest)
  | none => (none, cs)

def boundsFrom (spaced : Bool) (least : Nat) : List Char → Option (Nat × Option Nat × List Char)
  | '}' :: rest => some (least, bound least, rest)
  | ',' :: rest => do
    let (most, rest) := mostBound (← skipGap spaced .blanks rest)
    match ← skipGap spaced .blanks rest with
    | '}' :: rest => return (least, most, rest)
    | _ => none
  | _ => none

-- The bounds of a counted repetition, read after its opening brace; a missing lower bound is zero.
-- A brace that opens no such bounds is a character like any other.
def bounds? (spaced : Bool) (cs : List Char) : Option (Nat × Option Nat × List Char) := do
  let (least, rest) ← leastBound (← skipGap spaced .blanks cs)
  boundsFrom spaced least (← skipGap spaced .blanks rest)

def isNameChar (c : Char) : Bool := c == '_' || Trait.alphabetic.holds c || inCategory "N" c

def name? (stop : Char) (cs : List Char) : Option (List Char × List Char) :=
  let name := cs.takeWhile isNameChar
  match name, cs.dropWhile isNameChar with
  | _ :: _, c :: rest => if c == stop then some (name, rest) else none
  | _, _ => none

def referTo (number : Nat) : Read Nat := do
  if number ≤ (← get).groups then
    modify fun reading => { reading with referenced := number :: reading.referenced }
    return number
  else failure

def leadingMinus : List Char → Bool × List Char
  | '-' :: rest => (true, rest)
  | cs => (false, cs)

-- A name that is not taken may be a number; a minus sign counts back from the group opened last.
def groupNumber (reading : Reading) (minus : Bool) (name : List Char) : Option Nat :=
  match if minus then none else (reading.names.find? (·.1 == name)).map (·.2) with
  | some number => some number
  | none =>
    if !name.all Char.isDigit then none
    else
      let value := name.foldl (fun value c => value * 10 + (c.toNat - '0'.toNat)) 0
      if minus then if value ≤ reading.groups + 1 then some (reading.groups + 1 - value) else none
      else some value

def namedGroup (stop : Char) (cs : List Char) : Read (Nat × List Char) := do
  let (minus, cs) := leadingMinus cs
  let (name, rest) ← name? stop cs
  return (← groupNumber (← get) minus name, rest)

def backref (number : Nat) : Read Expr := do
  if number == 0 then failure else return .backref (← referTo number)

-- A reference by number has to be a small one: smaller than half the length of the pattern.
def numberedGroup (size : Nat) (cs : List Char) : Read (Nat × List Char) := do
  let (number, rest) ← decimal? cs
  if number < size / 2 then
    modify fun reading => { reading with byNumber := true }
    return (number, rest)
  else failure

def isHex (c : Char) : Bool := (hexDigit? c).isSome

def hexCode (digits : List Char) : Option Char := do scalar? (hexValue (← digits.mapM hexDigit?))

def bracedCode? : List Char → Option (Char × List Char)
  | '{' :: inner =>
    let digits := inner.takeWhile isHex
    match inner.dropWhile isHex with
    | '}' :: rest => if digits.isEmpty || digits.length > 8 then none else (hexCode digits).map (·, rest)
    | _ => none
  | _ => none

def numbered? (count : Nat) (cs : List Char) : Option (Char × List Char) :=
  let digits := cs.take count
  if digits.length == count && digits.all isHex then (hexCode digits).map (·, cs.drop count) else bracedCode? cs

def propertyName? : List Char → Option (List Char × List Char)
  | '{' :: inner =>
    match inner.dropWhile (· != '}') with
    | _ :: rest => some ('{' :: inner.takeWhile (· != '}') ++ ['}'], rest)
    | [] => none
  | kind :: rest => some ([kind], rest)
  | [] => none

inductive Escape
  | char (c : Char) (folds : Bool)
  | expr (expr : Expr)

def otherEscape? : Char → Option Escape
  | 'a' => some (.char '\x07' false)
  | 'f' => some (.char '\x0c' false)
  | 'n' => some (.char '\n' false)
  | 'r' => some (.char '\r' false)
  | 't' => some (.char '\t' false)
  | 'v' => some (.char '\x0b' false)
  | 'e' => some (.char '\x1b' false)
  | c => if c.isAlpha && !"kAzBKG".toList.contains c then none else some (.char c false)

def placeEscape? : Char → Option Escape
  | 'A' => some (.expr (.place .textStart))
  | 'z' => some (.expr (.place .textEnd))
  | 'B' => some (.expr (.place (.wordInside false)))
  | '<' => some (.expr (.place (.wordStart false)))
  | '>' => some (.expr (.place (.wordEnd false)))
  | 'K' => some (.expr .keepOut)
  | 'G' => some (.expr .searchStart)
  | c => otherEscape? c

-- An escape that is a single character.
def singleEscape? (inClass : Bool) (flags : Flags) (c : Char) : Option Escape :=
  if c.toLower == 'd' || c.toLower == 's' || c.toLower == 'w' then some (.expr (.plain ['\\', c] flags.anyCase))
  else if c == 'h' then some (.expr (.plain "[0-9A-Fa-f]".toList false))
  else if c == 'H' then some (.expr (.plain "[^0-9A-Fa-f]".toList false))
  else if inClass then if c == 'b' then some (.char '\x08' false) else otherEscape? c
  else placeEscape? c

def readNamedBackref : List Char → Read (Escape × List Char)
  | '\'' :: rest => do
    let (number, rest) ← namedGroup '\'' rest
    return (.expr (← backref number), rest)
  | '<' :: rest => do
    let (number, rest) ← namedGroup '>' rest
    return (.expr (← backref number), rest)
  | _ => failure

def readEscape (inClass : Bool) (size : Nat) : List Char → Read (Escape × List Char)
  | [] => failure
  | c :: rest => do
    let flags := (← get).flags
    if c.isDigit then
      if inClass then failure
      else
        let (number, rest) ← numberedGroup size (c :: rest)
        return (.expr (← backref number), rest)
    else if c == 'x' || c == 'u' || c == 'U' then
      let (c, rest) ← numbered? (if c == 'x' then 2 else if c == 'u' then 4 else 8) rest
      return (.char c true, rest)
    else if c == 'p' || c == 'P' then
      let (name, rest) ← propertyName? rest
      return (.expr (.plain ('\\' :: c :: name) flags.anyCase), rest)
    else if c == 'k' && !inClass then readNamedBackref rest
    else if c == 'b' && !inClass then
      if rest.head? == some '{' then failure else return (.expr (.place (.wordEdge false)), rest)
    else return (← singleEscape? inClass flags c, rest)

def escapedInClass (c : Char) : List Char :=
  if needsEscape c || c == '&' || c == '-' || c == '~' then ['\\', c] else [c]

-- Reads a class up to its closing bracket and answers with its text, latest character first.
-- Brackets are only counted here; what they mean is read from the text.
def readClass (size : Nat) : Nat → Nat → List Char → List Char → Read (List Char × List Char)
  | 0, _, _, _ => failure
  | fuel + 1, nest, read, cs => do
    match ← skip cs with
    | [] => failure
    | '\\' :: rest =>
      match ← readEscape true size rest with
      | (.char c _, rest) => readClass size fuel nest ((escapedInClass c).reverse ++ read) rest
      | (.expr (.plain text _), rest) => readClass size fuel nest (text.reverse ++ read) rest
      | _ => failure
    | '[' :: rest => readClass size fuel (nest + 1) ('[' :: read) rest
    | ']' :: rest =>
      if nest ≤ 1 then return (']' :: read, rest)
      else readClass size fuel (nest - 1) (']' :: read) rest
    | c :: rest => readClass size fuel nest (c :: read) rest

def firstInClass (read : List Char) : List Char → List Char × List Char
  | ']' :: rest => (']' :: read, rest)
  | rest => (read, rest)

def classOpening : List Char → List Char × List Char
  | '^' :: rest => firstInClass ['^', '['] rest
  | rest => firstInClass ['['] rest

def charExpr (flags : Flags) (c : Char) : Expr := .char c flags.anyCase

def escapeExpr (flags : Flags) : Escape → Expr
  | .char c folds => .char c (folds && flags.anyCase)
  | .expr expr => expr

inductive Opening
  | look (kind : Look)
  | atomic
  | capture
  | named (name : List Char)
  | backref (name : List Char)
  | condition
  | flags

def namedOpening (stop : Char) (cs : List Char) (opening : List Char → Opening) : Option (Opening × List Char) :=
  (name? stop cs).map fun (name, rest) => (opening name, rest)

def angleOpening : List Char → Option (Opening × List Char)
  | '=' :: rest => some (.look ⟨true, false⟩, rest)
  | '!' :: rest => some (.look ⟨true, true⟩, rest)
  | rest => namedOpening '>' rest .named

def letterOpening : List Char → Option (Opening × List Char)
  | '<' :: rest => namedOpening '>' rest .named
  | '=' :: rest => namedOpening ')' rest .backref
  | rest => some (.flags, 'P' :: rest)

def specialOpening : List Char → Option (Opening × List Char)
  | '=' :: rest => some (.look ⟨false, false⟩, rest)
  | '!' :: rest => some (.look ⟨false, true⟩, rest)
  | '<' :: rest => angleOpening rest
  | 'P' :: rest => letterOpening rest
  | '>' :: rest => some (.atomic, rest)
  | '(' :: rest => some (.condition, rest)
  | rest => some (.flags, rest)

def opening? : List Char → Option (Opening × List Char)
  | '?' :: rest => specialOpening rest
  | rest => some (.capture, rest)

-- Flags up to a colon or a closing parenthesis; `start` says how many characters were read of them.
def readFlags : Nat → Nat → Bool → List Char → Read (Bool × List Char)
  | 0, _, _, _ => failure
  | fuel + 1, read, negative, cs => do
    match ← skip cs with
    | [] => failure
    | ')' :: rest =>
      if read == 0 || (negative && read == 1) then failure else return (true, rest)
    | ':' :: rest => if negative && read == 1 then failure else return (false, rest)
    | '-' :: rest => if negative then failure else readFlags fuel (read + 1) true rest
    | 'u' :: rest => if negative then failure else readFlags fuel (read + 1) negative rest
    | c :: rest =>
      match Flag.ofChar? c with
      | none | some .wideLines => failure
      | some flag =>
        modify fun reading => { reading with flags := reading.flags.set (!negative) flag }
        readFlags fuel (read + 1) negative rest

def openGroup (name : Option (List Char)) : Read Nat := do
  let number := (← get).groups + 1
  modify fun reading =>
    { reading with
      groups := number
      names := match name with
        | some name => (name, number) :: reading.names
        | none => reading.names }
  return number

def depthLimit : Nat := 64

-- References by number and names for groups exclude each other.
def checkReferences : Read Unit := do
  let reading ← get
  if reading.byNumber && !reading.names.isEmpty then failure

def joinParts : List Expr → Expr
  | [] => .empty
  | [part] => part
  | parts => .concat parts

def count? (spaced : Bool) : List Char → Option (Nat × Option Nat × List Char)
  | '?' :: rest => some (0, some 1, rest)
  | '*' :: rest => some (0, none, rest)
  | '+' :: rest => some (1, none, rest)
  | '{' :: rest => bounds? spaced rest
  | _ => none

def possessive (loop : Expr) : List Char → Expr × List Char
  | '+' :: rest => (.atomic loop, rest)
  | rest => (loop, rest)

def tested : Expr → Expr
  | .backref number => .matched number
  | test => test

def readNamedTest (stop : Char) (cs : List Char) : Read (Expr × List Char) := do
  let (number, rest) ← namedGroup stop cs
  return (.matched (← referTo number), rest)

def readTest (size : Nat) (read : List Char → Read (Expr × List Char)) (cs : List Char) : Read (Expr × List Char) := do
  if cs.head?.any Char.isDigit then
    let (number, rest) ← numberedGroup size cs
    return (.matched (← referTo number), rest)
  else match cs with
    | '\'' :: rest => readNamedTest '\'' rest
    | '<' :: rest => readNamedTest '>' rest
    | cs =>
      let (test, rest) ← read cs
      return (tested test, rest)

def Expr.isMatched : Expr → Bool
  | .matched _ => true
  | _ => false

-- A condition whose branches are both empty is its test.
def conditional (test child : Expr) : Expr :=
  let (yes, no) := match child with
    | .alt (first :: [second]) => (first, second)
    | .alt (first :: others) => (first, .alt others)
    | child => (child, .empty)
  if yes.isEmpty && no.isEmpty then test else .condition test yes no

mutual
def readBranches (size depth : Nat) : Nat → List Char → Read (Expr × List Char)
  | 0, _ => failure
  | fuel + 1, cs => do
    let (first, rest) ← readRun size depth fuel [] cs
    match ← skip rest with
    | '|' :: rest =>
      let (others, rest) ← readMore size depth fuel rest
      return (.alt (first :: others), rest)
    | rest =>
      checkReferences
      return (first, rest)

def readMore (size depth : Nat) : Nat → List Char → Read (List Expr × List Char)
  | 0, _ => failure
  | fuel + 1, cs => do
    let (branch, rest) ← readRun size depth fuel [] cs
    match ← skip rest with
    | '|' :: rest =>
      let (others, rest) ← readMore size depth fuel rest
      return (branch :: others, rest)
    | rest => return ([branch], rest)

def readRun (size depth : Nat) : Nat → List Expr → List Char → Read (Expr × List Char)
  | 0, _, _ => failure
  | fuel + 1, parts, cs => do
    if cs.isEmpty then return (joinParts parts.reverse, cs)
    else
      let (part, rest) ← readPart size depth fuel cs
      if rest.length == cs.length then return (joinParts parts.reverse, rest)
      else readRun size depth fuel (if part.isEmpty then parts else part :: parts) rest

def readPart (size depth : Nat) : Nat → List Char → Read (Expr × List Char)
  | 0, _ => failure
  | fuel + 1, cs => do
    let (atom, rest) ← readAtom size depth fuel cs
    let rest ← skip rest
    let flags := (← get).flags
    match count? flags.spaced rest with
    | none => return (atom, rest)
    | some (least, most, rest) =>
      if !atom.isRepeatable then failure
      else
        let (greedy, rest) := readLaziness (← skip rest)
        return possessive (.loop atom least most (greedy != flags.swapGreed)) rest

def readAtom (size depth : Nat) : Nat → List Char → Read (Expr × List Char)
  | 0, _ => failure
  | fuel + 1, cs => do
    let cs ← skip cs
    let flags := (← get).flags
    match cs with
    | [] => return (.empty, [])
    | '.' :: rest => return (.any flags.dotAll, rest)
    | '^' :: rest => return (.place (if flags.multiLine then .lineStart else .textStart), rest)
    | '$' :: rest => return (.place (if flags.multiLine then .lineEnd else .textEnd), rest)
    | '(' :: rest => readGroup size depth fuel rest
    | '\\' :: rest =>
      let (escape, rest) ← readEscape false size rest
      return (escapeExpr flags escape, rest)
    | '[' :: rest =>
      let (read, rest) := classOpening rest
      let (read, rest) ← readClass size (rest.length + 1) 1 read rest
      return (.plain read.reverse flags.anyCase, rest)
    | c :: rest =>
      if c == '+' || c == '*' || c == '?' || c == '|' || c == ')' then return (.empty, cs)
      else return (charExpr flags c, rest)

def readGroup (size depth : Nat) : Nat → List Char → Read (Expr × List Char)
  | 0, _ => failure
  | fuel + 1, cs => do
    let depth := depth + 1
    if depth ≥ depthLimit then failure
    else
      let (opening, rest) ← opening? (← skip cs)
      match opening with
      | .look kind =>
        let (child, rest) ← readBranches size depth fuel rest
        return (.look kind child, ← closing rest)
      | .atomic =>
        let (child, rest) ← readBranches size depth fuel rest
        return (.atomic child, ← closing rest)
      | .capture =>
        let number ← openGroup none
        let (child, rest) ← readBranches size depth fuel rest
        return (.group number false child, ← closing rest)
      | .named name =>
        let number ← openGroup (some name)
        let (child, rest) ← readBranches size depth fuel rest
        return (.group number false child, ← closing rest)
      | .backref name =>
        match (← get).names.find? (·.1 == name) with
        | some (_, number) => return (← backref number, rest)
        | none => failure
      | .condition => readCondition size depth fuel rest
      | .flags =>
        let before := (← get).flags
        match ← readFlags (rest.length + 1) 0 false rest with
        | (true, rest) => return (.empty, rest)
        | (false, rest) =>
          let (child, rest) ← readBranches size depth fuel rest
          let rest ← closing rest
          modify fun reading => { reading with flags := before }
          return (child, rest)

def readCondition (size depth : Nat) : Nat → List Char → Read (Expr × List Char)
  | 0, _ => failure
  | fuel + 1, cs => do
    let (test, rest) ← readTest size (readBranches size depth fuel) cs
    let rest ← closing rest
    let (child, after) ← readBranches size depth fuel rest
    if after.length == rest.length then
      if test.isMatched then return (test, ← closing after) else failure
    else return (conditional test child, ← closing after)
end

namespace Expr

mutual
def mark (referenced : List Nat) : Expr → Expr
  | .group number _ child => .group number (referenced.contains number) (child.mark referenced)
  | .concat parts => .concat (markAll referenced parts)
  | .alt branches => .alt (markAll referenced branches)
  | .loop child least most greedy => .loop (child.mark referenced) least most greedy
  | .look kind child => .look kind (child.mark referenced)
  | .atomic child => .atomic (child.mark referenced)
  | .condition test yes no =>
    .condition (test.mark referenced) (yes.mark referenced) (no.mark referenced)
  | other => other

def markAll (referenced : List Nat) : List Expr → List Expr
  | [] => []
  | part :: rest => part.mark referenced :: markAll referenced rest
end

def read (pattern : List Char) : Option (Expr × Nat) :=
  let size := (String.ofList pattern).utf8ByteSize
  match (readBranches size 0 (8 * pattern.length + 16) pattern).run {} with
  | some ((expr, []), reading) => some (expr.mark reading.referenced, reading.groups)
  | _ => none

end Expr
end RepositoryAccess.Lookaround
