import RepositoryAccess.Pattern.Property
import RepositoryAccess.Pattern.Syntax
import RepositoryAccess.Text.Word

namespace RepositoryAccess.Pattern
open RepositoryAccess.Text

inductive Atom
  | char (c : Char)
  | set (set : CharSet)
  | place (place : Place)

-- Blanks and comments mean nothing in a spaced pattern; a comment ends with its line.
def skipSpaced (comment : Bool) : List Char → List Char
  | [] => []
  | c :: rest =>
    if comment then skipSpaced (c != '\n') rest
    else if isBlank c then skipSpaced false rest
    else if c == '#' then skipSpaced true rest
    else c :: rest

def Flags.skip (flags : Flags) (cs : List Char) : List Char :=
  if flags.spaced then skipSpaced false cs else cs

def Flags.fold (flags : Flags) (set : CharSet) : CharSet :=
  if !flags.anyCase then set else if flags.unicode then .anyCase set else .anyAsciiCase set

-- Without Unicode a set may not reach beyond ASCII, as every complement does.
def Flags.negate (flags : Flags) (negated : Bool) (set : CharSet) : Option CharSet :=
  if !negated then some set else if flags.unicode then some (.complement set) else none

def hexDigit? (c : Char) : Option Nat :=
  if c.isDigit then some (c.toNat - '0'.toNat)
  else if 'a' ≤ c && c ≤ 'f' then some (c.toNat - 'a'.toNat + 10)
  else if 'A' ≤ c && c ≤ 'F' then some (c.toNat - 'A'.toNat + 10)
  else none

def hexValue (digits : List Nat) : Nat := digits.foldl (fun value digit => value * 16 + digit) 0

def scalar? (n : Nat) : Option Char := if h : n.isValidChar then some (Char.ofNatAux n h) else none

def hexDigits (flags : Flags) : Nat → List Char → Option (List Nat × List Char)
  | 0, cs => some ([], cs)
  | count + 1, cs =>
    match cs with
    | [] => none
    | c :: rest => do
      let digit ← hexDigit? c
      let (digits, rest) ← hexDigits flags count (flags.skip rest)
      return (digit :: digits, rest)

def upToBrace (flags : Flags) : Nat → List Char → Option (List Char × List Char)
  | 0, _ => none
  | fuel + 1, cs =>
    match flags.skip cs with
    | [] => none
    | '}' :: rest => some ([], rest)
    | c :: rest => (upToBrace flags fuel rest).map fun (inner, rest) => (c :: inner, rest)

-- A character by its number: a fixed count of digits, or any number of them in braces.  Two digits
-- without braces name a byte, which without Unicode has to be an ASCII one.
def readNumbered (flags : Flags) (kind : Char) (cs : List Char) : Option (Char × List Char) :=
  match flags.skip cs with
  | '{' :: rest => do
    let (inner, rest) ← upToBrace flags (rest.length + 1) rest
    let digits ← inner.mapM hexDigit?
    if digits.isEmpty then none
    else do
      let c ← scalar? (hexValue digits)
      return (c, flags.skip rest)
  | cs => do
    let (digits, rest) ← hexDigits flags (if kind == 'x' then 2 else if kind == 'u' then 4 else 8) cs
    let c ← scalar? (hexValue digits)
    if kind == 'x' && !flags.unicode && c.toNat ≥ 128 then none else return (c, rest)

def readProperty (name : List Char) : Option (Bool × (Char → Bool)) :=
  let before := fun (stop : Char) => String.ofList (name.takeWhile (· != stop))
  let after := fun (stop : Char) => String.ofList ((name.dropWhile (· != stop)).drop 1)
  let rec denied : List Char → List Char → Option (String × String)
    | '!' :: '=' :: rest, read => some (String.ofList read.reverse, String.ofList rest)
    | c :: rest, read => denied rest (c :: read)
    | [], _ => none
  match denied name [] with
  | some (family, value) => (propertyValued family value).map (true, ·)
  | none =>
    if name.contains ':' then (propertyValued (before ':') (after ':')).map (false, ·)
    else if name.contains '=' then (propertyValued (before '=') (after '=')).map (false, ·)
    else (propertyNamed (String.ofList name)).map (false, ·)

def readPropertyClass (flags : Flags) (negated : Bool) (cs : List Char) :
    Option (CharSet × List Char) := do
  let (name, rest) ← match cs with
    | '{' :: rest => upToBrace flags (rest.length + 1) rest
    | '\\' :: _ => none
    | c :: rest => some ([c], rest)
    | [] => none
  if !flags.unicode then none
  else do
    let (denied, property) ← readProperty name
    let set ← flags.negate (negated != denied) (flags.fold (.having property))
    return (set, rest)

def asciiSet (ranges : List (Char × Char)) : CharSet :=
  .unionAll (ranges.map fun (first, last) => .between first last)

def shorthandSet (flags : Flags) (letter : Char) : CharSet :=
  match letter with
  | 'd' => if flags.unicode then .having isDecimalDigit else asciiSet [('0', '9')]
  | 's' => if flags.unicode then .having isBlank else asciiSet [('\t', '\r'), (' ', ' ')]
  | _ => if flags.unicode then .having isWord
    else asciiSet [('0', '9'), ('A', 'Z'), ('_', '_'), ('a', 'z')]

def isPlaceLetter (c : Char) : Bool := c.isAlpha || c == '-'

def placeLetters (flags : Flags) : Nat → List Char → List Char × List Char
  | 0, cs => ([], cs)
  | fuel + 1, cs =>
    match cs with
    | [] => ([], [])
    | c :: rest =>
      if isPlaceLetter c then
        let (inner, rest) := placeLetters flags fuel (flags.skip rest)
        (c :: inner, rest)
      else ([], c :: rest)

def namedEdge? (ascii : Bool) (name : String) : Option Place :=
  if name == "start" then some (.wordStart ascii)
  else if name == "end" then some (.wordEnd ascii)
  else if name == "start-half" then some (.wordStartHalf ascii)
  else if name == "end-half" then some (.wordEndHalf ascii)
  else none

-- A brace after a word edge names its kind when a letter or a hyphen follows; otherwise it is left
-- alone, as the beginning of a count.
def readEdge (flags : Flags) (cs : List Char) : Option (Place × List Char) :=
  let plain := Place.wordEdge !flags.unicode
  match cs with
  | '{' :: rest =>
    match flags.skip rest with
    | [] => none
    | c :: inner =>
      if !isPlaceLetter c then some (plain, cs)
      else
        match placeLetters flags (inner.length + 2) (c :: inner) with
        | (name, '}' :: rest) =>
          (namedEdge? (!flags.unicode) (String.ofList name)).map (·, rest)
        | _ => none
  | cs => some (plain, cs)

def standsForItself (c : Char) : Bool :=
  c.toNat < 128 && !c.isAlphanum && c != '<' && c != '>'

def readEscape (flags : Flags) : List Char → Option (Atom × List Char)
  | [] => none
  | c :: rest =>
    let ascii := !flags.unicode
    if c == 'x' || c == 'u' || c == 'U' then
      (readNumbered flags c rest).map fun (c, rest) => (.char c, rest)
    else if c == 'p' || c == 'P' then
      (readPropertyClass flags (c == 'P') rest).map fun (set, rest) => (.set set, rest)
    else if c == 'd' || c == 's' || c == 'w' then some (.set (shorthandSet flags c), rest)
    else if c == 'D' || c == 'S' || c == 'W' then
      (flags.negate true (shorthandSet flags c.toLower)).map fun set => (.set set, rest)
    else if standsForItself c then some (.char c, rest)
    else match c with
      | 'a' => some (.char '\x07', rest)
      | 'f' => some (.char '\x0c', rest)
      | 't' => some (.char '\t', rest)
      | 'n' => some (.char '\n', rest)
      | 'r' => some (.char '\r', rest)
      | 'v' => some (.char '\x0b', rest)
      | 'A' => some (.place .textStart, rest)
      | 'z' => some (.place .textEnd, rest)
      | 'b' => (readEdge flags rest).map fun (place, rest) => (.place place, rest)
      | 'B' => some (.place (.wordInside ascii), rest)
      | '<' => some (.place (.wordStart ascii), rest)
      | '>' => some (.place (.wordEnd ascii), rest)
      | _ => none

end RepositoryAccess.Pattern
