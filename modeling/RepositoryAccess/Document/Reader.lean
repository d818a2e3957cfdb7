import RepositoryAccess.Document.Moment
import RepositoryAccess.Document.Table

namespace RepositoryAccess.Document

-- Arrays and closed tables are nested less deep than this, and keys have fewer parts.
def depthEnd : Nat := 80

def isKeyChar (c : Char) : Bool := c.isAlphanum || c == '-' || c == '_'

def keyPart : Read String
  | '"' :: rest => quotedLine double (rest.length + 1) [] rest
  | '\'' :: rest => quotedLine single (rest.length + 1) [] rest
  | cs =>
    let name := cs.takeWhile isKeyChar
    if name.isEmpty then none else some (String.ofList name, cs.dropWhile isKeyChar)

def keyParts : Nat → Read (List String)
  | 0, _ => none
  | fuel + 1, cs => do
    let (part, rest) ← keyPart (skipGaps cs)
    match skipGaps rest with
    | '.' :: rest => do
      let (parts, rest) ← keyParts fuel rest
      return (part :: parts, rest)
    | rest => return ([part], rest)

def key : Read (List String × String) := fun cs => do
  let (parts, rest) ← keyParts cs.length cs
  if parts.length ≥ depthEnd then none
  else return ((parts.dropLast, ← parts.getLast?), rest)

def elements (value : Read Value) : Nat → List Value → Read Value
  | 0, _, _ => none
  | fuel + 1, found, cs => do
    match ← skipLines (cs.length + 1) cs with
    | ']' :: rest => return (.array found.reverse, rest)
    | cs => do
      let (element, rest) ← value cs
      match ← skipLines (rest.length + 1) rest with
      | ',' :: rest => elements value fuel (element :: found) rest
      | ']' :: rest => return (.array (element :: found).reverse, rest)
      | _ => none

def pair (value : Read Value) : Read (List String × String × Value) := fun cs => do
  let ((path, name), rest) ← key cs
  let (held, rest) ← value (skipGaps (← mark? '=' rest))
  return ((path, name, held), skipGaps rest)

def morePairs (value : Read Value) : Nat → Read (List (List String × String × Value))
  | 0, _ => none
  | fuel + 1, cs => do
    let (first, rest) ← pair value cs
    match rest with
    | ',' :: rest => do
      let (others, rest) ← morePairs value fuel rest
      return (first :: others, rest)
    | '}' :: rest => return ([first], rest)
    | _ => none

def closed (value : Read Value) : Read Value := fun cs =>
  match skipGaps cs with
  | '}' :: rest => some (.table .closed [], rest)
  | cs => do
    let (pairs, rest) ← morePairs value cs.length cs
    return (← closedTable pairs, rest)

def value : Nat → Read Value
  | _, '"' :: rest => do
    let (content, rest) ← quotedBy double ('"' :: rest)
    return (.text content, rest)
  | _, '\'' :: rest => do
    let (content, rest) ← quotedBy single ('\'' :: rest)
    return (.text content, rest)
  | depth + 1, '[' :: rest => elements (value depth) (rest.length + 1) [] rest
  | depth + 1, '\x7b' :: rest => closed (value depth) rest
  | _, 't' :: 'r' :: 'u' :: 'e' :: rest => some (.truth true, rest)
  | _, 'f' :: 'a' :: 'l' :: 's' :: 'e' :: rest => some (.truth false, rest)
  | _, cs => if isMoment cs then moment cs else number cs

def entry (draft : Draft) : Read Draft := fun cs => do
  let ((path, name, held), rest) ← pair (value (depthEnd - 1)) cs
  return (← draft.addEntry path name held, ← lineEnd? rest)

def header (draft : Draft) (element : Bool) : Read Draft := fun cs => do
  let ((path, name), rest) ← key cs
  let rest ← mark? ']' rest
  let rest ← if element then mark? ']' rest else some rest
  return (← draft.addHeader element path name, ← lineEnd? rest)

def lines : Nat → Draft → List Char → Option Draft
  | 0, _, _ => none
  | fuel + 1, draft, cs => do
    match ← skipLines (cs.length + 1) cs with
    | [] => return draft
    | '[' :: '[' :: rest => do
      let (draft, rest) ← header draft true rest
      lines fuel draft rest
    | '[' :: rest => do
      let (draft, rest) ← header draft false rest
      lines fuel draft rest
    | cs => do
      let (draft, rest) ← entry draft cs
      lines fuel draft rest

-- A byte order mark at the very beginning does not count.
def read (text : String) : Option Entries := do
  let cs := match text.toList with
    | '\uFEFF' :: rest => rest
    | cs => cs
  let draft ← lines (cs.length + 1) {} cs
  return draft.entries

end RepositoryAccess.Document
