namespace RepositoryAccess.Document

abbrev Read (α : Type) := List Char → Option (α × List Char)

def isGap (c : Char) : Bool := c == ' ' || c == '\t'

def isAllowed (c : Char) : Bool := c == '\t' || (0x20 ≤ c.toNat && c.toNat ≠ 0x7F)

def skipGaps (cs : List Char) : List Char := cs.dropWhile isGap

def lineBreak? : List Char → Option (List Char)
  | '\n' :: rest => some rest
  | '\r' :: '\n' :: rest => some rest
  | _ => none

def skipRemark : List Char → List Char
  | '#' :: rest => rest.dropWhile isAllowed
  | cs => cs

def lineEnd? (cs : List Char) : Option (List Char) :=
  match skipRemark (skipGaps cs) with
  | [] => some []
  | cs => lineBreak? cs

-- Gaps, line breaks and whole remarks; the fuel bounds the number of lines.
def skipLines : Nat → List Char → Option (List Char)
  | 0, _ => none
  | fuel + 1, cs =>
    match skipGaps cs with
    | '#' :: rest => do skipLines fuel (← lineEnd? ('#' :: rest))
    | cs => match lineBreak? cs with
      | some rest => skipLines fuel rest
      | none => some cs

def hexDigit? (c : Char) : Option Nat :=
  if c.isDigit then some (c.toNat - 48)
  else if 'a' ≤ c ∧ c ≤ 'f' then some (c.toNat - 87)
  else if 'A' ≤ c ∧ c ≤ 'F' then some (c.toNat - 55)
  else none

def numbered (width : Nat) : Read Char := fun cs => do
  let digits ← (cs.take width).mapM hexDigit?
  let number := digits.foldl (· * 16 + ·) 0
  if h : digits.length = width ∧ number.isValidChar then
    return (Char.ofNatAux number h.2, cs.drop width)
  else none

def escaped : Read Char
  | 'b' :: rest => some ('\x08', rest)
  | 't' :: rest => some ('\t', rest)
  | 'n' :: rest => some ('\n', rest)
  | 'f' :: rest => some ('\x0c', rest)
  | 'r' :: rest => some ('\r', rest)
  | '"' :: rest => some ('"', rest)
  | '\\' :: rest => some ('\\', rest)
  | 'u' :: rest => numbered 4 rest
  | 'U' :: rest => numbered 8 rest
  | _ => none

-- Double quotes take escapes, single quotes take every character as it stands.
structure Quote where
  mark : Char
  escapes : Bool

def quotedLine (quote : Quote) : Nat → List Char → Read String
  | 0, _, _ => none
  | _, _, [] => none
  | fuel + 1, read, c :: rest =>
    if c = quote.mark then some (String.ofList read.reverse, rest)
    else if c = '\\' ∧ quote.escapes then do
      let (c, rest) ← escaped rest
      quotedLine quote fuel (c :: read) rest
    else if isAllowed c then quotedLine quote fuel (c :: read) rest
    else none

def skipBlankLines : Nat → List Char → List Char
  | 0, cs => cs
  | fuel + 1, cs => match lineBreak? (skipGaps cs) with
    | some rest => skipBlankLines fuel rest
    | none => skipGaps cs

-- A text over several lines, after its three opening marks.  Three marks close it, and up to two
-- marks directly before those belong to it.
def quotedLines (quote : Quote) : Nat → List Char → Read String
  | 0, _, _ => none
  | _, _, [] => none
  | fuel + 1, read, c :: rest =>
    if c = quote.mark then
      let marks := 1 + (rest.takeWhile (· = quote.mark)).length
      if marks < 3 then quotedLines quote fuel (c :: read) rest
      else
        let own := min (marks - 3) 2
        some (String.ofList (read.reverse ++ List.replicate own c), rest.drop (own + 2))
    else if c = '\\' ∧ quote.escapes then
      match lineBreak? (skipGaps rest) with
      | some next => quotedLines quote fuel read (skipBlankLines next.length next)
      | none => do
        let (c, rest) ← escaped rest
        quotedLines quote fuel (c :: read) rest
    else match lineBreak? (c :: rest) with
      | some next => quotedLines quote fuel ('\n' :: read) next
      | none => if isAllowed c then quotedLines quote fuel (c :: read) rest else none

def quotedBy (quote : Quote) : Read String
  | a :: b :: c :: rest =>
    if a = quote.mark ∧ b = quote.mark ∧ c = quote.mark then
      let body := (lineBreak? rest).getD rest
      quotedLines quote (body.length + 1) [] body
    else quotedLine quote (rest.length + 3) [] (b :: c :: rest)
  | _ :: rest => quotedLine quote (rest.length + 1) [] rest
  | [] => none

def double : Quote := ⟨'"', true⟩
def single : Quote := ⟨'\'', false⟩

end RepositoryAccess.Document
