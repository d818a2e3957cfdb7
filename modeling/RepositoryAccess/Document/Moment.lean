import RepositoryAccess.Document.Number

namespace RepositoryAccess.Document

def within? (width least most : Nat) (cs : List Char) : Option (Nat × List Char) :=
  let digits := cs.take width
  let value := valueOf 10 digits
  if digits.length = width ∧ digits.all Char.isDigit ∧ least ≤ value ∧ value ≤ most then
    some (value, cs.drop width)
  else none

def mark? (mark : Char) : List Char → Option (List Char)
  | c :: rest => if c = mark then some rest else none
  | [] => none

def isLeap (year : Nat) : Bool := year % 4 = 0 && (year % 100 ≠ 0 || year % 400 = 0)

def daysIn (year month : Nat) : Nat :=
  if month = 2 then (if isLeap year then 29 else 28)
  else if month = 4 || month = 6 || month = 9 || month = 11 then 30
  else 31

def date? (cs : List Char) : Option (List Char) := do
  let (year, cs) ← within? 4 0 9999 cs
  let (month, cs) ← within? 2 1 12 (← mark? '-' cs)
  let (_, cs) ← within? 2 1 (daysIn year month) (← mark? '-' cs)
  return cs

def time? (cs : List Char) : Option (List Char) := do
  let (_, cs) ← within? 2 0 23 cs
  let (_, cs) ← within? 2 0 59 (← mark? ':' cs)
  let (_, cs) ← within? 2 0 60 (← mark? ':' cs)
  match cs with
  | '.' :: c :: rest => if c.isDigit then some (rest.dropWhile Char.isDigit) else some cs
  | cs => some cs

def distance? : List Char → Option (List Char)
  | [] => some []
  | c :: rest =>
    if c = 'Z' || c = 'z' then some rest
    else if c = '+' || c = '-' then do
      let (_, rest) ← within? 2 0 23 rest
      let (_, rest) ← within? 2 0 59 (← mark? ':' rest)
      return rest
    else some (c :: rest)

def timeOfDate? : List Char → Option (List Char)
  | [] => some []
  | c :: rest =>
    if (c = 'T' || c = 't' || c = ' ') && (rest.head?.map Char.isDigit).getD false then do
      distance? (← time? rest)
    else some (c :: rest)

def isMoment (cs : List Char) : Bool :=
  ((cs.take 4).length = 4 && (cs.take 4).all Char.isDigit && cs[4]? = some '-') ||
    ((cs.take 2).length = 2 && (cs.take 2).all Char.isDigit && cs[2]? = some ':')

def moment : Read Value := fun cs => do
  let rest ← if cs[4]? = some '-' then timeOfDate? (← date? cs) else time? cs
  return (.moment (taken cs rest), rest)

end RepositoryAccess.Document
