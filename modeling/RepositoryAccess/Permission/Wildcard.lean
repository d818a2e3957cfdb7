import RepositoryAccess.Text.Blank
import RepositoryAccess.Text.Pieces
import RepositoryAccess.Text.NameSet

namespace RepositoryAccess.Permission
open RepositoryAccess.Text

inductive Malformed
  | blank
  | blankWildcard
  | barePart (trimmed : String)
  deriving DecidableEq, Repr

def Malformed.message : Malformed → String
  | .blank => "Permission text cannot be empty"
  | .blankWildcard => "Wildcard string cannot be empty"
  | .barePart trimmed => "'" ++ trimmed ++ "' contains a part with no sub-parts"

def anything : String := "*"

-- Text is kept as it was written, apart from outer blanks; the parts alone decide what is granted.
structure Wildcard where
  text : String
  parts : List NameSet
  deriving DecidableEq

def alternatives (part : List Char) : List String :=
  ((pieces ',' part).map trim |>.filter (!·.isEmpty)).map String.ofList

-- A blank part, as in `a::b`, is kept as the empty alternative; a part of commas alone is refused.
def readPart (part : List Char) : Option NameSet :=
  match alternatives part with
  | [] => if ',' ∈ part then none else some (NameSet.singleton (String.ofList (trim part)))
  | found => some (NameSet.ofList found)

def Wildcard.parse (text : String) : Except Malformed Wildcard :=
  let trimmed := trim text.toList
  if trimmed.isEmpty then .error .blankWildcard
  else match (pieces ':' trimmed).mapM readPart with
    | none => .error (.barePart (String.ofList trimmed))
    | some parts => .ok ⟨String.ofList trimmed, parts⟩

def Wildcard.ofPlain (text : String) : Wildcard :=
  let trimmed := trim text.toList
  ⟨String.ofList trimmed,
    (pieces ':' trimmed).map fun part => NameSet.singleton (String.ofList (trim part))⟩

-- A part covers another when it stands for everything or has each of the other's alternatives.
def covers (own other : NameSet) : Bool :=
  decide (anything ∈ own) || other.subset own

-- Parts are compared in order.  When this side ends first it grants the rest; parts it has beyond
-- the other side must stand for everything.
def partsImply : List NameSet → List NameSet → Bool
  | [], _ => true
  | own, [] => own.all fun part => decide (anything ∈ part)
  | own :: owns, other :: others => covers own other && partsImply owns others

def Wildcard.implies (holder request : Wildcard) : Bool := partsImply holder.parts request.parts

def Wildcard.same (left right : Wildcard) : Bool := decide (left.parts = right.parts)

end RepositoryAccess.Permission
