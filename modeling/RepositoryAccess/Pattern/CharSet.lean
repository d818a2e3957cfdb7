import RepositoryAccess.Text.CaseFold

namespace RepositoryAccess.Pattern
open RepositoryAccess.Text

inductive CharSet
  | none
  | any
  | only (c : Char)
  | between (first last : Char)
  | having (property : Char → Bool)
  | complement (set : CharSet)
  | union (left right : CharSet)
  | inter (left right : CharSet)
  | anyCase (set : CharSet)
  | anyAsciiCase (set : CharSet)

def asciiPartner (c : Char) : Option Char :=
  if c.isUpper then some c.toLower else if c.isLower then some c.toUpper else none

namespace CharSet

def contains : CharSet → Char → Bool
  | .none, _ => false
  | .any, _ => true
  | .only own, c => own == c
  | .between first last, c => first.toNat ≤ c.toNat && c.toNat ≤ last.toNat
  | .having property, c => property c
  | .complement set, c => !set.contains c
  | .union left right, c => left.contains c || right.contains c
  | .inter left right, c => left.contains c && right.contains c
  | .anyCase set, c => set.contains c || (casePartners c).any set.contains
  | .anyAsciiCase set, c =>
    set.contains c || (match asciiPartner c with
      | some partner => set.contains partner
      | Option.none => false)

def without (left right : CharSet) : CharSet := left.inter right.complement

def apart (left right : CharSet) : CharSet := (left.without right).union (right.without left)

def unionAll : List CharSet → CharSet
  | [] => .none
  | [last] => last
  | first :: rest => first.union (unionAll rest)

end CharSet
end RepositoryAccess.Pattern
