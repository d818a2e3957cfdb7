namespace RepositoryAccess

structure Numbering where
  next : Nat := 0
  deriving DecidableEq, Inhabited

-- No number is given twice: two things with the same number are the same instance.
structure Numbered (α : Type) where
  number : Nat
  value : α
  deriving DecidableEq

namespace Numbering

def fresh (numbering : Numbering) : Nat × Numbering := (numbering.next, ⟨numbering.next + 1⟩)

def give {α : Type} (numbering : Numbering) (value : α) : Numbered α × Numbering :=
  (⟨numbering.next, value⟩, ⟨numbering.next + 1⟩)

def many (numbering : Numbering) : Nat → List Nat × Numbering
  | 0 => ([], numbering)
  | count + 1 =>
    let (first, numbering) := numbering.fresh
    let (others, numbering) := numbering.many count
    (first :: others, numbering)

end Numbering
end RepositoryAccess
