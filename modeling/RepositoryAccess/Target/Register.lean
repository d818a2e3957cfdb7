import RepositoryAccess.Target.Basic

namespace RepositoryAccess.Target

-- Targets by id, held in no particular order.
structure Register (Class : Type := ContentClass) where
  entries : List (Target Class)

namespace Register
variable {Class : Type}

def empty : Register Class := ⟨[]⟩

def get (register : Register Class) (id : String) : Option (Target Class) := register.entries.find? (·.id = id)

-- Answers also with the target that was replaced.
def add (register : Register Class) (target : Target Class) : Option (Target Class) × Register Class :=
  (register.get target.id, ⟨target :: register.entries.filter (·.id ≠ target.id)⟩)

def remove (register : Register Class) (id : String) : Option (Target Class) × Register Class :=
  (register.get id, ⟨register.entries.filter (·.id ≠ id)⟩)

def inOrder (targets : List (Target Class)) : List (Target Class) :=
  targets.mergeSort fun left right => left.id ≤ right.id

def targets (register : Register Class) : List (Target Class) := inOrder register.entries

def matching [Classification Class] (register : Register Class) (contentClass : Class) (path : String) :
    List (Target Class) :=
  inOrder (register.entries.filter (·.containsPath contentClass path))

end Register
end RepositoryAccess.Target
