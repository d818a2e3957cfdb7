import RepositoryAccess.Permission.Basic

namespace RepositoryAccess

-- In the order in which they were first put in; one that is the same as another is dropped.
structure Holdings where
  members : List Permission
  deriving DecidableEq

namespace Holdings

def empty : Holdings := ⟨[]⟩

instance : Inhabited Holdings := ⟨empty⟩

def contains (held : Holdings) (permission : Permission) : Bool := held.members.any (·.same permission)

def insert (held : Holdings) (permission : Permission) : Holdings :=
  if held.contains permission then held else ⟨held.members ++ [permission]⟩

def put (held : Holdings) (permission : Permission) : Bool × Holdings :=
  (!held.contains permission, held.insert permission)

def insertAll (held : Holdings) (permissions : List Permission) : Holdings :=
  permissions.foldl insert held

def merge (held other : Holdings) : Holdings := held.insertAll other.members

def ofList (permissions : List Permission) : Holdings := empty.insertAll permissions

def size (held : Holdings) : Nat := held.members.length

def texts (held : Holdings) : List String := held.members.map (·.text)

-- A constant that is itself held is granted without comparing it with the others.
def permits (held : Holdings) (asked : Permission) : Bool :=
  (asked.isConstant && held.contains asked) || held.members.any (·.implies asked)

def same (left right : Holdings) : Bool :=
  left.size == right.size && left.members.all right.contains

end Holdings
end RepositoryAccess
