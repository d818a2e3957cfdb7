import RepositoryAccess.Text.NameSet

namespace RepositoryAccess.Directory
open RepositoryAccess.Text

-- Roles may contain each other in a circle.
structure Role where
  id : String
  name : String
  description : String
  privileges : NameSet
  roles : NameSet
  deriving DecidableEq, Inhabited

def Role.new (id : String) (privileges roles : List String) : Role :=
  ⟨id, id, "", .ofList privileges, .ofList roles⟩

structure Privilege where
  id : String
  name : String
  type : String
  properties : List (String × String)
  deriving DecidableEq, Inhabited

def Privilege.new (id type : String) (properties : List (String × String)) : Privilege :=
  ⟨id, id, type, properties⟩

def Privilege.property (privilege : Privilege) (key : String) : Option String :=
  (privilege.properties.find? (·.1 = key)).map (·.2)

structure RoleRef where
  source : String
  role : String
  deriving DecidableEq, Repr

structure User where
  id : String
  source : String
  roles : NameSet
  deriving DecidableEq, Inhabited

def User.new (id source : String) (roles : List String) : User := ⟨id, source, .ofList roles⟩

def User.roleRefs (user : User) : List RoleRef := user.roles.names.map (⟨user.source, ·⟩)

end RepositoryAccess.Directory
