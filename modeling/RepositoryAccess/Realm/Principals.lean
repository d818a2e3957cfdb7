import RepositoryAccess.Permission.Basic
import RepositoryAccess.Fault

namespace RepositoryAccess
open RepositoryAccess.Text

structure Principals where
  primary : String
  realms : NameSet
  deriving DecidableEq

-- What a user was given: roles, and permissions that need no role, some of them as text.
structure Entitlement where
  roles : NameSet
  texts : NameSet
  permissions : List Permission
  deriving DecidableEq

namespace Entitlement

def ofRoles (roles : NameSet) : Entitlement := ⟨roles, .empty, []⟩

def isExplicit (entitlement : Entitlement) : Bool :=
  !entitlement.texts.isEmpty || !entitlement.permissions.isEmpty

end Entitlement
end RepositoryAccess
