import RepositoryAccess.Text.Blank

namespace RepositoryAccess

-- Sizes are numbers of entries, except for the last one, which is a weight.
structure Settings where
  missingRoles : Nat := 100000
  missingRoleSeconds : Nat := 0
  rolePermissions : Nat := 50000
  privilegePermissions : Nat := 100000
  mintedPermissions : Nat := 100000
  roleSets : Nat := 50000
  refreshMilliseconds : Nat := 3000
  graceMilliseconds : Nat := 2000
  realmName : String := "XmlAuthorizingRealm"
  deriving DecidableEq, Repr

namespace Settings

instance : Inhabited Settings := ⟨{}⟩

def wordEnd : Nat := UInt64.size

def span (milliseconds : Nat) : Nat × Nat := (milliseconds / 1000, milliseconds % 1000)

def refreshInterval (settings : Settings) : Nat × Nat := span settings.refreshMilliseconds

def shutdownGrace (settings : Settings) : Nat × Nat := span settings.graceMilliseconds

-- How many seconds a role is taken to be missing without asking again; forever when there is no
-- number.
def missingRoleTtl (settings : Settings) : Option Nat :=
  if settings.missingRoleSeconds > 0 then some settings.missingRoleSeconds else none

inductive Unusable
  | noMissingRoles
  | noRefreshInterval
  | blankRealmName
  deriving DecidableEq, Repr

def Unusable.message : Unusable → String
  | .noMissingRoles => "role_not_found_cache_size must be greater than 0"
  | .noRefreshInterval => "refresh_interval_ms must be greater than 0"
  | .blankRealmName => "realm_name cannot be empty"

-- Only the first thing that is wrong is told.
def validate (settings : Settings) : Except Unusable Unit :=
  if settings.missingRoles = 0 then .error .noMissingRoles
  else if settings.refreshMilliseconds = 0 then .error .noRefreshInterval
  else if Text.isBlankText settings.realmName then .error .blankRealmName
  else .ok ()

end Settings
end RepositoryAccess
