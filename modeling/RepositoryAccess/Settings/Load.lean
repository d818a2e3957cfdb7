import RepositoryAccess.Settings.Environment
import RepositoryAccess.Document.Reader
import RepositoryAccess.Fault

namespace RepositoryAccess.Settings

def numberAt (entries : Document.Entries) (name : String) (otherwise : Nat) : Option Nat :=
  match entries.find name with
  | none => some otherwise
  | some (.integer value) => if value < 0 then none else some value.toNat
  | some _ => none

def textAt (entries : Document.Entries) (name : String) (otherwise : String) : Option String :=
  match entries.find name with
  | none => some otherwise
  | some (.text content) => some content
  | some _ => none

def ofEntries (entries : Document.Entries) : Option Settings := do
  let standard : Settings := {}
  return {
    missingRoles := ← numberAt entries "role_not_found_cache_size" standard.missingRoles
    missingRoleSeconds := ← numberAt entries "role_not_found_ttl_secs" standard.missingRoleSeconds
    rolePermissions := ← numberAt entries "role_permissions_high_water" standard.rolePermissions
    privilegePermissions :=
      ← numberAt entries "privilege_cache_high_water" standard.privilegePermissions
    mintedPermissions :=
      ← numberAt entries "permission_factory_high_water" standard.mintedPermissions
    roleSets := ← numberAt entries "role_set_high_water" standard.roleSets
    refreshMilliseconds := ← numberAt entries "refresh_interval_ms" standard.refreshMilliseconds
    graceMilliseconds := ← numberAt entries "shutdown_grace_ms" standard.graceMilliseconds
    realmName := ← textAt entries "realm_name" standard.realmName }

def ofDocument (text : String) : Option Settings := do ofEntries (← Document.read text)

inductive LoadFailure
  | unreadable (path : String)
  | malformed
  | misread (cause : Misread)
  | unusable (reason : Unusable)
  deriving DecidableEq, Repr

def Unusable.fault (reason : Unusable) : Fault := .settings reason.message

def LoadFailure.message : LoadFailure → String
  | .unreadable path => "Failed to read " ++ path
  | .malformed => "Failed to parse authorization configuration"
  | .misread cause => cause.message
  | .unusable reason => reason.fault.message

def parse (text : String) : Except LoadFailure Settings :=
  match ofDocument text with
  | some settings => .ok settings
  | none => .error .malformed

def parseWithin (environment : Environment) (text : String) : Except LoadFailure Settings := do
  let settings ← parse text
  match settings.override environment with
  | (.ok (), settings) => .ok settings
  | (.error named, _) => .error (.misread named)

def load (path : String) (contents : Option String) (environment : Environment) :
    Except LoadFailure Settings := do
  match contents with
  | none => .error (.unreadable path)
  | some text =>
    let settings ← parseWithin environment text
    match settings.validate with
    | .ok () => .ok settings
    | .error reason => .error (.unusable reason)

end RepositoryAccess.Settings
