import RepositoryAccess.Directory.Descriptor
import RepositoryAccess.Permission.Shared
import RepositoryAccess.Cache.Recent
import RepositoryAccess.Settings.Basic
import RepositoryAccess.Numbering

namespace RepositoryAccess
open RepositoryAccess.Directory

-- `moment` is the time at which the missing-role cache is used next, in nanoseconds; no two uses of it fall
-- together.
structure Resolver where
  descriptors : List Descriptor
  mint : Permission.Mint
  roles : Cache.Guarded String (Numbered Holdings)
  privileges : Cache.Guarded String Permission
  missing : Cache.Recent String
  latest : Option String := none
  generation : Nat
  epoch : Nat := 0
  moment : Nat := 0

namespace Resolver

def nanoseconds (seconds : Nat) : Nat := seconds * 1000000000

def new (descriptors : List Descriptor) (settings : Settings) (generation : Nat) : Resolver where
  descriptors
  mint := .new settings.mintedPermissions
  roles := .new settings.rolePermissions
  privileges := .new settings.privilegePermissions
  missing := .new settings.missingRoles (settings.missingRoleTtl.map nanoseconds)
  generation

instance : Inhabited Resolver := ⟨new [] {} 0⟩

def knownRole (resolver : Resolver) (id : String) : Option (Numbered Holdings) × Resolver :=
  let (found, roles) := resolver.roles.get id
  (found, { resolver with roles })

def rememberRole (resolver : Resolver) (epoch : Nat) (id : String) (granted : Numbered Holdings) :
    Resolver :=
  if resolver.epoch = epoch then { resolver with roles := resolver.roles.insert id granted }
  else resolver

-- The role resolved last is the one that the dirty check reads.
def settle (resolver : Resolver) (id : String) : Resolver := { resolver with latest := some id }

def knownPrivilege (resolver : Resolver) (id : String) : Option Permission × Resolver :=
  let (found, privileges) := resolver.privileges.get id
  (found, { resolver with privileges })

def rememberPrivilege (resolver : Resolver) (epoch : Nat) (id : String) (permission : Permission) :
    Resolver :=
  if resolver.epoch = epoch then
    { resolver with privileges := resolver.privileges.insert id permission }
  else resolver

def knownMissing (resolver : Resolver) (id : String) : Bool × Resolver :=
  let (found, missing) := resolver.missing.contains id resolver.moment
  (found, { resolver with missing, moment := resolver.moment + 1 })

def rememberMissing (resolver : Resolver) (epoch : Nat) (id : String) : Resolver :=
  if resolver.epoch = epoch then
    { resolver with missing := resolver.missing.insert id resolver.moment,
                    moment := resolver.moment + 1 }
  else resolver

def wait (resolver : Resolver) (milliseconds : Nat) : Resolver :=
  { resolver with moment := resolver.moment + milliseconds * 1000000 }

def create (resolver : Resolver) (text : String) :
    Except Permission.Malformed Permission × Resolver :=
  let (made, mint) := resolver.mint.create text
  (made.map (·.permission), { resolver with mint })

def clearMint (resolver : Resolver) : Resolver := { resolver with mint := resolver.mint.clear }

def grantText (descriptors : List Descriptor) (privilege : Privilege) : Option String := do
  (← Descriptor.choose descriptors privilege.type).grant privilege

def grant (resolver : Resolver) (epoch : Nat) (id : String) (privilege : Privilege) :
    Option Permission × Resolver :=
  match grantText resolver.descriptors privilege with
  | none => (none, resolver)
  | some text =>
    match resolver.create text with
    | (.ok permission, resolver) => (some permission, resolver.rememberPrivilege epoch id permission)
    | (.error _, resolver) => (none, resolver)

def invalidate (resolver : Resolver) : Resolver :=
  { resolver with
    epoch := resolver.epoch + 1
    privileges := resolver.privileges.clear
    roles := resolver.roles.clear
    missing := resolver.missing.clear }

-- Takes note of the store's generation; another one than before means that something changed.
def meetGeneration (resolver : Resolver) (generation : Nat) : Bool × Resolver :=
  let met := { resolver with generation }
  if generation ≠ resolver.generation then (true, met.invalidate) else (false, met)

end Resolver
end RepositoryAccess
