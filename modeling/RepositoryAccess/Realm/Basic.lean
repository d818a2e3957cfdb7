import RepositoryAccess.Directory.Manager
import RepositoryAccess.Permission.Holdings
import RepositoryAccess.Cache.Guarded
import RepositoryAccess.Realm.Request
import RepositoryAccess.Text.Quoted

namespace RepositoryAccess
open RepositoryAccess.Text RepositoryAccess.Directory

def defaultSource : String := "default"

abbrev RoleSetCache := Cache.Guarded NameSet (Numbered Holdings)

-- The number tells realms apart that have the same name.  The role-set cache was filled under some
-- refresh epoch of the resolver.
structure Realm where
  number : Nat
  handle : String
  name : String
  manager : String
  managers : List String
  roleSets : RoleSetCache
  seenEpoch : Nat
  deriving Inhabited

namespace Realm

inductive Refusal
  | noPrincipals
  | disabled (user : String) (realms : NameSet)
  | unknown (user : String) (cause : UnknownUser)
  | unmanaged (user realm : String)
  deriving DecidableEq

def Refusal.message : Refusal → String
  | .noPrincipals => "Cannot authorize with no principals"
  | .disabled user realms =>
    "User for principals: " ++ user ++ " belongs to a disabled realm(s): " ++ quotedSet realms.names
  | .unknown user cause =>
    "User for principals: " ++ user ++ " could not be found: " ++ cause.message
  | .unmanaged user realm => "User for principals: " ++ user ++ " not managed by " ++ realm

def Refusal.fault (refusal : Refusal) : Fault := .authorization refusal.message

def authenticationFault (realm : Realm) (principal : String) : Fault :=
  .unsupported (realm.name ++ " does not authenticate '" ++ principal ++ "'")

def admits (realm : Realm) (active : List String) (principals : Principals) : Bool :=
  decide (realm.name ∈ principals.realms) || active.any fun name => decide (name ∈ principals.realms)

def replace (names : NameSet) (name other : String) : NameSet :=
  if name ∈ names then (names.erase name).insert other else names

-- The sources that the names of realms stand for: one manager after the other puts its source in
-- place of the realm that authenticates its users, and in the end the realm's own name becomes the
-- default source.
def sources (own : String) (managers : List Manager) (names : NameSet) : NameSet :=
  let replaced := managers.foldl (fun names manager =>
    match manager.authRealm with
    | some authRealm => replace names authRealm manager.source
    | none => names) names
  replace replaced own defaultSource

def mappedRoles (manager : Manager) (user : String) (sources : NameSet) : NameSet × List Question :=
  (sources.names.foldl (fun roles source =>
      match manager.mapped user source with
      | .ok found => roles.insertAll found.names
      | .error _ => roles) .empty,
    sources.names.map (.roles user))

def rolesOf (realm : Realm) (manager : Manager) (user : String) (sources : NameSet) :
    Except Refusal NameSet × List Question :=
  if manager.mapsRoles then
    let (roles, questions) := mappedRoles manager user sources
    (.ok roles, questions)
  else if defaultSource ∈ sources then
    (match manager.user user with
      | .ok found => .ok found.roles
      | .error cause => .error (.unknown user cause), [.user user])
  else (.error (.unmanaged user realm.name), [])

def find (realm : Realm) (manager : Manager) (managers : List Manager) (active : List String)
    (principals : Option Principals) : Except Refusal Entitlement × List Question :=
  match principals with
  | none => (.error .noPrincipals, [])
  | some principals =>
    if realm.admits active principals then
      let (roles, questions) := realm.rolesOf manager principals.primary
        (sources realm.name managers principals.realms)
      (roles.map .ofRoles, questions)
    else (.error (.disabled principals.primary principals.realms), [])

-- Catches up with the resolver: what was stored under another epoch goes.
def meetEpoch (realm : Realm) (epoch : Nat) : Realm :=
  if realm.seenEpoch ≠ epoch then { realm with seenEpoch := epoch, roleSets := realm.roleSets.clear }
  else realm

-- A set of roles weighs as much as it has roles.
def remember (realm : Realm) (roles : NameSet) (granted : Numbered Holdings) : Realm :=
  { realm with roleSets := realm.roleSets.insertWeighted roles granted roles.size }

end Realm
end RepositoryAccess
