import RepositoryAccess.Service.Resolve

namespace RepositoryAccess
open RepositoryAccess.Text RepositoryAccess.Directory

def findEntitlement (handle : String) (principals : Option Principals) :
    Act (Except Fault Entitlement) := modifyGet fun service =>
  let realm := service.realm handle
  let (found, questions) := realm.find (service.managerOf realm) (service.managersOf realm)
    service.active principals
  (found.mapError (·.fault),
    { service with questions := service.questions ++ questions.map (realm.manager, ·) })

def shareOutcome : Except Fault Entitlement → Act Outcome
  | .ok entitlement => return .ok (← shareEntitlement entitlement)
  | .error fault => return .error fault

-- What the principals of a request are entitled to in a realm; found out once per request.
def entitle (handle : String) (principals : Option Principals) (cache : Nat) : Act Outcome := do
  let realm := (← get).realm handle
  match ((← get).requests.cache cache).outcome realm.number with
  | some outcome => return outcome
  | none =>
    let outcome ← shareOutcome (← findEntitlement handle principals)
    modify fun service => { service with
      requests := service.requests.update cache (·.recordOutcome realm.number outcome) }
    return outcome

def mergeRoles (reads : Reads) : List String → Holdings → Act (Except StoreFault Holdings)
  | [], found => return .ok found
  | role :: roles, found => do
    match ← resolve reads role with
    | .error fault => return .error fault
    | .ok permissions => mergeRoles reads roles (found.merge permissions.value)

def insertTexts : List String → Holdings → Act Holdings
  | [], found => return found
  | text :: texts, found => do
    match ← onResolver (·.create text) with
    | .ok permission => insertTexts texts (found.insert permission)
    | .error _ => insertTexts texts found

def explicitPermissions (reads : Reads) (entitlement : Entitlement) :
    Act (Except StoreFault Holdings) := do
  let found ← insertTexts entitlement.texts.names .empty
  let found := found.insertAll entitlement.permissions
  match ← mergeRoles reads entitlement.roles.names .empty with
  | .error fault => return .error fault
  | .ok fromRoles => return .ok (found.merge fromRoles)

-- The permissions of a set of roles.  The realm first catches up with the resolver; what it computes
-- across an invalidation it does not store.
def rolePermissions (reads : Reads) (handle : String) (roles : NameSet) :
    Act (Except StoreFault (Numbered Holdings)) := do
  let epoch := (← get).resolver.epoch
  modify (·.modifyRealm handle (·.meetEpoch epoch))
  let (known, roleSets) := ((← get).realm handle).roleSets.get roles
  modify (·.modifyRealm handle fun realm => { realm with roleSets })
  match known with
  | some permissions => return .ok permissions
  | none =>
    match ← mergeRoles reads roles.names .empty with
    | .error fault => return .error fault
    | .ok found =>
      let permissions ← shareSet found
      if (← get).resolver.epoch = epoch then
        modify (·.modifyRealm handle (·.remember roles permissions))
      return .ok permissions

-- Permissions given without a role are never stored.
def entitledPermissions (reads : Reads) (handle : String) (entitlement : Entitlement) :
    Act (Except StoreFault (Numbered Holdings)) := do
  if entitlement.isExplicit then
    match ← explicitPermissions reads entitlement with
    | .error fault => return .error fault
    | .ok found => return .ok (← shareSet found)
  else if entitlement.roles.isEmpty then return .ok (← shareSet .empty)
  else rolePermissions reads handle entitlement.roles

def permitted (reads : Reads) (handle : String) (asked : Permission) (entitlement : Entitlement) :
    Act (Except StoreFault Bool) := do
  match ← entitledPermissions reads handle entitlement with
  | .error fault => return .error fault
  | .ok permissions => return .ok (permissions.value.permits asked)

def permittedAll (reads : Reads) (handle : String) (asked : List Permission)
    (entitlement : Entitlement) : Act (Except StoreFault (List Bool)) := do
  if asked.isEmpty then return .ok []
  match ← entitledPermissions reads handle entitlement with
  | .error fault => return .error fault
  | .ok permissions => return .ok (asked.map permissions.value.permits)

-- The decision on a permission text within a request.  It is remembered by the text alone.
def check (reads : Reads) (handle : String) (principals : Option Principals) (text : String)
    (cache : Nat) : Act (Except Fault Bool) := do
  match ((← get).requests.cache cache).decision text with
  | some decision => return .ok decision
  | none =>
    match ← entitle handle principals cache with
    | .error fault => return .error fault
    | .ok entitlement =>
      match ← onResolver (·.create text) with
      | .error malformed => return .error malformed.fault
      | .ok asked =>
        match ← permitted reads handle asked entitlement.value with
        | .error fault => return .error fault.fault
        | .ok decision =>
          modify fun service => { service with
            requests := service.requests.update cache (·.recordDecision text decision) }
          return .ok decision

end RepositoryAccess
