import RepositoryAccess.Service.Act

namespace RepositoryAccess
open RepositoryAccess.Directory

-- How roles and privileges are read.  A read may do anything to the service before it returns, but
-- what it returns was decided before that.
structure Reads where
  role : String → Act (Except StoreFault Role)
  privilege : String → Act (Except StoreFault Privilege)

abbrev Collected := Holdings × Option StoreFault

def granted (reads : Reads) (epoch : Nat) (id : String) :
    Act (Except StoreFault (Option Permission)) := do
  match ← onResolver (·.knownPrivilege id) with
  | some permission => return .ok (some permission)
  | none =>
    match ← reads.privilege id with
    | .error fault => return if fault.isNotFound then .ok none else .error fault
    | .ok privilege => return .ok (← onResolver (·.grant epoch id privilege))

def collectGranted (reads : Reads) (epoch : Nat) : List String → Holdings → Act Collected
  | [], found => return (found, none)
  | id :: ids, found => do
    match ← granted reads epoch id with
    | .error fault => return (found, some fault)
    | .ok none => collectGranted reads epoch ids found
    | .ok (some permission) => collectGranted reads epoch ids (found.insert permission)

inductive Visit
  | missing
  | known (permissions : Numbered Holdings)
  | entered (role : Role)
  | failed (fault : StoreFault)

-- Stored permissions are looked up only after the read, which may have changed them.
def visit (reads : Reads) (epoch : Nat) (id : String) : Act Visit := do
  if ← onResolver (·.knownMissing id) then return .missing
  match ← reads.role id with
  | .error fault =>
    if fault.isNotFound then
      changeResolver (·.rememberMissing epoch id)
      return .missing
    else return .failed fault
  | .ok role =>
    match ← onResolver (·.knownRole id) with
    | some permissions => return .known permissions
    | none => return .entered role

-- Roles are visited breadth first, each at most once.
structure Walk where
  pending : List String
  visited : List String := []
  found : Holdings := .empty

def Walk.startingAt (id : String) : Walk := { pending := [id] }

-- The roles contained in a role are visited later, except those that were visited before.
def Walk.enter (walk : Walk) (role : Role) : List String :=
  walk.pending ++ role.roles.names.filter (· ∉ walk.visited)

-- A walk ends when no role is pending.  The budget is never used up: it counts every role that can
-- become pending.
def walkOn (reads : Reads) (epoch : Nat) : Nat → Walk → Act Collected
  | 0, walk => return (walk.found, some (.unavailable "too many roles"))
  | budget + 1, walk => do
    match walk.pending with
    | [] => return (walk.found, none)
    | id :: pending =>
      if id ∈ walk.visited then walkOn reads epoch budget { walk with pending }
      else
        let walk := { walk with pending, visited := id :: walk.visited }
        match ← visit reads epoch id with
        | .missing => walkOn reads epoch budget walk
        | .known permissions =>
          walkOn reads epoch budget { walk with found := walk.found.merge permissions.value }
        | .failed fault => return (walk.found, some fault)
        | .entered role =>
          let (found, fault) ← collectGranted reads epoch role.privileges.names walk.found
          match fault with
          | some fault => return (found, some fault)
          | none => walkOn reads epoch budget { walk with pending := walk.enter role, found }

def collect (reads : Reads) (epoch : Nat) (id : String) : Act Collected := do
  walkOn reads epoch (← get).budget (.startingAt id)

def underLock (run : Act Collected) : Lock → Collected → Act (Except StoreFault Holdings)
  | .grant, last => return .ok last.1
  | .deny fault, _ => return .error fault
  | .relay, last => return match last.2 with
    | none => .ok last.1
    | some fault => .error fault
  | .run succeeded failed, _ => do
    let last ← run
    match last.2 with
    | none => underLock run succeeded last
    | some _ => underLock run failed last

def lockedRun (run : Act Collected) : Act (Except StoreFault Holdings) := do
  modify fun service => { service with store := service.store.note .opened }
  underLock run (← get).store.lock (.empty, none)

-- A result that was computed across an invalidation is given out but not stored.
def resolve (reads : Reads) (id : String) : Act (Except StoreFault (Numbered Holdings)) := do
  match ← onResolver (·.knownRole id) with
  | some permissions => return .ok permissions
  | none =>
    let epoch := (← get).resolver.epoch
    match ← lockedRun (collect reads epoch id) with
    | .error fault => return .error fault
    | .ok found =>
      let permissions ← shareSet found
      changeResolver (·.rememberRole epoch id permissions)
      changeResolver (·.settle id)
      return .ok permissions

-- Reads the role resolved last, so that the store has an occasion to notice changes, and invalidates
-- if the store's generation is not the one seen before.  Without a readable store nothing happens.
def checkDirty (reads : Reads) : Act Bool := do
  let readable ← match (← get).resolver.latest with
    | none => pure true
    | some id => match ← reads.role id with
      | .ok _ => pure true
      | .error fault => pure fault.isNotFound
  if readable then modifyGet (·.meetGeneration) else return false

end RepositoryAccess
