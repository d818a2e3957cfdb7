import RepositoryAccess.Directory.Store
import RepositoryAccess.Directory.Manager
import RepositoryAccess.Events.Listener
import RepositoryAccess.Realm.Request
import RepositoryAccess.Permission.Holdings

namespace RepositoryAccess
open RepositoryAccess.Directory RepositoryAccess.Events

inductive Step
  | putRole (role : Role) (quiet : Bool)
  | dropRole (id : String) (quiet : Bool)
  | putPrivilege (privilege : Privilege) (quiet : Bool)
  | dropPrivilege (id : String) (quiet : Bool)
  | setGeneration (generation : Nat)
  | failReads (failure : Failure)
  | breakRole (id : String)
  | heal
  | useLock (lock : Lock)
  | interrupt (kind : ReadKind) (id : String) (steps : List Step)
  | putUser (manager : String) (user : User)
  | dropUser (manager : String) (id : String)
  | putMapping (manager : String) (mapping : Mapping)
  | setActive (realms : List String)
  | resolve (role : String)
  | permits (role : String) (text : String)
  | create (text : String)
  | clearMint
  | invalidate
  | checkDirty
  | notify (event : Event)
  | start
  | running
  | pass (milliseconds : Nat)
  | shutdown
  | listen (capacity : Nat) (events : List Event)
  | describe (realm : String) (principal : String)
  | entitle (realm : String) (principals : Option Principals) (cache : String)
  | permissions (realm : String) (entitlement : Entitlement)
  | permitted (realm : String) (text : String) (entitlement : Entitlement)
  | permittedAll (realm : String) (texts : List String) (entitlement : Entitlement)
  | check (realm : String) (principals : Option Principals) (text : String) (cache : String)
  | subject (cache : String) (authenticated : Bool) (request : Option String)
  | decision (cache : String) (text : String)
  | recordDecision (cache : String) (text : String) (granted : Bool)
  | authenticate (cache : String) (principals : Principals)
  | authenticated (cache : String)
  | outcome (cache : String) (realm : String)
  | recordOutcome (cache : String) (realm : String) (result : Except Fault Entitlement)
  deriving Inhabited

inductive Answer
  | done
  | nothing
  | truth (value : Bool)
  | truths (values : List Bool)
  | epoch (value : Nat)
  | drained (epoch : Nat)
  | granted (permissions : Numbered Holdings)
  | made (permission : Permission)
  | entitled (entitlement : Numbered Entitlement)
  | fault (fault : Fault)
  | described (realm : String) (authentication : Fault)
  | cache (number : Nat)
  | decided (value : Option Bool) (count : Nat)
  | recorded (count : Nat)
  | principals (principals : Principals)
  deriving Inhabited

mutual

-- An upper bound both for how deep interruptions can be nested when the step is performed and for
-- how many roles can be put inside the roles that it puts into the store.
def Step.size : Step → Nat
  | .putRole role _ => 1 + role.roles.size
  | .interrupt _ _ steps => 1 + Step.sizeAll steps
  | _ => 1

def Step.sizeAll : List Step → Nat
  | [] => 0
  | step :: steps => step.size + Step.sizeAll steps

end

end RepositoryAccess
