import RepositoryAccess.Service.Step
import RepositoryAccess.Resolver.Basic
import RepositoryAccess.Realm.Basic

namespace RepositoryAccess
open RepositoryAccess.Directory RepositoryAccess.Events

structure Interruption where
  kind : ReadKind
  id : String
  steps : List Step

structure Background where
  startedAt : Nat
  alive : Bool := true

-- `version` counts how often the contents of the store became other than before; `emptied` is the
-- version at which the resolver's caches were emptied last.  Questions to managers and answers of
-- interrupting steps are kept until they are reported.
structure Service where
  store : Store
  resolver : Resolver
  managers : List Manager := []
  active : List String := []
  realms : List Realm := []
  requests : Requests := {}
  interruptions : List Interruption := []
  interval : Nat
  clock : Nat := 0
  background : Option Background := none
  sets : Numbering := {}
  entitlements : Numbering := {}
  version : Nat := 0
  emptied : Nat := 0
  questions : List (String × Question) := []
  asides : List Answer := []

namespace Service

def new (settings : Settings) (descriptors : List Descriptor) (store : Store) : Service where
  store
  resolver := .new descriptors settings store.generation
  interval := settings.refreshMilliseconds

instance : Inhabited Service := ⟨new {} [] {}⟩

def addRealm (service : Service) (settings : Settings) (handle name manager : String)
    (managers : List String) : Service :=
  { service with realms := service.realms ++
      [⟨service.realms.length, handle, name, manager, managers, .new settings.roleSets,
        service.resolver.epoch⟩] }

def realm (service : Service) (handle : String) : Realm :=
  (service.realms.find? (·.handle = handle)).getD default

def manager? (service : Service) (name : String) : Option Manager :=
  service.managers.find? (·.name = name)

-- The manager that a realm takes its users from; one that is not there knows nobody.
def managerOf (service : Service) (realm : Realm) : Manager :=
  (service.manager? realm.manager).getD ⟨realm.manager, "", none, false, [], []⟩

def managersOf (service : Service) (realm : Realm) : List Manager :=
  realm.managers.filterMap service.manager?

-- The most roles that one walk through roles can come across, all that wait being counted.
def budget (service : Service) : Nat :=
  2 + service.store.links +
    service.interruptions.foldr (fun waiting rest => 1 + Step.sizeAll waiting.steps + rest) 0

-- Whether the contents of the store are still what they were when the caches were emptied last.
def Steady (service : Service) : Prop := service.emptied = service.version

instance (service : Service) : Decidable service.Steady := inferInstanceAs (Decidable (_ = _))

-- A change of the store; it counts as one only if roles or privileges are other than before.
def change (service : Service) (f : Store → Store) : Service :=
  let store := f service.store
  if store.SameContents service.store then { service with store }
  else { service with store, version := service.version + 1 }

def modifyManager (service : Service) (name : String) (f : Manager → Manager) : Service :=
  { service with managers := service.managers.map fun manager =>
      if manager.name = name then f manager else manager }

def modifyRealm (service : Service) (handle : String) (f : Realm → Realm) : Service :=
  { service with realms := service.realms.map fun realm =>
      if realm.handle = handle then f realm else realm }

def invalidate (service : Service) : Service :=
  { service with resolver := service.resolver.invalidate, emptied := service.version }

def meetGeneration (service : Service) : Bool × Service :=
  let (changed, resolver) := service.resolver.meetGeneration service.store.generation
  (changed, { service with
    resolver, emptied := if changed then service.version else service.emptied })

def isRunning (service : Service) : Bool := service.background.any (·.alive)

end Service

end RepositoryAccess
