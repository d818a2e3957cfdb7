import RepositoryAccess.Directory.Basic
import RepositoryAccess.Fault

namespace RepositoryAccess.Directory

inductive ReadKind
  | role
  | privilege
  deriving DecidableEq, Repr

-- What the store does about a section of reads: it may let the section run, run it again or run it
-- not at all.  In the end it grants the section, denies it, or relays how the last run of it ended.
inductive Lock
  | grant
  | deny (fault : StoreFault)
  | relay
  | run (succeeded failed : Lock)
  deriving Inhabited

namespace Lock

def once : Lock := .run .relay .relay

def twice : Lock := .run once .relay

def retrying : Lock := .run .relay once

def skipping : Lock := .grant

def refusing : Lock := .deny (.unavailable "no lock")

def losing : Lock := .run (.deny (.unavailable "lock lost")) .relay

-- Whether a section is granted only after a run of it, the last one of which succeeded.  What is told
-- of the runs so far is whether the last one succeeded, if there was any.
def HonestAfter : Lock → Option Bool → Prop
  | .grant, last => last = some true
  | .deny _, _ => True
  | .relay, last => last ≠ none
  | .run succeeded failed, _ => HonestAfter succeeded (some true) ∧ HonestAfter failed (some false)

def Honest (lock : Lock) : Prop := lock.HonestAfter none

end Lock

def everyId : String := "*"

structure Failure where
  kind : ReadKind
  id : String
  fault : StoreFault
  deriving DecidableEq

inductive StoreUse
  | read (kind : ReadKind) (id : String)
  | opened
  deriving DecidableEq, Repr

-- The generation tells whether something changed.  Uses stand latest first.
structure Store where
  roles : List Role := []
  privileges : List Privilege := []
  generation : Nat := 0
  failures : List Failure := []
  broken : List String := []
  lock : Lock := .once
  uses : List StoreUse := []
  deriving Inhabited

namespace Store

def role? (store : Store) (id : String) : Option Role := store.roles.find? (·.id = id)

def privilege? (store : Store) (id : String) : Option Privilege := store.privileges.find? (·.id = id)

def failure? (store : Store) (kind : ReadKind) (id : String) : Option StoreFault :=
  let told := fun name =>
    (store.failures.find? fun failure => failure.kind = kind ∧ failure.id = name).map (·.fault)
  told id <|> told everyId

def readRole (store : Store) (id : String) : Except StoreFault Role :=
  match store.failure? .role id, store.role? id with
  | some fault, _ => .error fault
  | none, some role => .ok role
  | none, none => .error (.roleNotFound id)

def readPrivilege (store : Store) (id : String) : Except StoreFault Privilege :=
  match store.failure? .privilege id, store.privilege? id with
  | some fault, _ => .error fault
  | none, some privilege => .ok privilege
  | none, none => .error (.privilegeNotFound id)

def note (store : Store) (use : StoreUse) : Store := { store with uses := use :: store.uses }

def isReadOf (kind : ReadKind) : StoreUse → Bool
  | .read other _ => other = kind
  | .opened => false

def reads (store : Store) (kind : ReadKind) : Nat := store.uses.countP (isReadOf kind)

def sections (store : Store) : Nat := store.uses.count .opened

def advance (store : Store) (quiet : Bool) : Store :=
  if quiet then store else { store with generation := store.generation + 1 }

def putRole (store : Store) (role : Role) : Store :=
  { store with roles := role :: store.roles.filter (·.id ≠ role.id) }

def dropRole (store : Store) (id : String) : Store :=
  { store with roles := store.roles.filter (·.id ≠ id) }

def putPrivilege (store : Store) (privilege : Privilege) : Store :=
  { store with privileges := privilege :: store.privileges.filter (·.id ≠ privilege.id) }

def dropPrivilege (store : Store) (id : String) : Store :=
  { store with privileges := store.privileges.filter (·.id ≠ id) }

def fail (store : Store) (failure : Failure) : Store :=
  { store with failures := failure ::
      store.failures.filter fun told => told.kind ≠ failure.kind ∨ told.id ≠ failure.id }

def breakRole (store : Store) (id : String) : Store := { store with broken := id :: store.broken }

def heal (store : Store) : Store := { store with failures := [], broken := [] }

def links (store : Store) : Nat := store.roles.foldr (fun role rest => role.roles.size + rest) 0

def SameContents (left right : Store) : Prop :=
  left.roles = right.roles ∧ left.privileges = right.privileges

instance (left right : Store) : Decidable (SameContents left right) :=
  inferInstanceAs (Decidable (_ ∧ _))

end Store
end RepositoryAccess.Directory
