import RepositoryAccess.Directory.Basic
import RepositoryAccess.Fault

namespace RepositoryAccess.Directory
open RepositoryAccess.Text

structure Mapping where
  user : String
  source : String
  roles : NameSet
  deriving DecidableEq

structure Manager where
  name : String
  source : String
  authRealm : Option String
  mapsRoles : Bool
  users : List User
  mappings : List Mapping

namespace Manager

def user (manager : Manager) (id : String) : Except UnknownUser User :=
  match manager.users.find? (·.id = id) with
  | some user => .ok user
  | none => .error ⟨id, manager.source⟩

def mapped (manager : Manager) (user source : String) : Except UnknownUser NameSet :=
  match manager.mappings.find? fun mapping => mapping.user = user ∧ mapping.source = source with
  | some mapping => .ok mapping.roles
  | none => .error ⟨user, source⟩

def putUser (manager : Manager) (user : User) : Manager :=
  { manager with users := user :: manager.users.filter (·.id ≠ user.id) }

def dropUser (manager : Manager) (id : String) : Manager :=
  { manager with users := manager.users.filter (·.id ≠ id) }

def putMapping (manager : Manager) (mapping : Mapping) : Manager :=
  { manager with mappings := mapping :: manager.mappings.filter fun other =>
      other.user ≠ mapping.user ∨ other.source ≠ mapping.source }

end Manager

inductive Question
  | user (id : String)
  | roles (name source : String)
  deriving DecidableEq, Repr

def Question.text : Question → String
  | .user id => "user " ++ id
  | .roles name source => "roles " ++ name ++ " " ++ source

end RepositoryAccess.Directory
