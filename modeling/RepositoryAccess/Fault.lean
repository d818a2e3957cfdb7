import RepositoryAccess.Permission.Wildcard

namespace RepositoryAccess

inductive Fault
  | authorization (reason : String)
  | unsupported (reason : String)
  | configuration (reason : String)
  | invalidPermission (reason : String)
  | invalidTarget (reason : String)
  | settings (reason : String)
  | internal (reason : String)
  deriving DecidableEq, Repr

def Fault.message : Fault → String
  | .authorization reason => "Authorization failed: " ++ reason
  | .unsupported reason => "Unsupported operation: " ++ reason
  | .configuration reason => "Configuration store error: " ++ reason
  | .invalidPermission reason => "Invalid permission: " ++ reason
  | .invalidTarget reason => "Invalid target: " ++ reason
  | .settings reason => "Invalid configuration: " ++ reason
  | .internal reason => "Internal error: " ++ reason

def Permission.Malformed.fault (malformed : Permission.Malformed) : Fault :=
  .invalidPermission malformed.message

inductive StoreFault
  | roleNotFound (id : String)
  | privilegeNotFound (id : String)
  | unavailable (reason : String)
  deriving DecidableEq, Repr

namespace StoreFault

def message : StoreFault → String
  | .roleNotFound id => "Role not found: " ++ id
  | .privilegeNotFound id => "Privilege not found: " ++ id
  | .unavailable reason => "Configuration unavailable: " ++ reason

-- What is missing is left out of a resolution; what cannot be read makes it fail.
def isNotFound : StoreFault → Bool
  | .roleNotFound _ | .privilegeNotFound _ => true
  | .unavailable _ => false

def fault (storeFault : StoreFault) : Fault := .configuration storeFault.message

end StoreFault

structure UnknownUser where
  user : String
  source : String
  deriving DecidableEq, Repr

def UnknownUser.message (unknown : UnknownUser) : String :=
  "User not found: " ++ unknown.user ++ " (source: " ++ unknown.source ++ ")"

end RepositoryAccess
