import RepositoryAccess.Directory.Basic

namespace RepositoryAccess.Directory

structure Descriptor where
  type : String
  grant : Privilege → Option String

namespace Descriptor

def methodGrant (privilege : Privilege) : Option String := do
  let permission ← privilege.property "permission"
  let method ← privilege.property "method"
  return permission ++ ":" ++ method

def method : Descriptor := ⟨"method", methodGrant⟩

-- The repository named first that is not empty; otherwise every repository.
def repositoryOf (privilege : Privilege) : String :=
  (([privilege.property "repositoryId", privilege.property "repositoryGroupId"].filterMap id).find?
    (· ≠ "")).getD "*"

def targetGrant (privilege : Privilege) : Option String := do
  let target ← privilege.property "repositoryTargetId"
  let method ← privilege.property "method"
  return "nexus:target:" ++ target ++ ":" ++ repositoryOf privilege ++ ":" ++ method

def target : Descriptor := ⟨"target", targetGrant⟩

def builtIn : List Descriptor := [method, target]

-- The first descriptor of a type is the one that counts.
def choose (descriptors : List Descriptor) (type : String) : Option Descriptor :=
  descriptors.find? (·.type = type)

end Descriptor
end RepositoryAccess.Directory
