import RepositoryAccess.Target.Shape
import RepositoryAccess.Target.ContentClass

namespace RepositoryAccess
open RepositoryAccess.Text RepositoryAccess.Target

structure Target (Class : Type := ContentClass) where
  id : String
  name : String
  contentClass : Class
  patterns : NameSet
  shapes : List Shape

namespace Target
variable {Class : Type}

structure Invalid where
  target : String
  pattern : String
  fault : PatternFault
  deriving DecidableEq

def Invalid.message (invalid : Invalid) : String :=
  "Target '" ++ invalid.target ++ "' has invalid pattern '" ++ invalid.pattern ++ "': "

def compileAll (id : String) : List String → Except Invalid (List Shape)
  | [] => .ok []
  | pattern :: rest =>
    match Shape.compile pattern.toList with
    | .error fault => .error ⟨id, pattern, fault⟩
    | .ok shape => (compileAll id rest).map (shape :: ·)

-- With `.*` among the patterns the others do not matter and are not even read.
def create (id name : String) (contentClass : Class) (patterns : List String) :
    Except Invalid (Target Class) :=
  let patterns := NameSet.ofList patterns
  if String.ofList matchAll ∈ patterns then .ok ⟨id, name, contentClass, patterns, [.any]⟩
  else (compileAll id patterns.names).map fun shapes =>
    ⟨id, name, contentClass, patterns, shapes.mergeSort fun left right => left.cost ≤ right.cost⟩

variable [Classification Class]

def acceptsClass (target : Target Class) (other : Class) : Bool :=
  decide (Classification.id target.contentClass = Classification.id other) ||
    Classification.isCompatible target.contentClass other || Classification.isCompatible other target.contentClass

def containsPath (target : Target Class) (contentClass : Class) (path : String) : Bool :=
  target.acceptsClass contentClass && target.shapes.any (·.matchesPath path.toList)

def describe (target : Target Class) : String :=
  "Target \x7b id: " ++ quoted target.id ++ ", name: " ++ quoted target.name ++
    ", content_class: " ++ quoted (Classification.id target.contentClass) ++ ", matchers: [" ++
    String.intercalate ", " (target.shapes.map (·.describe)) ++ "] \x7d"

end Target
end RepositoryAccess
