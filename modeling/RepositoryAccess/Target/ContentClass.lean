import RepositoryAccess.Text.NameSet

namespace RepositoryAccess.Target
open RepositoryAccess.Text

-- What targets ask of the classes of repository content: who they are and whether they take another one.
-- Nothing is asked of the answers; one class may take another that does not take it.
class Classification (Class : Type) where
  id : Class → String
  isCompatible : Class → Class → Bool

structure ContentClass where
  id : String
  compatible : NameSet
  deriving DecidableEq

def ContentClass.isCompatible (own other : ContentClass) : Bool :=
  decide (own.id = other.id) || decide (other.id ∈ own.compatible)

instance : Classification ContentClass := ⟨ContentClass.id, ContentClass.isCompatible⟩

end RepositoryAccess.Target
