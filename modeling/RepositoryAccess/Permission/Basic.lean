import RepositoryAccess.Permission.Wildcard

namespace RepositoryAccess.Permission
open RepositoryAccess.Text

def isWildcardText (text : String) : Bool := text.toList.any fun c => c == '*' || c == ','

end RepositoryAccess.Permission

namespace RepositoryAccess

-- A text with neither `*` nor `,` is a constant; any other is a wildcard permission.
inductive Permission
  | constant (text : String)
  | wildcard (form : Permission.Wildcard)
  deriving DecidableEq

namespace Permission
open RepositoryAccess.Text

instance : Inhabited Permission := ⟨.constant ""⟩

-- A constant keeps its text exactly, outer blanks included.
def parse (text : String) : Except Malformed Permission :=
  if isBlankText text then .error .blank
  else if isWildcardText text then (Wildcard.parse text).map .wildcard
  else .ok (.constant text)

def text : Permission → String
  | .constant text => text
  | .wildcard form => form.text

def isConstant : Permission → Bool
  | .constant _ => true
  | .wildcard _ => false

def form : Permission → Wildcard
  | .constant text => .ofPlain text
  | .wildcard form => form

def implies : Permission → Permission → Bool
  | .constant held, .constant asked => decide (held = asked)
  | held, asked => held.form.implies asked.form

-- Constants are the same when their texts are, wildcards when their parts are, and a constant is
-- never the same as a wildcard.
def same : Permission → Permission → Bool
  | .constant left, .constant right => decide (left = right)
  | .wildcard left, .wildcard right => left.same right
  | _, _ => false

theorem same_refl (p : Permission) : p.same p = true := by
  cases p <;> simp [same, Wildcard.same]

theorem same_trans {p q r : Permission} (first : p.same q = true) (second : q.same r = true) :
    p.same r = true := by
  cases p <;> cases q <;> cases r <;> simp_all [same, Wildcard.same]

end Permission
end RepositoryAccess
