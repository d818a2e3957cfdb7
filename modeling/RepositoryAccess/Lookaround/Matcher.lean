import RepositoryAccess.Lookaround.Reader
import RepositoryAccess.Lookaround.Machine

namespace RepositoryAccess.Lookaround
open RepositoryAccess.Pattern

namespace Expr

mutual
-- How many instructions a run through the expression can take at most without going back, in a text
-- of `n` characters: each loop without a bound is left after a round for every place, apart from
-- those it has to do anyway.
def span (n : Nat) : Expr → Nat
  | .concat parts => spanAll n parts + 1
  | .alt branches => spanAll n branches + 2 * branches.length + 1
  | .group _ _ child => child.span n + 2
  | .loop child least most _ =>
    let rounds := match most with
      | some most => max least most
      | none => least + n + 1
    (rounds + 1) * (child.span n + 3) + 3
  | .look _ child => child.span n + 4
  | .atomic child => child.span n + 2
  | .condition test yes no => test.span n + yes.span n + no.span n + 5
  | _ => 2

def spanAll (n : Nat) : List Expr → Nat
  | [] => 0
  | part :: rest => part.span n + spanAll n rest
end

end Expr

inductive Matcher
  | plain (regex : Regex)
  | search (expr : Expr) (program : Program)

namespace Matcher

def read (pattern : List Char) : Option Matcher := do
  let (expr, groups) ← Expr.read pattern
  if expr.isHard then
    return .search expr (← Program.ofExpr expr groups)
  else
    return .plain (← Regex.read (expr.text 0))

-- As many steps as a run through the expression can take, for each way that may be gone back to.
def steps (expr : Expr) (n : Nat) : Nat := (backLimit + 2) * ((n + 2) * 4 + expr.span n + 8)

def isMatch (matcher : Matcher) (text : List Char) : Bool :=
  match matcher with
  | .plain regex => regex.isMatch text
  | .search expr program =>
    Machine.run program.code text.toArray (steps expr text.length) (Machine.start program.slots)

end Matcher
end RepositoryAccess.Lookaround
