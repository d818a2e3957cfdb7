import RepositoryAccess.Permission.Holdings
import RepositoryAccess.Cache.Guarded

namespace RepositoryAccess.Permission

structure Shared where
  number : Nat
  permission : Permission
  deriving DecidableEq, Inhabited

-- The wildcard forms built so far, by the number of the constant they belong to.
structure Views where
  built : List (Nat × Wildcard)
  deriving DecidableEq

namespace Views

def none : Views := ⟨[]⟩

def find (views : Views) (number : Nat) : Option Wildcard :=
  (views.built.find? (·.1 = number)).map (·.2)

def isBuilt (views : Views) (shared : Shared) : Option Bool :=
  match shared.permission with
  | .constant _ => some (views.find shared.number).isSome
  | .wildcard _ => Option.none

def formOf (views : Views) (shared : Shared) : Wildcard × Views :=
  match shared.permission with
  | .wildcard form => (form, views)
  | .constant text =>
    match views.find shared.number with
    | some form => (form, views)
    | Option.none =>
      let form := Wildcard.ofPlain text
      (form, ⟨(shared.number, form) :: views.built⟩)

-- Two constants are compared by number or text and build nothing.
def implies (views : Views) (held asked : Shared) : Bool × Views :=
  match held.permission, asked.permission with
  | .constant heldText, .constant askedText =>
    (held.number == asked.number || heldText == askedText, views)
  | _, _ =>
    let (heldForm, views) := views.formOf held
    let (askedForm, views) := views.formOf asked
    (heldForm.implies askedForm, views)

end Views

structure Mint where
  cache : Cache.Guarded String Shared
  next : Nat

namespace Mint

def defaultHighWater : Nat := 100000

def new (highWater : Nat) : Mint := ⟨.new highWater, 0⟩

instance : Inhabited Mint := ⟨new 0⟩

-- The remembered instance of the text, or a new one; a text that is no permission is not remembered.
def create (mint : Mint) (text : String) : Except Malformed Shared × Mint :=
  match mint.cache.get text with
  | (some known, cache) => (.ok known, { mint with cache })
  | (Option.none, cache) =>
    match parse text with
    | .error malformed => (.error malformed, { mint with cache })
    | .ok permission =>
      let fresh : Shared := ⟨mint.next, permission⟩
      (.ok fresh, ⟨cache.insert text fresh, mint.next + 1⟩)

def clear (mint : Mint) : Mint := { mint with cache := mint.cache.clear }

def stats (mint : Mint) : Cache.Stats := mint.cache.stats

end Mint
end RepositoryAccess.Permission
