import RepositoryAccess.Settings.Basic

namespace RepositoryAccess.Settings

inductive NotNumber
  | empty
  | badDigit
  | tooLarge
  deriving DecidableEq, Repr

def NotNumber.message : NotNumber → String
  | .empty => "cannot parse integer from empty string"
  | .badDigit => "invalid digit found in string"
  | .tooLarge => "number too large to fit in target type"

def readDigits (value : Nat) : List Char → Except NotNumber Nat
  | [] => .ok value
  | c :: rest =>
    if c.isDigit then
      let next := value * 10 + (c.toNat - '0'.toNat)
      if next < wordEnd then readDigits next rest else .error .tooLarge
    else .error .badDigit

def readNumber : List Char → Except NotNumber Nat
  | [] => .error .empty
  | ['+'] => .error .badDigit
  | '+' :: digits => readDigits 0 digits
  | digits => readDigits 0 digits

inductive Variable
  | missingRoles
  | refreshMilliseconds
  | graceMilliseconds
  deriving DecidableEq, Repr

namespace Variable

def name : Variable → String
  | missingRoles => "AUTHZ_ROLE_NOT_FOUND_CACHE_SIZE"
  | refreshMilliseconds => "AUTHZ_REFRESH_INTERVAL_MS"
  | graceMilliseconds => "AUTHZ_SHUTDOWN_GRACE_MS"

def all : List Variable := [missingRoles, refreshMilliseconds, graceMilliseconds]

def read (settings : Settings) : Variable → Nat
  | missingRoles => settings.missingRoles
  | refreshMilliseconds => settings.refreshMilliseconds
  | graceMilliseconds => settings.graceMilliseconds

def write (settings : Settings) (value : Nat) : Variable → Settings
  | missingRoles => { settings with missingRoles := value }
  | refreshMilliseconds => { settings with refreshMilliseconds := value }
  | graceMilliseconds => { settings with graceMilliseconds := value }

end Variable

structure Misread where
  named : Variable
  cause : NotNumber
  deriving DecidableEq, Repr

def Misread.message (misread : Misread) : String := "Invalid " ++ misread.named.name

abbrev Environment := Variable → Option String

-- Goes through the variables one by one and stops at the first that is no number.  What was set
-- before it stays set.
def overrideAll (environment : Environment) :
    List Variable → Settings → Except Misread Unit × Settings
  | [], settings => (.ok (), settings)
  | named :: others, settings =>
    match environment named with
    | none => overrideAll environment others settings
    | some text =>
      match readNumber (Text.trim text.toList) with
      | .ok value => overrideAll environment others (named.write settings value)
      | .error cause => (.error ⟨named, cause⟩, settings)

def override (settings : Settings) (environment : Environment) : Except Misread Unit × Settings :=
  overrideAll environment Variable.all settings

end RepositoryAccess.Settings
