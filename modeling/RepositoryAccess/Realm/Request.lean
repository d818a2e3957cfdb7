import RepositoryAccess.Realm.Principals
import RepositoryAccess.Numbering

namespace RepositoryAccess

abbrev Outcome := Except Fault (Numbered Entitlement)

-- Decisions are remembered by text alone, and outcomes by realm, failures included.
structure RequestCache where
  principals : Option Principals := none
  decisions : List (String × Bool) := []
  outcomes : List (Nat × Outcome) := []

section Lookup
variable {Key Value : Type} [DecidableEq Key]

theorem lookup_first (entries : List (Key × Value)) (key : Key) (value : Value) (other : Key) :
    ((key, value) :: entries).lookup other = if other = key then some value else entries.lookup other := by
  by_cases same : other = key
  · simp [same]
  · rw [List.lookup_cons, beq_false_of_ne same, if_neg same]

theorem lookup_without (entries : List (Key × Value)) {key other : Key} (unequal : other ≠ key) :
    (entries.filter (·.1 ≠ key)).lookup other = entries.lookup other := by
  induction entries with
  | nil => rfl
  | cons entry entries ih =>
    obtain ⟨first, value⟩ := entry
    by_cases dropped : first = key
    · rw [List.filter_cons_of_neg (by simpa using dropped), ih, lookup_first, if_neg (dropped ▸ unequal)]
    · rw [List.filter_cons_of_pos (by simpa using dropped), lookup_first, lookup_first, ih]

theorem lookup_put (entries : List (Key × Value)) (key : Key) (value : Value) (other : Key) :
    ((key, value) :: entries.filter (·.1 ≠ key)).lookup other =
      if other = key then some value else entries.lookup other := by
  rw [lookup_first]
  split
  · rfl
  · rename_i unequal
    exact lookup_without entries unequal

end Lookup

namespace RequestCache

instance : Inhabited RequestCache := ⟨{}⟩

def decision (cache : RequestCache) (text : String) : Option Bool := cache.decisions.lookup text

def recordDecision (cache : RequestCache) (text : String) (granted : Bool) : RequestCache :=
  { cache with decisions := (text, granted) :: cache.decisions.filter (·.1 ≠ text) }

def decisionCount (cache : RequestCache) : Nat := cache.decisions.length

def outcome (cache : RequestCache) (realm : Nat) : Option Outcome := cache.outcomes.lookup realm

def recordOutcome (cache : RequestCache) (realm : Nat) (outcome : Outcome) : RequestCache :=
  { cache with outcomes := (realm, outcome) :: cache.outcomes.filter (·.1 ≠ realm) }

def authenticate (cache : RequestCache) (principals : Principals) : RequestCache :=
  { cache with principals := some principals }

variable (cache : RequestCache) (text other : String) (granted : Bool) (realm number : Nat)
  (outcome : Outcome)

theorem decision_recordDecision : (cache.recordDecision text granted).decision other =
    if other = text then some granted else cache.decision other := lookup_put _ _ _ _

theorem outcome_recordOutcome : (cache.recordOutcome realm outcome).outcome number =
    if number = realm then some outcome else cache.outcome number := lookup_put _ _ _ _

end RequestCache

-- All caches by number.  Callers have names for some of them, and a request has at most one.
structure Requests where
  caches : List RequestCache := []
  named : List (String × Nat) := []
  requests : List (String × Nat) := []

namespace Requests

instance : Inhabited Requests := ⟨{}⟩

def cache (requests : Requests) (number : Nat) : RequestCache := requests.caches.getD number {}

def update (requests : Requests) (number : Nat) (f : RequestCache → RequestCache) : Requests :=
  { requests with caches := requests.caches.modify number f }

def create (requests : Requests) : Nat × Requests :=
  (requests.caches.length, { requests with caches := requests.caches ++ [{}] })

def bind (requests : Requests) (name : String) (number : Nat) : Requests :=
  { requests with named := (name, number) :: requests.named.filter (·.1 ≠ name) }

def byName (requests : Requests) (name : String) : Nat × Requests :=
  match requests.named.lookup name with
  | some number => (number, requests)
  | none =>
    let (number, requests) := requests.create
    (number, requests.bind name number)

-- An authenticated caller within a request shares the cache of the request, which the first such
-- caller creates.  Everyone else gets a cache of their own.
def forCaller (requests : Requests) (authenticated : Bool) (request : Option String) :
    Nat × Requests :=
  match request with
  | some request =>
    if authenticated then
      match requests.requests.lookup request with
      | some number => (number, requests)
      | none =>
        let (number, created) := requests.create
        (number, { created with requests := (request, number) :: created.requests })
    else requests.create
  | none => requests.create

theorem update_length (requests : Requests) (number : Nat) (f : RequestCache → RequestCache) :
    (requests.update number f).caches.length = requests.caches.length :=
  List.length_modify _ _ _

theorem cache_update {requests : Requests} {number : Nat} (inRange : number < requests.caches.length)
    (f : RequestCache → RequestCache) :
    (requests.update number f).cache number = f (requests.cache number) := by
  simp [cache, update, List.getD_eq_getElem?_getD, inRange]

end Requests
end RepositoryAccess
