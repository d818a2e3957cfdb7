import RepositoryAccess.Proofs.Recall

namespace RepositoryAccess
open RepositoryAccess.Text RepositoryAccess.Directory
open Service Act

variable {reads : Reads} {service : Service} {handle text : String} {principals : Option Principals}
  {cache : Nat}

def keepDecision (cache : Nat) (text : String) : Except Fault Bool → Act (Except Fault Bool)
  | .error fault => return .error fault
  | .ok decision => do
    modify fun service => { service with
      requests := service.requests.update cache (·.recordDecision text decision) }
    return .ok decision

theorem run_get (service : Service) : Act.run get service = (service, service) := rfl

theorem check_parts (undecided : (service.requests.cache cache).decision text = none) :
    (check reads handle principals text cache).run service =
      (do
        let outcome ← entitle handle principals cache
        let result ← judge reads handle text (outcome.map (·.value))
        keepDecision cache text result : Act _).run service := by
  rw [check, run_bind, run_get, undecided]
  dsimp only
  congr 2
  funext outcome
  cases outcome with
  | error fault => rfl
  | ok entitlement =>
    refine Eq.trans ?_ (bind_assoc (onResolver (·.create text)) _ (keepDecision cache text)).symm
    refine congrArg (onResolver (·.create text) >>= ·) (funext fun made => ?_)
    cases made with
    | error malformed => rfl
    | ok asked =>
      refine Eq.trans ?_
        (bind_assoc (permitted reads handle asked entitlement.value) _ (keepDecision cache text)).symm
      refine congrArg (permitted reads handle asked entitlement.value >>= ·) (funext fun result => ?_)
      cases result <;> rfl

theorem check_decided {decision : Bool}
    (decided : (service.requests.cache cache).decision text = some decision) :
    (check reads handle principals text cache).run service = (.ok decision, service) := by
  rw [check, run_bind, run_get, decided]
  rfl

-- What is remembered about a realm is what the realm would find out.
def Service.Recorded (service : Service) (principals : Option Principals) (cache : Nat)
    (handle : String) : Prop :=
  ∀ outcome, (service.requests.cache cache).outcome (service.realm handle).number = some outcome →
    outcome.map (·.value) = service.found handle principals

theorem entitle_recorded {outcome : Outcome}
    (held : (service.requests.cache cache).outcome (service.realm handle).number = some outcome) :
    (entitle handle principals cache).run service = (outcome, service) := by
  rw [entitle, run_bind, run_get, run_bind, run_get, held]
  rfl

theorem entitle_anew
    (nothing : (service.requests.cache cache).outcome (service.realm handle).number = none) :
    ∃ outcome aside, (entitle handle principals cache).run service = (outcome, service.beside aside) ∧
      outcome.map (·.value) = service.found handle principals ∧
      aside.requests =
        service.requests.update cache (·.recordOutcome (service.realm handle).number outcome) := by
  have result : ((findEntitlement handle principals).run service).1 =
    service.found handle principals := rfl
  rw [entitle, run_bind, run_get, run_bind, run_get, nothing]
  dsimp only
  rw [run_bind, result]
  cases service.found handle principals with
  | error fault => exact ⟨.error fault, ⟨_, _, _⟩, rfl, rfl, rfl⟩
  | ok entitlement => exact ⟨_, ⟨_, _, _⟩, rfl, rfl, rfl⟩

theorem entitle_run (recorded : service.Recorded principals cache handle) :
    ∃ outcome aside, (entitle handle principals cache).run service = (outcome, service.beside aside) ∧
      outcome.map (·.value) = service.found handle principals ∧
      (aside.requests = service.requests ∨ aside.requests =
        service.requests.update cache (·.recordOutcome (service.realm handle).number outcome)) := by
  cases remembered : (service.requests.cache cache).outcome (service.realm handle).number with
  | some outcome =>
    exact ⟨outcome, ⟨service.requests, service.questions, service.entitlements⟩,
      entitle_recorded remembered, recorded outcome remembered, .inl rfl⟩
  | none =>
    obtain ⟨outcome, aside, ran, found, requests⟩ := entitle_anew remembered
    exact ⟨outcome, aside, ran, found, .inr requests⟩

-- What the request remembers after a check of a text that was not decided before.
structure Learned (service : Service) (principals : Option Principals) (cache : Nat)
    (handle text : String) (decided : Option Bool) (requests : Requests) : Prop where
  length : requests.caches.length = service.requests.caches.length
  decision : ∀ other, (requests.cache cache).decision other =
    if other = text then decided else (service.requests.cache cache).decision other
  outcome : ∀ number outcome, (requests.cache cache).outcome number = some outcome →
    (service.requests.cache cache).outcome number = some outcome ∨
      number = (service.realm handle).number ∧
        outcome.map (·.value) = service.found handle principals

theorem learned_entitled (inRange : cache < service.requests.caches.length)
    (undecided : (service.requests.cache cache).decision text = none) {outcome : Outcome} {aside : Aside}
    (found : outcome.map (·.value) = service.found handle principals)
    (recorded : aside.requests = service.requests ∨ aside.requests =
      service.requests.update cache (·.recordOutcome (service.realm handle).number outcome)) :
    Learned service principals cache handle text none aside.requests := by
  have nothing (other : String) : (service.requests.cache cache).decision other =
      if other = text then none else (service.requests.cache cache).decision other := by
    split
    · rename_i same
      rw [same, undecided]
    · rfl
  rcases recorded with same | updated
  · rw [same]
    exact ⟨rfl, nothing, fun _ _ => .inl⟩
  · rw [updated]
    refine ⟨Requests.update_length _ _ _, fun other => ?_, fun number held => ?_⟩
    · rw [Requests.cache_update inRange]
      exact nothing other
    · rw [Requests.cache_update inRange, RequestCache.outcome_recordOutcome]
      split
      · rename_i same
        rintro ⟨rfl⟩
        exact .inr ⟨same, found⟩
      · exact .inl

theorem Learned.decide {requests : Requests} (inRange : cache < service.requests.caches.length)
    (learned : Learned service principals cache handle text none requests) (decision : Bool) :
    Learned service principals cache handle text (some decision)
      (requests.update cache (·.recordDecision text decision)) := by
  have still : cache < requests.caches.length := learned.length ▸ inRange
  refine ⟨(Requests.update_length _ _ _).trans learned.length, fun other => ?_, fun number held => ?_⟩
  · rw [Requests.cache_update still, RequestCache.decision_recordDecision]
    split
    · rfl
    · rename_i unequal
      rw [learned.decision, if_neg unequal]
  · rw [Requests.cache_update still]
    exact learned.outcome number held

variable (perform : Step → Act Answer)

-- A check of a text that was not decided before: the realm judges, and the request takes note of it.
theorem check_undecided (quiet : service.interruptions = [])
    (inRange : cache < service.requests.caches.length)
    (undecided : (service.requests.cache cache).decision text = none)
    (recorded : service.Recorded principals cache handle) :
    let judged := (judge (interruptedReads perform) handle text
      (service.found handle principals)).run service
    ∃ aside, (check (interruptedReads perform) handle principals text cache).run service =
        (judged.1, judged.2.beside aside) ∧
      Learned service principals cache handle text judged.1.toOption aside.requests := by
  intro judged
  obtain ⟨outcome, aside, ran, found, requests⟩ := entitle_run recorded
  have learned := learned_entitled inRange undecided found requests
  have secluded := (judge_secluded perform handle text (service.found handle principals)
    service quiet).2 aside
  rw [check_parts undecided, run_bind, ran, found, run_bind, secluded]
  change ∃ aside', (keepDecision cache text judged.1).run (judged.2.beside aside) = _ ∧ _
  obtain ⟨result, last⟩ := judged
  cases result with
  | error fault => exact ⟨aside, rfl, learned⟩
  | ok decision =>
    exact ⟨⟨_, aside.questions, aside.entitlements⟩, rfl, learned.decide inRange decision⟩

def Service.forgetting (service : Service) (cache : Nat) : Service :=
  { service with requests := service.requests.update cache fun _ => {} }

theorem check_alone (quiet : service.interruptions = [])
    (inRange : cache < service.requests.caches.length) (handle text : String)
    (principals : Option Principals) :
    ((check (interruptedReads perform) handle principals text cache).run (service.forgetting cache)).1 =
      ((judge (interruptedReads perform) handle text (service.found handle principals)).run service).1 := by
  have empty : (service.forgetting cache).requests.cache cache = {} := Requests.cache_update inRange _
  have still : cache < (service.forgetting cache).requests.caches.length := by
    rw [show (service.forgetting cache).requests = service.requests.update cache _ from rfl,
      Requests.update_length]
    exact inRange
  have undecided : ((service.forgetting cache).requests.cache cache).decision text = none := by
    rw [empty]
    rfl
  have recorded : (service.forgetting cache).Recorded principals cache handle := by
    unfold Service.Recorded
    rw [empty]
    nofun
  have quietThere : (service.forgetting cache).interruptions = [] := quiet
  obtain ⟨_, ran, _⟩ := check_undecided perform quietThere still undecided recorded
  have blind := (judge_secluded perform handle text (service.found handle principals) service quiet).2
    ⟨service.requests.update cache fun _ => {}, service.questions, service.entitlements⟩
  exact (congrArg Prod.fst ran).trans (congrArg Prod.fst blind :)

end RepositoryAccess
