import RepositoryAccess.Proofs.Discipline

namespace RepositoryAccess
open RepositoryAccess.Text RepositoryAccess.Directory

mutual

-- Neither the step nor what it has wait for a read calls the resolver.
def Step.Aloof : Step → Prop
  | .resolve _ | .permits _ _ | .invalidate | .checkDirty | .notify _ | .pass _ | .shutdown | .listen _ _
  | .permissions _ _ | .permitted _ _ _ | .permittedAll _ _ _ | .check _ _ _ _ => False
  | .interrupt _ _ steps => Step.AllAloof steps
  | _ => True

def Step.AllAloof : List Step → Prop
  | [] => True
  | step :: steps => step.Aloof ∧ Step.AllAloof steps

end

-- Something became different that neither the store nor the resolver nor the reads look at.
def Service.Elsewhere (before after : Service) : Prop := after = { before with
  managers := after.managers
  active := after.active
  requests := after.requests
  clock := after.clock
  background := after.background
  sets := after.sets
  entitlements := after.entitlements
  questions := after.questions
  asides := after.asides }

structure Bystanding (holds : {α : Type} → Act α → Prop) : Prop where
  pure {α : Type} (result : α) : holds (pure result)
  bind {α β : Type} {course : Act α} {next : α → Act β} :
    holds course → (∀ result, holds (next result)) → holds (course >>= next)
  get {β : Type} {next : Service → Act β} : (∀ service, holds (next service)) → holds (get >>= next)
  elsewhere {α : Type} {change : Service → α × Service} :
    (∀ service : Service, service.Elsewhere (change service).2) → holds (modifyGet change)
  interrupt (kind : ReadKind) (id : String) {steps : List Step} : Step.AllAloof steps →
    holds (modify fun service => { service with
      interruptions := service.interruptions ++ [⟨kind, id, steps⟩] })
  change {f : Store → Store} : (∀ store, (f store).uses = store.uses) → holds (modify (·.change f))
  create (text : String) : holds (onResolver (·.create text))
  clearMint : holds (changeResolver (·.clearMint))

namespace Bystanding
variable {holds : {α : Type} → Act α → Prop}

theorem shareOutcome (bystanding : Bystanding holds) (result : Except Fault Entitlement) :
    holds (shareOutcome result) := by
  cases result with
  | error fault => exact bystanding.pure _
  | ok entitlement => exact bystanding.bind (bystanding.elsewhere fun _ => rfl) fun _ => bystanding.pure _

theorem entitle (bystanding : Bystanding holds) (handle : String) (principals : Option Principals)
    (cache : Nat) : holds (entitle handle principals cache) := by
  refine bystanding.get fun service => bystanding.get fun service => ?_
  split
  · exact bystanding.pure _
  · refine bystanding.bind (bystanding.elsewhere fun _ => rfl) fun result => ?_
    refine bystanding.bind (bystanding.shareOutcome result) fun outcome => ?_
    exact bystanding.bind (bystanding.elsewhere fun _ => rfl) fun _ => bystanding.pure _

theorem cacheNamed (bystanding : Bystanding holds) (name : String) : holds (cacheNamed name) :=
  bystanding.elsewhere fun _ => rfl

theorem updateCache (bystanding : Bystanding holds) (number : Nat) (f : RequestCache → RequestCache) :
    holds (updateCache number f) :=
  bystanding.bind (bystanding.elsewhere fun _ => rfl) fun _ => bystanding.get fun _ => bystanding.pure _

theorem performAside (bystanding : Bystanding holds) {perform : Step → Act Answer} (steps : List Step)
    (each : ∀ step ∈ steps, holds (perform step)) : holds (performAside perform steps) := by
  induction steps with
  | nil => exact bystanding.pure _
  | cons step steps ih =>
    obtain ⟨first, rest⟩ := List.forall_mem_cons.mp each
    refine bystanding.bind first fun answer => ?_
    exact bystanding.bind (bystanding.elsewhere fun _ => rfl) fun _ => ih rest

theorem advance_uses (store : Store) (quiet : Bool) : (store.advance quiet).uses = store.uses := by
  unfold Store.advance
  split <;> rfl

-- One case for each step; those that call the resolver are no such steps.
theorem performWith (bystanding : Bystanding holds) (reads : Reads) (step : Step) (aloof : step.Aloof) :
    holds (performWith reads step) := by
  have done {change : Act PUnit} (first : holds change) :
      holds (do change; return Answer.done) := bystanding.bind first fun _ => bystanding.pure _
  cases step with
  | putRole | dropRole | putPrivilege | dropPrivilege =>
    exact done (bystanding.change fun _ => advance_uses _ _)
  | setGeneration | failReads | breakRole | heal | useLock => exact done (bystanding.change fun _ => rfl)
  | interrupt kind id steps => exact done (bystanding.interrupt kind id aloof)
  | putUser | dropUser | putMapping | setActive => exact done (bystanding.elsewhere fun _ => rfl)
  | create text =>
    refine bystanding.bind (bystanding.create text) fun made => ?_
    cases made <;> exact bystanding.pure _
  | clearMint => exact done bystanding.clearMint
  | start =>
    refine bystanding.bind (bystanding.elsewhere fun service => ?_) fun _ =>
      bystanding.get fun _ => bystanding.pure _
    dsimp only
    split <;> rfl
  | running => exact bystanding.get fun _ => bystanding.pure _
  | describe realm principal => exact bystanding.get fun _ => bystanding.pure _
  | entitle realm principals cache =>
    exact bystanding.bind (bystanding.cacheNamed cache) fun number =>
      bystanding.bind (bystanding.entitle realm principals number) fun _ => bystanding.pure _
  | subject cache authenticated request => exact bystanding.elsewhere fun _ => rfl
  | decision cache text =>
    exact bystanding.get fun _ => bystanding.bind (bystanding.cacheNamed cache) fun _ => bystanding.pure _
  | recordDecision cache text granted =>
    exact bystanding.bind (bystanding.cacheNamed cache) fun number =>
      bystanding.bind (bystanding.updateCache number _) fun _ => bystanding.pure _
  | authenticate cache principals =>
    exact bystanding.bind (bystanding.cacheNamed cache) fun number =>
      bystanding.bind (bystanding.updateCache number _) fun _ => bystanding.pure _
  | authenticated cache =>
    refine bystanding.get fun _ => bystanding.bind (bystanding.cacheNamed cache) fun number => ?_
    split <;> exact bystanding.pure _
  | outcome cache realm =>
    refine bystanding.get fun _ => bystanding.bind (bystanding.cacheNamed cache) fun number => ?_
    refine bystanding.get fun _ => ?_
    split <;> exact bystanding.pure _
  | recordOutcome cache realm result =>
    refine bystanding.bind (bystanding.shareOutcome result) fun outcome => bystanding.get fun _ => ?_
    exact bystanding.bind (bystanding.cacheNamed cache) fun number =>
      bystanding.bind (bystanding.updateCache number _) fun _ => bystanding.pure _
  | resolve | permits | invalidate | checkDirty | notify | pass | shutdown | listen | permissions | permitted
  | permittedAll | check => exact aloof.elim

end Bystanding
end RepositoryAccess
