import RepositoryAccess.Proofs.Deeds
import RepositoryAccess.Proofs.Freshness

namespace RepositoryAccess
open RepositoryAccess.Text RepositoryAccess.Directory
open Service Act

namespace Service

-- The generation never goes down, and goes up when the contents of the store change.
structure Advances (before after : Service) : Prop where
  counted : before.store.generation ≤ after.store.generation
  changed : after.version ≠ before.version → before.store.generation < after.store.generation

instance (before after : Service) : Decidable (before.Advances after) :=
  decidable_of_iff (before.store.generation ≤ after.store.generation ∧
      (after.version ≠ before.version → before.store.generation < after.store.generation))
    ⟨fun ⟨counted, changed⟩ => ⟨counted, changed⟩, fun advances => ⟨advances.counted, advances.changed⟩⟩

-- Services between the steps of a run, the store counting its changes.
inductive Counted : Service → Prop
  | begins {service : Service} (descriptors : List Descriptor) (settings : Settings) :
      service.resolver = .new descriptors settings service.store.generation → service.Steady →
      Counted service
  | step {service : Service} {step : Step} (depth : Nat) : Counted service →
      (service :: (performWithin depth step).moments service).IsChain Advances →
      Counted ((performWithin depth step).run service).2

def Counts (moment : Service) : Prop :=
  ∃ (service : Service) (depth : Nat) (step : Step), service.Counted ∧
    (service :: (performWithin depth step).moments service).IsChain Advances ∧
      moment ∈ service :: (performWithin depth step).moments service

-- The resolver has seen no generation that is still to come, and if it has seen the present one, then
-- nothing has changed since it was invalidated.
structure Watched (service : Service) : Prop where
  bounded : service.resolver.generation ≤ service.store.generation
  seen : service.resolver.generation = service.store.generation → service.Steady

variable {service before after moment : Service}

theorem Watched.congr (watched : before.Watched)
    (seen : after.resolver.generation = before.resolver.generation)
    (generation : after.store.generation = before.store.generation)
    (version : after.version = before.version) (emptied : after.emptied = before.emptied) :
    after.Watched := by
  refine ⟨?_, fun same => ?_⟩
  · rw [seen, generation]; exact watched.bounded
  · rw [seen, generation] at same
    show after.emptied = after.version
    rw [version, emptied]
    exact watched.seen same

theorem Watched.change (watched : before.Watched) {f : Store → Store}
    (advances : before.Advances (before.change f)) : (before.change f).Watched := by
  have bounded := watched.bounded
  by_cases same : (f before.store).SameContents before.store
  · rw [show before.change f = { before with store := f before.store } from if_pos same] at *
    have counted : before.store.generation ≤ (f before.store).generation := advances.counted
    refine ⟨Nat.le_trans bounded counted, fun met => watched.seen ?_⟩
    have met : before.resolver.generation = (f before.store).generation := met
    omega
  · rw [show before.change f =
      { before with store := f before.store, version := before.version + 1 } from if_neg same] at *
    have later : before.store.generation < (f before.store).generation :=
      advances.changed (Nat.succ_ne_self _)
    refine ⟨Nat.le_trans bounded (Nat.le_of_lt later), fun met => ?_⟩
    have met : before.resolver.generation = (f before.store).generation := met
    omega

theorem Watched.meetGeneration (watched : service.Watched) : service.meetGeneration.2.Watched := by
  rcases meetGeneration_cases service with ⟨_, changed⟩ | ⟨same, unchanged⟩
  · rw [changed]
    exact ⟨Nat.le_refl _, fun _ => rfl⟩
  · rw [unchanged]
    exact ⟨Nat.le_refl _, fun _ => watched.seen same.symm⟩

theorem Watched.deed (watched : before.Watched) (deed : before.Deed after)
    (advances : before.Advances after) : after.Watched := by
  cases deed with
  | use use => exact watched.congr use.standing.2 rfl rfl rfl
  | note => exact watched.congr rfl rfl rfl rfl
  | change f => exact watched.change advances
  | invalidate => exact ⟨watched.bounded, fun _ => rfl⟩
  | shutdown => exact ⟨watched.bounded, fun _ => rfl⟩
  | meetGeneration => exact watched.meetGeneration
  | meetEpoch | lookUp | remember => exact watched.congr rfl rfl rfl rfl
  | elsewhere => exact watched.congr rfl rfl rfl rfl

theorem Watched.along {α : Type} {course : Act α} (watched : service.Watched)
    (orderly : course.Orderly)
    (advancing : (service :: course.moments service).IsChain Advances) :
    ∀ moment ∈ service :: course.moments service, moment.Watched :=
  orderly.holds advancing (fun _ _ deed advances watched => watched.deed deed advances) watched

theorem Counted.watched (counted : service.Counted) : service.Watched := by
  induction counted with
  | begins descriptors settings made steady =>
    exact ⟨by rw [made]; exact Nat.le_refl _, fun _ => steady⟩
  | step depth _ advancing ih =>
    exact ih.along (performWithin_orderly depth _) advancing _ (run_mem _ _)

theorem Counts.watched (counts : moment.Counts) : moment.Watched := by
  obtain ⟨service, depth, step, counted, advancing, passed⟩ := counts
  exact counted.watched.along (performWithin_orderly depth step) advancing moment passed

theorem Counted.counts (counted : service.Counted) : service.Counts :=
  ⟨service, 0, .running, counted, .singleton _, List.mem_cons_self⟩

structure Notices (met : Service) (changed : Bool) (after : Service) : Prop where
  seen : after.resolver.generation = met.store.generation
  told : changed = true ↔ met.store.generation ≠ met.resolver.generation
  emptied : changed = true → after.resolver.epoch = met.resolver.epoch + 1 ∧
    after.resolver.roles.entries = [] ∧ after.resolver.privileges.entries = [] ∧
      after.resolver.missing.entries = []
  kept : changed = false → after = met

theorem meetGeneration_notices (met : Service) :
    met.Notices met.meetGeneration.1 met.meetGeneration.2 := by
  rcases meetGeneration_cases met with ⟨other, run⟩ | ⟨same, run⟩
  · rw [run]
    exact ⟨rfl, iff_of_true rfl other, fun _ => ⟨rfl, rfl, rfl, rfl⟩,
      fun kept => absurd kept.symm Bool.false_ne_true⟩
  · have unchanged : met.noteGeneration = met := by unfold noteGeneration; rw [same]
    rw [run, unchanged]
    exact ⟨same.symm, iff_of_false Bool.false_ne_true fun other => other same,
      fun changed => absurd changed Bool.false_ne_true, fun _ => rfl⟩

theorem Notices.sees {met : Service} {changed : Bool} (notices : met.Notices changed after)
    (watched : met.Watched) (unsteady : ¬ met.Steady) : changed = true :=
  notices.told.mpr fun same => unsteady (watched.seen same.symm)

end Service

-- The dirty check has read the role resolved last, if there is one, and the store did not turn out to
-- be unavailable.
inductive Rereads (reads : Reads) (moment : Service) : Service → Prop
  | nothing : moment.resolver.latest = none → Rereads reads moment moment
  | role {id : String} {result : Except StoreFault Role} {met : Service} :
      moment.resolver.latest = some id → (reads.role id).run moment = (result, met) →
      (∀ reason, result ≠ .error (.unavailable reason)) → Rereads reads moment met

variable {reads : Reads} {moment met : Service}

def reread (reads : Reads) : Option String → Act Bool
  | none => return true
  | some id => do
    match ← reads.role id with
    | .ok _ => return true
    | .error fault => return fault.isNotFound

def meetIf (readable : Bool) : Act Bool :=
  if readable then modifyGet (·.meetGeneration) else return false

theorem checkDirty_parts (reads : Reads) :
    checkDirty reads = get >>= fun service => reread reads service.resolver.latest >>= meetIf := by
  refine congrArg look (funext fun service => ?_)
  show (match service.resolver.latest with
      | none => meetIf true
      | some id => reads.role id >>= fun result => match result with
        | .ok _ => meetIf true
        | .error fault => meetIf fault.isNotFound) = reread reads service.resolver.latest >>= meetIf
  cases service.resolver.latest with
  | none => rfl
  | some id =>
    refine Eq.trans ?_ (bind_assoc (reads.role id) _ meetIf).symm
    refine congrArg (reads.role id >>= ·) (funext fun result => ?_)
    cases result <;> rfl

theorem checkDirty_run (reads : Reads) (moment : Service) :
    (checkDirty reads).run moment = (reread reads moment.resolver.latest >>= meetIf).run moment := by
  rw [checkDirty_parts]
  rfl

theorem checkDirty_moments (reads : Reads) (moment : Service) :
    (checkDirty reads).moments moment =
      (reread reads moment.resolver.latest >>= meetIf).moments moment := by
  rw [checkDirty_parts]
  rfl

theorem Rereads.reread_run (rereads : Rereads reads moment met) :
    (reread reads moment.resolver.latest).run moment = (true, met) := by
  cases rereads with
  | nothing latest => rw [latest]; rfl
  | @role id result _ latest read available =>
    rw [latest]
    unfold reread
    rw [run_bind, read]
    cases result with
    | ok role => rfl
    | error fault =>
      cases fault with
      | roleNotFound | privilegeNotFound => rfl
      | unavailable reason => exact absurd rfl (available reason)

theorem Rereads.checkDirty_run (rereads : Rereads reads moment met) :
    (checkDirty reads).run moment = met.meetGeneration := by
  rw [RepositoryAccess.checkDirty_run, run_bind, rereads.reread_run]
  rfl

theorem reread_unavailable {id reason : String} (latest : moment.resolver.latest = some id)
    (read : (reads.role id).run moment = (.error (.unavailable reason), met)) :
    (reread reads moment.resolver.latest).run moment = (false, met) := by
  rw [latest]
  unfold reread
  rw [run_bind, read]
  rfl

theorem checkDirty_unavailable {id reason : String} (latest : moment.resolver.latest = some id)
    (read : (reads.role id).run moment = (.error (.unavailable reason), met)) :
    (checkDirty reads).run moment = (false, met) := by
  rw [checkDirty_run, run_bind, reread_unavailable latest read]
  rfl

theorem reread_passed (reads : Reads) (moment : Service) :
    ((reread reads moment.resolver.latest).run moment).2 ∈
      moment :: (checkDirty reads).moments moment := by
  rw [checkDirty_moments, moments_bind, ← List.cons_append]
  exact List.mem_append_left _ (run_mem _ moment)

theorem dirty_check_misses_nothing {moment : Service} (counts : moment.Counts) (depth : Nat) :
    let reads := interruptedReads (performWithin depth)
    let counted := (moment :: (checkDirty reads).moments moment).IsChain Advances
    (moment.resolver.generation = moment.store.generation → moment.Steady) ∧
    (∀ met, Rereads reads moment met →
      ∃ changed after, (checkDirty reads).run moment = (changed, after) ∧
        met.Notices changed after ∧ (counted → ¬ met.Steady → changed = true)) ∧
    ∀ id reason met, moment.resolver.latest = some id →
      (reads.role id).run moment = (.error (.unavailable reason), met) →
      (checkDirty reads).run moment = (false, met) ∧
        (counted → ¬ met.Steady → met.resolver.generation ≠ met.store.generation) := by
  intro reads counted
  have orderly : (checkDirty reads).Orderly :=
    checkDirty_orderly (interruptedReads_orderly (performWithin_orderly depth))
  have watched (advancing : counted) := counts.watched.along orderly advancing _
    (reread_passed reads moment)
  refine ⟨counts.watched.seen, fun met rereads => ?_, fun id reason met latest read => ?_⟩
  · rw [rereads.reread_run] at watched
    have notices := meetGeneration_notices met
    exact ⟨_, _, rereads.checkDirty_run, notices, fun advancing => notices.sees (watched advancing)⟩
  · rw [reread_unavailable latest read] at watched
    exact ⟨checkDirty_unavailable latest read,
      fun advancing unsteady same => unsteady ((watched advancing).seen same)⟩

-- One of the roles that contain each other is resolved, and the privilege of the other goes; once the
-- resolved role is read again, its own privilege goes as well.
def shaken : Service :=
  let resolved := ((performWithin 1 (.resolve "reader")).run circling).2
  let waiting := ((performWithin 1
    (.interrupt .role "reader" [.dropPrivilege "read" false])).run resolved).2
  ((performWithin 1 (.dropPrivilege "write" false)).run waiting).2

def blinded : Service :=
  ((performWithin 1 (.failReads ⟨.role, everyId, .unavailable "down"⟩)).run shaken).2

theorem shaken_counted : shaken.Counted := by
  have begins : circling.Counted := .begins Descriptor.builtIn {} rfl rfl
  have resolved : Counted ((performWithin 1 (.resolve "reader")).run circling).2 :=
    .step 1 begins (by decide +kernel)
  have waiting : Counted ((performWithin 1 (.interrupt .role "reader"
      [.dropPrivilege "read" false])).run ((performWithin 1 (.resolve "reader")).run circling).2).2 :=
    .step 1 resolved (by decide +kernel)
  exact .step 1 waiting (by decide +kernel)

theorem shaken_noticed :
    let reads := interruptedReads (performWithin 1)
    shaken.Counts ∧ blinded.Counts ∧ ¬ shaken.Steady ∧
    (∃ met after, Rereads reads shaken met ∧ (checkDirty reads).run shaken = (true, after) ∧
      met.Notices true after ∧ after.resolver.generation = shaken.store.generation + 1) ∧
    ∃ met, (checkDirty reads).run blinded = (false, met) ∧
      met.resolver.generation ≠ met.store.generation := by
  intro reads
  have counts : shaken.Counts := shaken_counted.counts
  have blindedCounts : blinded.Counts := Counted.counts (.step 1 shaken_counted (by decide +kernel))
  obtain ⟨_, notices, _⟩ := dirty_check_misses_nothing counts 1
  obtain ⟨_, _, fails⟩ := dirty_check_misses_nothing blindedCounts 1
  have latest : shaken.resolver.latest = some "reader" := by decide +kernel
  have read : ((reads.role "reader").run shaken).1 = .ok (.new "reader" ["read"] ["writer"]) := by
    decide +kernel
  have rereads : Rereads reads shaken ((reads.role "reader").run shaken).2 :=
    .role latest (Prod.ext read rfl) (fun _ => nofun)
  obtain ⟨changed, after, ran, noticed, sees⟩ := notices _ rereads
  obtain rfl : changed = true := sees (by decide +kernel) (by decide +kernel)
  have unreadable : ((reads.role "reader").run blinded).1 = .error (.unavailable "down") := by
    decide +kernel
  obtain ⟨failed, unseen⟩ := fails "reader" "down" _ (by decide +kernel) (Prod.ext unreadable rfl)
  refine ⟨counts, blindedCounts, by decide +kernel, ⟨_, after, rereads, ran, noticed, ?_⟩,
    _, failed, unseen (by decide +kernel) (by decide +kernel)⟩
  rw [noticed.seen]
  decide +kernel

end RepositoryAccess
