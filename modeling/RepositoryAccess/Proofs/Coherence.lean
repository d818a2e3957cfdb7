import RepositoryAccess.Proofs.Conferral

namespace RepositoryAccess
open RepositoryAccess.Text RepositoryAccess.Directory

def Permission.Mint.Faithful (mint : Permission.Mint) : Prop :=
  ∀ entry ∈ mint.cache.entries, Permission.parse entry.1 = .ok entry.2.permission

mutual

-- Steps that tell the store to fail only as a store may fail, and to lock only as it may lock.
def Step.Tame : Step → Prop
  | .failReads failure => failure.fault.isNotFound = false
  | .useLock lock => lock.Honest
  | .interrupt _ _ steps => Step.AllTame steps
  | _ => True

def Step.AllTame : List Step → Prop
  | [] => True
  | step :: steps => step.Tame ∧ Step.AllTame steps

end

namespace Service

-- The resolver's three caches tell the truth about the store as it is now.
structure Coherent (service : Service) : Prop where
  roles : ∀ entry ∈ service.resolver.roles.entries,
    entry.2.value.Exactly (service.Confers entry.1)
  privileges : ∀ entry ∈ service.resolver.privileges.entries, service.Yields entry.1 entry.2
  missing : ∀ id ∈ service.resolver.missing.keys, service.store.role? id = none

def ConfersAny (service : Service) (roles : NameSet) (permission : Permission) : Prop :=
  ∃ role ∈ roles, service.Confers role permission

def Current (service : Service) (realm : Realm) : Prop :=
  ∀ entry ∈ realm.roleSets.entries, entry.2.value.Exactly (service.ConfersAny entry.1)

-- What holds of a service at every moment.  A realm that has seen the present epoch stores nothing
-- that was found out under an earlier one.
structure Sound (service : Service) : Prop where
  tame : service.store.Tame
  waiting : ∀ interruption ∈ service.interruptions, Step.AllTame interruption.steps
  minted : service.resolver.mint.Faithful
  emptied : service.emptied ≤ service.version
  coherent : service.Steady → service.Coherent
  seen : ∀ realm ∈ service.realms, realm.seenEpoch ≤ service.resolver.epoch
  current : service.Steady → ∀ realm ∈ service.realms,
    realm.seenEpoch = service.resolver.epoch → service.Current realm

-- How services follow one another.  Without a new epoch nothing was emptied; without a new version
-- the store holds what it held.
structure Later (earlier later : Service) : Prop where
  epoch : earlier.resolver.epoch ≤ later.resolver.epoch
  version : earlier.version ≤ later.version
  emptied : earlier.emptied ≤ later.emptied
  sameEpoch : later.resolver.epoch = earlier.resolver.epoch → later.emptied = earlier.emptied
  contents : later.version = earlier.version → later.store.SameContents earlier.store
  descriptors : later.resolver.descriptors = earlier.resolver.descriptors

-- The store was as at the last invalidation, and has not changed since.
def Undisturbed (earlier later : Service) : Prop :=
  earlier.Steady ∧ later.version = earlier.version

variable {first middle last : Service}

theorem Later.refl (service : Service) : Later service service :=
  ⟨Nat.le_refl _, Nat.le_refl _, Nat.le_refl _, fun _ => rfl, fun _ => .refl _, rfl⟩

theorem Later.trans (early : Later first middle) (late : Later middle last) : Later first last := by
  refine ⟨Nat.le_trans early.epoch late.epoch, Nat.le_trans early.version late.version,
    Nat.le_trans early.emptied late.emptied, ?_, ?_, late.descriptors.trans early.descriptors⟩
  · intro same
    have epochs := early.epoch
    have epochs' := late.epoch
    exact (late.sameEpoch (by omega)).trans (early.sameEpoch (by omega))
  · intro same
    have versions := early.version
    have versions' := late.version
    exact (late.contents (by omega)).trans (early.contents (by omega))

theorem Later.undisturbed (later : Later first last) (bounded : first.emptied ≤ first.version)
    (epoch : last.resolver.epoch = first.resolver.epoch) (steady : last.Steady) :
    Undisturbed first last := by
  have emptied := later.sameEpoch epoch
  have versions := later.version
  have ended : last.emptied = last.version := steady
  refine ⟨?_, by omega⟩
  show first.emptied = first.version
  omega

theorem Undisturbed.before (calm : Undisturbed first last) (early : Later first middle)
    (late : Later middle last) : Undisturbed first middle := by
  have versions := early.version
  have versions' := late.version
  have same := calm.2
  exact ⟨calm.1, by omega⟩

theorem Undisturbed.steady (calm : Undisturbed first last) (later : Later first last)
    (bounded : last.emptied ≤ last.version) : last.Steady := by
  have emptied := later.emptied
  have same := calm.2
  have began : first.emptied = first.version := calm.1
  show last.emptied = last.version
  omega

theorem Undisturbed.after (calm : Undisturbed first last) (early : Later first middle)
    (late : Later middle last) (bounded : middle.emptied ≤ middle.version) :
    Undisturbed middle last := by
  have between := calm.before early late
  exact ⟨between.steady early bounded, calm.2.trans between.2.symm⟩

theorem Undisturbed.role? (calm : Undisturbed first last) (later : Later first last) (id : String) :
    last.store.role? id = first.store.role? id := (later.contents calm.2).role? id

theorem Undisturbed.yields (calm : Undisturbed first last) (later : Later first last) :
    last.Yields = first.Yields := yields_congr (later.contents calm.2) later.descriptors

theorem Undisturbed.confers (calm : Undisturbed first last) (later : Later first last) :
    last.Confers = first.Confers := confers_congr (later.contents calm.2) later.descriptors

theorem Undisturbed.confersAny (calm : Undisturbed first last) (later : Later first last) :
    last.ConfersAny = first.ConfersAny := by
  funext roles permission
  unfold ConfersAny
  rw [calm.confers later]

end Service
end RepositoryAccess
