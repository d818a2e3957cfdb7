import RepositoryAccess.Service.Perform

namespace RepositoryAccess
open RepositoryAccess.Text RepositoryAccess.Directory

inductive Resolver.Use (resolver : Resolver) : Resolver → Prop
  | knownRole (id : String) : resolver.Use (resolver.knownRole id).2
  | rememberRole (epoch : Nat) (id : String) (held : Numbered Holdings) :
      resolver.Use (resolver.rememberRole epoch id held)
  | settle (id : String) : resolver.Use (resolver.settle id)
  | knownPrivilege (id : String) : resolver.Use (resolver.knownPrivilege id).2
  | grant (epoch : Nat) (id : String) (privilege : Privilege) :
      resolver.Use (resolver.grant epoch id privilege).2
  | knownMissing (id : String) : resolver.Use (resolver.knownMissing id).2
  | rememberMissing (epoch : Nat) (id : String) : resolver.Use (resolver.rememberMissing epoch id)
  | wait (milliseconds : Nat) : resolver.Use (resolver.wait milliseconds)
  | create (text : String) : resolver.Use (resolver.create text).2
  | clearMint : resolver.Use resolver.clearMint

namespace Resolver

-- No use begins an epoch or takes note of a generation.
def Standing (before after : Resolver) : Prop :=
  after.epoch = before.epoch ∧ after.generation = before.generation

variable {before middle after : Resolver}

theorem Standing.trans (early : before.Standing middle) (late : middle.Standing after) :
    before.Standing after := ⟨late.1.trans early.1, late.2.trans early.2⟩

theorem rememberPrivilege_standing (resolver : Resolver) (epoch : Nat) (id : String)
    (permission : Permission) : resolver.Standing (resolver.rememberPrivilege epoch id permission) := by
  unfold rememberPrivilege
  split <;> exact ⟨rfl, rfl⟩

theorem grant_standing (resolver : Resolver) (epoch : Nat) (id : String) (privilege : Privilege) :
    resolver.Standing (resolver.grant epoch id privilege).2 := by
  unfold grant
  split
  · exact ⟨rfl, rfl⟩
  · rename_i text _
    have kept : resolver.Standing (resolver.create text).2 := ⟨rfl, rfl⟩
    split <;> rename_i created <;> rw [created] at kept
    · exact kept.trans (rememberPrivilege_standing _ _ _ _)
    · exact kept

theorem moment_standing (resolver : Resolver) (moment : Nat) : resolver.Standing { resolver with moment } := ⟨rfl, rfl⟩

theorem Use.standing (use : before.Use after) : before.Standing after := by
  cases use with
  | rememberRole => unfold Resolver.rememberRole; split <;> exact ⟨rfl, rfl⟩
  | rememberMissing => unfold Resolver.rememberMissing; split <;> exact ⟨rfl, rfl⟩
  | grant epoch id privilege => exact grant_standing before epoch id privilege
  | wait => exact moment_standing before _
  | knownRole | settle | knownPrivilege | knownMissing | create | clearMint => exact ⟨rfl, rfl⟩

end Resolver

def Realm.Keeps (f : Realm → Realm) : Prop :=
  ∀ realm, f realm = { realm with roleSets := (f realm).roleSets, seenEpoch := (f realm).seenEpoch }

theorem meetEpoch_keeps (epoch : Nat) : Realm.Keeps (·.meetEpoch epoch) := by
  intro realm
  show realm.meetEpoch epoch = { realm with
    roleSets := (realm.meetEpoch epoch).roleSets, seenEpoch := (realm.meetEpoch epoch).seenEpoch }
  unfold Realm.meetEpoch
  split <;> rfl

-- What a request remembers, what managers were asked, and how entitlements are numbered.  Resolutions
-- and the decisions made from an entitlement do not look at it.
structure Aside where
  requests : Requests
  questions : List (String × Question)
  entitlements : Numbering

def Service.beside (service : Service) (aside : Aside) : Service :=
  { service with
    requests := aside.requests, questions := aside.questions, entitlements := aside.entitlements }

-- Who the users are, and which realms are active.  Once it is known what somebody is entitled to, nothing
-- looks at it any more.
def Service.among (service : Service) (managers : List Manager) (active : List String) : Service :=
  { service with managers, active }

-- What is done in sequence has the property if its parts have it.
structure Sequencing (holds : {α : Type} → Act α → Prop) : Prop where
  pure {α : Type} (result : α) : holds (pure result)
  bind {α β : Type} {course : Act α} {next : α → Act β} :
    holds course → (∀ result, holds (next result)) → holds (course >>= next)
  get {β : Type} {next : Service → Act β} :
    (∀ service aside, next (service.beside aside) = next service) →
    (∀ service managers active, next (service.among managers active) = next service) →
    (∀ service, holds (next service)) → holds (get >>= next)

structure Discipline (holds : {α : Type} → Act α → Prop) : Prop extends Sequencing holds where
  use {α : Type} {f : Resolver → α × Resolver} :
    (∀ resolver : Resolver, resolver.Use (f resolver).2) → holds (onResolver f)
  alter {f : Resolver → Resolver} :
    (∀ resolver : Resolver, resolver.Use (f resolver)) → holds (changeResolver f)
  note (use : StoreUse) : holds (modify fun service => { service with store := service.store.note use })
  share (found : Holdings) : holds (shareSet found)

structure Reads.Follow (reads : Reads) (holds : {α : Type} → Act α → Prop) : Prop where
  role : ∀ id, holds (reads.role id)
  privilege : ∀ id, holds (reads.privilege id)

def findSet (handle : String) (roles : NameSet) : Act (Nat × Option (Numbered Holdings)) := do
  let epoch := (← get).resolver.epoch
  modify (·.modifyRealm handle (·.meetEpoch epoch))
  let (known, roleSets) := ((← get).realm handle).roleSets.get roles
  modify (·.modifyRealm handle fun realm => { realm with roleSets })
  return (epoch, known)

def makeSet (reads : Reads) (handle : String) (roles : NameSet) (epoch : Nat) :
    Act (Except StoreFault (Numbered Holdings)) := do
  match ← mergeRoles reads roles.names .empty with
  | .error fault => return .error fault
  | .ok found =>
    let permissions ← shareSet found
    if (← get).resolver.epoch = epoch then
      modify (·.modifyRealm handle (·.remember roles permissions))
    return .ok permissions

theorem rolePermissions_parts (reads : Reads) (handle : String) (roles : NameSet) :
    rolePermissions reads handle roles = findSet handle roles >>= fun found =>
      match found.2 with
      | some permissions => pure (.ok permissions)
      | none => makeSet reads handle roles found.1 := rfl

structure Deciding (reads : Reads) (handle : String) (holds : {α : Type} → Act α → Prop) : Prop
    extends Sequencing holds where
  resolve (id : String) : holds (resolve reads id)
  create (text : String) : holds (onResolver (·.create text))
  share (found : Holdings) : holds (shareSet found)
  find (roles : NameSet) : holds (findSet handle roles)
  remember {roles : NameSet} (some : roles.isEmpty = false) (held : Numbered Holdings) :
    holds (modify (·.modifyRealm handle (·.remember roles held)))

variable {holds : {α : Type} → Act α → Prop} {reads : Reads} {handle : String}

namespace Sequencing

theorem collectGranted (sequencing : Sequencing holds) {epoch : Nat}
    (grants : ∀ id, holds (granted reads epoch id)) (ids : List String) :
    ∀ found, holds (collectGranted reads epoch ids found) := by
  induction ids with
  | nil => exact fun found => sequencing.pure _
  | cons id ids ih =>
    intro found
    refine sequencing.bind (grants id) fun result => ?_
    match result with
    | .error fault => exact sequencing.pure _
    | .ok none => exact ih found
    | .ok (some permission) => exact ih _

theorem walkOn (sequencing : Sequencing holds) {epoch : Nat} (visits : ∀ id, holds (visit reads epoch id))
    (grants : ∀ id, holds (granted reads epoch id)) (budget : Nat) :
    ∀ walk, holds (walkOn reads epoch budget walk) := by
  induction budget with
  | zero => exact fun walk => sequencing.pure _
  | succ budget ih =>
    intro walk
    cases first : walk.pending with
    | nil =>
      simp only [RepositoryAccess.walkOn, first]
      exact sequencing.pure _
    | cons id pending =>
      simp only [RepositoryAccess.walkOn, first]
      split
      · exact ih _
      · refine sequencing.bind (visits id) fun result => ?_
        cases result with
        | missing => exact ih _
        | known permissions => exact ih _
        | failed fault => exact sequencing.pure _
        | entered role =>
          refine sequencing.bind (sequencing.collectGranted grants _ _) ?_
          rintro ⟨found, fault⟩
          cases fault with
          | some fault => exact sequencing.pure _
          | none => exact ih _

theorem collect (sequencing : Sequencing holds) {epoch : Nat} (visits : ∀ id, holds (visit reads epoch id))
    (grants : ∀ id, holds (granted reads epoch id)) (id : String) : holds (collect reads epoch id) :=
  sequencing.get (fun _ _ => rfl) (fun _ _ _ => rfl) fun _ => sequencing.walkOn visits grants _ _

theorem underLock (sequencing : Sequencing holds) {run : Act Collected} (ran : holds run)
    (lock : Lock) : ∀ last, holds (underLock run lock last) := by
  induction lock with
  | grant => exact fun last => sequencing.pure _
  | deny fault => exact fun last => sequencing.pure _
  | relay => exact fun last => sequencing.pure _
  | run succeeded failed good bad =>
    intro last
    refine sequencing.bind ran ?_
    rintro ⟨found, fault⟩
    cases fault with
    | none => exact good _
    | some fault => exact bad _

theorem lockedRun (sequencing : Sequencing holds)
    (opened : holds (modify fun service => { service with store := service.store.note .opened }))
    {run : Act Collected} (ran : holds run) : holds (lockedRun run) :=
  sequencing.bind opened fun _ =>
    sequencing.get (fun _ _ => rfl) (fun _ _ _ => rfl) fun _ => sequencing.underLock ran _ _

theorem mergeRoles (sequencing : Sequencing holds) (resolves : ∀ id, holds (resolve reads id))
    (roles : List String) : ∀ found, holds (mergeRoles reads roles found) := by
  induction roles with
  | nil => exact fun found => sequencing.pure _
  | cons role roles ih =>
    intro found
    refine sequencing.bind (resolves role) fun result => ?_
    cases result with
    | error fault => exact sequencing.pure _
    | ok permissions => exact ih _

end Sequencing

namespace Deciding

theorem insertTexts (deciding : Deciding reads handle holds) (texts : List String) :
    ∀ found, holds (insertTexts texts found) := by
  induction texts with
  | nil => exact fun found => deciding.pure _
  | cons text texts ih =>
    intro found
    refine deciding.bind (deciding.create text) fun made => ?_
    cases made <;> exact ih _

theorem explicitPermissions (deciding : Deciding reads handle holds) (entitlement : Entitlement) :
    holds (explicitPermissions reads entitlement) := by
  refine deciding.bind (deciding.insertTexts _ _) fun found => ?_
  refine deciding.bind (deciding.toSequencing.mergeRoles deciding.resolve _ _) fun result => ?_
  cases result <;> exact deciding.pure _

theorem rolePermissions (deciding : Deciding reads handle holds) {roles : NameSet}
    (some : roles.isEmpty = false) : holds (rolePermissions reads handle roles) := by
  rw [rolePermissions_parts]
  refine deciding.bind (deciding.find roles) ?_
  rintro ⟨epoch, known⟩
  cases known with
  | some permissions => exact deciding.pure _
  | none =>
    refine deciding.bind (deciding.toSequencing.mergeRoles deciding.resolve _ _) fun result => ?_
    cases result with
    | error fault => exact deciding.pure _
    | ok found =>
      refine deciding.bind (deciding.share found) fun permissions => ?_
      refine deciding.get (fun _ _ => rfl) (fun _ _ _ => rfl) fun last => ?_
      split
      · exact deciding.bind (deciding.remember some permissions) fun _ => deciding.pure _
      · exact deciding.pure _

theorem entitledPermissions (deciding : Deciding reads handle holds) (entitlement : Entitlement) :
    holds (entitledPermissions reads handle entitlement) := by
  unfold RepositoryAccess.entitledPermissions
  split
  · refine deciding.bind (deciding.explicitPermissions entitlement) fun result => ?_
    cases result with
    | error fault => exact deciding.pure _
    | ok found => exact deciding.bind (deciding.share found) fun _ => deciding.pure _
  · cases nobody : entitlement.roles.isEmpty with
    | true => exact deciding.bind (deciding.share _) fun _ => deciding.pure _
    | false => exact deciding.rolePermissions nobody

theorem permitted (deciding : Deciding reads handle holds) (asked : Permission)
    (entitlement : Entitlement) : holds (permitted reads handle asked entitlement) := by
  refine deciding.bind (deciding.entitledPermissions entitlement) fun result => ?_
  cases result <;> exact deciding.pure _

end Deciding

namespace Discipline

theorem granted (discipline : Discipline holds) (follow : reads.Follow holds) (epoch : Nat)
    (id : String) : holds (granted reads epoch id) := by
  refine discipline.bind (discipline.use fun _ => .knownPrivilege id) fun known => ?_
  cases known with
  | some permission => exact discipline.pure _
  | none =>
    refine discipline.bind (follow.privilege id) fun result => ?_
    cases result with
    | error fault => exact discipline.pure _
    | ok privilege =>
      exact discipline.bind (discipline.use fun _ => .grant epoch id privilege) fun _ =>
        discipline.pure _

theorem visit (discipline : Discipline holds) (follow : reads.Follow holds) (epoch : Nat)
    (id : String) : holds (visit reads epoch id) := by
  refine discipline.bind (discipline.use fun _ => .knownMissing id) fun known => ?_
  cases known with
  | true => exact discipline.pure _
  | false =>
    refine discipline.bind (follow.role id) fun result => ?_
    cases result with
    | error fault =>
      show holds (if fault.isNotFound = true then _ else _)
      split
      · exact discipline.bind (discipline.alter fun _ => .rememberMissing epoch id) fun _ =>
          discipline.pure _
      · exact discipline.pure _
    | ok role =>
      refine discipline.bind (discipline.use fun _ => .knownRole id) fun known => ?_
      cases known <;> exact discipline.pure _

theorem resolve (discipline : Discipline holds) (follow : reads.Follow holds) (id : String) :
    holds (resolve reads id) := by
  refine discipline.bind (discipline.use fun _ => .knownRole id) fun known => ?_
  cases known with
  | some permissions => exact discipline.pure _
  | none =>
    refine discipline.get (fun _ _ => rfl) (fun _ _ _ => rfl) fun service => ?_
    have collected : holds (collect reads service.resolver.epoch id) :=
      discipline.collect (discipline.visit follow _) (discipline.granted follow _) id
    refine discipline.bind (discipline.lockedRun (discipline.note .opened) collected) fun result => ?_
    cases result with
    | error fault => exact discipline.pure _
    | ok found =>
      refine discipline.bind (discipline.share found) fun permissions => ?_
      refine discipline.bind (discipline.alter fun _ => .rememberRole _ id permissions) fun _ => ?_
      exact discipline.bind (discipline.alter fun _ => .settle id) fun _ => discipline.pure _

theorem deciding (discipline : Discipline holds) (follow : reads.Follow holds)
    (realm : ∀ f, Realm.Keeps f → holds (modify (·.modifyRealm handle f))) :
    Deciding reads handle holds where
  toSequencing := discipline.toSequencing
  resolve := discipline.resolve follow
  create text := discipline.use fun _ => .create text
  share := discipline.share
  find _ :=
    discipline.get (fun _ _ => rfl) (fun _ _ _ => rfl) fun _ =>
      discipline.bind (realm _ (meetEpoch_keeps _)) fun _ =>
        discipline.get (fun _ _ => rfl) (fun _ _ _ => rfl) fun _ =>
          discipline.bind (realm _ fun _ => rfl) fun _ => discipline.pure _
  remember _ _ := realm _ fun _ => rfl

theorem mergeRoles (discipline : Discipline holds) (follow : reads.Follow holds) (roles : List String) :
    ∀ found, holds (mergeRoles reads roles found) :=
  discipline.toSequencing.mergeRoles (discipline.resolve follow) roles

theorem permitted (discipline : Discipline holds) (follow : reads.Follow holds)
    (realm : ∀ f, Realm.Keeps f → holds (modify (·.modifyRealm handle f))) (asked : Permission)
    (entitlement : Entitlement) : holds (permitted reads handle asked entitlement) :=
  (discipline.deciding follow realm).permitted asked entitlement

end Discipline
end RepositoryAccess
