import RepositoryAccess.Proofs.Decision
import RepositoryAccess.Proofs.Seclusion

namespace RepositoryAccess
open RepositoryAccess.Text RepositoryAccess.Directory
open Service Act

namespace Service

-- What the roles come to is at hand in the realm, and not out of date as far as the realm knows.
def Recalls (service : Service) (handle : String) (roles : NameSet) (permissions : Holdings) : Prop :=
  if roles.isEmpty then permissions = .empty
  else (service.realm handle).seenEpoch = service.resolver.epoch ∧
    ∃ held, (service.realm handle).roleSets.lookup roles = some held ∧ held.value = permissions

variable {own : String → Prop} {service before after : Service} {handle : String} {roles : NameSet}
  {permissions : Holdings} {principals : Option Principals}

theorem Recalls.routine (recalls : before.Recalls handle roles permissions)
    (routine : Routine own before after) (foreign : ¬ own handle) :
    after.Recalls handle roles permissions := by
  unfold Recalls
  rw [routine.epoch, routine.others handle foreign]
  exact recalls

theorem Routine.found (routine : Routine own before after) (handle : String)
    (principals : Option Principals) :
    after.found handle principals = before.found handle principals := by
  unfold Service.found managerOf managersOf
  have manager? : after.manager? = before.manager? := by
    funext name
    unfold Service.manager?
    rw [routine.managers]
  rw [routine.realm handle, routine.active, manager?]
  rfl

end Service

variable (perform : Step → Act Answer) {service after : Service} {handle : String} {roles : NameSet}
  {permissions : Holdings} {held : Numbered Holdings} {text : String} {asked : Permission}
  {decision : Bool}

def lookedUp (service : Service) (handle : String) (roles : NameSet) :
    Option (Numbered Holdings) × Service :=
  let caught := service.modifyRealm handle (·.meetEpoch service.resolver.epoch)
  let (known, roleSets) := (caught.realm handle).roleSets.get roles
  (known, caught.modifyRealm handle fun realm => { realm with roleSets })

theorem caught_realm (known : service.Known handle) :
    (service.modifyRealm handle (·.meetEpoch service.resolver.epoch)).realm handle =
      (service.realm handle).meetEpoch service.resolver.epoch := by
  rw [realm_modifyRealm (meetEpoch_keeps _), if_pos ⟨rfl, known⟩]

theorem lookedUp_found (known : service.Known handle) (roles : NameSet) :
    (lookedUp service handle roles).1 =
      ((service.realm handle).meetEpoch service.resolver.epoch).roleSets.lookup roles := by
  rw [← caught_realm known, ← Cache.Guarded.get_lookup]
  rfl

theorem lookedUp_routine (service : Service) (handle : String) (roles : NameSet) :
    Routine (· = handle) service (lookedUp service handle roles).2 :=
  (modifyRealm_routine (meetEpoch_keeps _) service handle).trans
    (modifyRealm_routine (fun _ => rfl) _ handle)

theorem lookedUp_realm (known : service.Known handle) (roles : NameSet) :
    ((lookedUp service handle roles).2.realm handle).seenEpoch = service.resolver.epoch ∧
      ((lookedUp service handle roles).2.realm handle).roleSets.lookup roles =
        (lookedUp service handle roles).1 := by
  have caughtKnown :=
    (modifyRealm_routine (meetEpoch_keeps service.resolver.epoch) service handle).known.mpr known
  have realm : (lookedUp service handle roles).2.realm handle = _ :=
    (realm_modifyRealm (fun _ => rfl) _ handle handle).trans (if_pos ⟨rfl, caughtKnown⟩)
  rw [lookedUp_found known, realm, caught_realm known]
  exact ⟨meetEpoch_seen _ _, Cache.Guarded.get_keeps _ roles roles⟩

theorem rolePermissions_run (reads : Reads) (service : Service) (handle : String) (roles : NameSet) :
    (rolePermissions reads handle roles).run service =
      (match (lookedUp service handle roles).1 with
      | some permissions => return .ok permissions
      | none => do
        match ← mergeRoles reads roles.names .empty with
        | .error fault => return .error fault
        | .ok found =>
          let permissions ← shareSet found
          if (← get).resolver.epoch = service.resolver.epoch then
            modify (·.modifyRealm handle (·.remember roles permissions))
          return .ok permissions : Act _).run (lookedUp service handle roles).2 := rfl

theorem rolePermissions_stored (reads : Reads) (known : service.Known handle)
    (seen : (service.realm handle).seenEpoch = service.resolver.epoch)
    (stored : (service.realm handle).roleSets.lookup roles = some held) :
    (rolePermissions reads handle roles).run service =
      (.ok held, (lookedUp service handle roles).2) := by
  have caughtUp : (service.realm handle).meetEpoch service.resolver.epoch = service.realm handle :=
    if_neg (fun other => other seen)
  have found : (lookedUp service handle roles).1 = some held := by
    rw [lookedUp_found known, caughtUp, stored]
  rw [rolePermissions_run, found]
  rfl

theorem remembered_realm (known : service.Known handle) (roles : NameSet)
    (held : Numbered Holdings) :
    let after := service.modifyRealm handle (·.remember roles held)
    (after.realm handle).seenEpoch = (service.realm handle).seenEpoch ∧
      (after.realm handle).roleSets.lookup roles = some held := by
  intro after
  have realm : after.realm handle = (service.realm handle).remember roles held :=
    (realm_modifyRealm (fun _ => rfl) service handle handle).trans (if_pos ⟨rfl, known⟩)
  rw [realm]
  exact ⟨rfl, Cache.Guarded.lookup_insertWeighted _ _ _ _⟩

-- What a realm gives out it finds stored afterwards, for nothing was invalidated in between.
theorem rolePermissions_stores (quiet : service.interruptions = []) (known : service.Known handle)
    (ran : (rolePermissions (interruptedReads perform) handle roles).run service = (.ok held, after)) :
    (after.realm handle).seenEpoch = after.resolver.epoch ∧
      (after.realm handle).roleSets.lookup roles = some held := by
  obtain ⟨seen, stored⟩ := lookedUp_realm known roles
  have routine := lookedUp_routine service handle roles
  rw [rolePermissions_run] at ran
  generalize lookedUp service handle roles = looked at *
  obtain ⟨found, looked⟩ := looked
  cases found with
  | some permissions =>
    obtain ⟨same, rfl⟩ := Prod.mk.inj ran
    cases same
    exact ⟨seen.trans routine.epoch.symm, stored⟩
  | none =>
    have merging := (mergeRoles_secluded perform roles.names .empty looked
      (routine.interruptions.trans quiet)).1
    dsimp only at ran
    rw [run_bind] at ran
    cases merged : (mergeRoles (interruptedReads perform) roles.names .empty).run looked with
    | mk result last =>
      rw [merged] at ran merging
      cases result with
      | error fault => cases ran
      | ok found =>
        have epoch : last.resolver.epoch = service.resolver.epoch :=
          merging.epoch.trans routine.epoch
        have lastKnown : last.Known handle := merging.known.mpr (routine.known.mpr known)
        have untouched : last.realm handle = looked.realm handle := merging.others handle not_false
        rw [run_bind, run_bind] at ran
        change (if last.resolver.epoch = service.resolver.epoch then _ else _ : Act _).run _ = _ at ran
        rw [if_pos epoch] at ran
        obtain ⟨same, rfl⟩ := Prod.mk.inj ran
        cases same
        obtain ⟨kept, remembered⟩ := remembered_realm lastKnown roles ((shareSet found).run last).1
        refine ⟨kept.trans ?_, remembered⟩
        rw [untouched, seen]
        exact epoch.symm

theorem entitledPermissions_ofRoles (reads : Reads) (handle : String) (roles : NameSet) :
    entitledPermissions reads handle (.ofRoles roles) =
      if roles.isEmpty then do return .ok (← shareSet .empty)
      else rolePermissions reads handle roles := rfl

theorem permitted_recalls (quiet : service.interruptions = []) (known : service.Known handle)
    (ran : (permitted (interruptedReads perform) handle asked (.ofRoles roles)).run service =
      (.ok decision, after)) :
    ∃ permissions, decision = permissions.permits asked ∧ after.Recalls handle roles permissions := by
  unfold permitted at ran
  rw [entitledPermissions_ofRoles] at ran
  unfold Service.Recalls
  by_cases nobody : roles.isEmpty = true
  · rw [if_pos nobody] at ran
    obtain ⟨same, rfl⟩ := Prod.mk.inj ran
    cases same
    exact ⟨.empty, rfl, by rw [if_pos nobody]⟩
  · rw [if_neg nobody, run_bind] at ran
    cases entitled : (rolePermissions (interruptedReads perform) handle roles).run service with
    | mk result last =>
      rw [entitled] at ran
      cases result with
      | error fault => cases ran
      | ok held =>
        obtain ⟨same, rfl⟩ := Prod.mk.inj ran
        cases same
        obtain ⟨seen, stored⟩ := rolePermissions_stores perform quiet known entitled
        exact ⟨held.value, rfl, by rw [if_neg nobody]; exact ⟨seen, held, stored, rfl⟩⟩

theorem Service.Recalls.permitted (recalls : service.Recalls handle roles permissions)
    (quiet : service.interruptions = []) (known : service.Known handle) (asked : Permission) :
    ∃ after, (permitted (interruptedReads perform) handle asked (.ofRoles roles)).run service =
      (.ok (permissions.permits asked), after) ∧ after.Recalls handle roles permissions := by
  unfold Service.Recalls at *
  unfold RepositoryAccess.permitted
  rw [entitledPermissions_ofRoles]
  by_cases nobody : roles.isEmpty = true
  · rw [if_pos nobody] at recalls ⊢
    rw [recalls]
    exact ⟨_, rfl, by rw [if_pos nobody]⟩
  · rw [if_neg nobody] at recalls ⊢
    obtain ⟨seen, held, stored, rfl⟩ := recalls
    have entitled := rolePermissions_stored (interruptedReads perform) known seen stored
    have kept := rolePermissions_stores perform quiet known entitled
    rw [run_bind, entitled]
    exact ⟨_, rfl, by rw [if_neg nobody]; exact ⟨kept.1, held, kept.2, rfl⟩⟩

def judge (reads : Reads) (handle text : String) : Except Fault Entitlement → Act (Except Fault Bool)
  | .error fault => return .error fault
  | .ok entitlement => do
    match ← onResolver (·.create text) with
    | .error malformed => return .error malformed.fault
    | .ok asked =>
      match ← permitted reads handle asked entitlement with
      | .error fault => return .error fault.fault
      | .ok decision => return .ok decision

theorem Discipline.judge {holds : {α : Type} → Act α → Prop} {reads : Reads} (discipline : Discipline holds)
    (follow : reads.Follow holds) (realm : ∀ f, Realm.Keeps f → holds (modify (·.modifyRealm handle f)))
    (text : String) (found : Except Fault Entitlement) : holds (judge reads handle text found) := by
  cases found with
  | error fault => exact discipline.pure _
  | ok entitlement =>
    refine discipline.bind (discipline.use fun _ => .create text) fun made => ?_
    cases made with
    | error malformed => exact discipline.pure _
    | ok asked =>
      refine discipline.bind (discipline.permitted follow realm asked entitlement) fun result => ?_
      cases result <;> exact discipline.pure _

theorem judge_secluded (handle text : String) (found : Except Fault Entitlement) :
    (judge (interruptedReads perform) handle text found).Secluded (· = handle) :=
  secluded_discipline.judge (interruptedReads_secluded perform) (realm_secluded handle) text found

theorem judge_run (reads : Reads) (sound : service.Sound) (handle text : String)
    (entitlement : Entitlement) : ∃ next, Routine (fun _ => False) service next ∧
      (judge reads handle text (.ok entitlement)).run service =
        (match Permission.parse text with
        | .error malformed => return .error malformed.fault
        | .ok asked => do
          match ← permitted reads handle asked entitlement with
          | .error fault => return .error fault.fault
          | .ok decision => return .ok decision : Act _).run next := by
  rw [← Resolver.create_parses sound.minted text]
  exact ⟨{ service with resolver := (service.resolver.create text).2 },
    { Routine.refl service with }, rfl⟩

theorem judge_recalls (sound : service.Sound) (quiet : service.interruptions = [])
    (known : service.Known handle)
    (judged : (judge (interruptedReads perform) handle text (.ok (.ofRoles roles))).run service =
      (.ok decision, after)) :
    ∃ permissions asked, Permission.parse text = .ok asked ∧
      decision = permissions.permits asked ∧ after.Recalls handle roles permissions := by
  obtain ⟨next, routine, run⟩ := judge_run (interruptedReads perform) sound handle text (.ofRoles roles)
  rw [run] at judged
  cases parsed : Permission.parse text with
  | error malformed => rw [parsed] at judged; cases judged
  | ok asked =>
    rw [parsed, run_bind] at judged
    cases ran : (permitted (interruptedReads perform) handle asked (.ofRoles roles)).run next with
    | mk result last =>
      rw [ran] at judged
      cases result with
      | error fault => cases judged
      | ok granted =>
        obtain ⟨same, rfl⟩ := Prod.mk.inj judged
        cases same
        obtain ⟨permissions, decides, recalls⟩ := permitted_recalls perform
          (routine.interruptions.trans quiet) (routine.known.mpr known) ran
        exact ⟨permissions, asked, rfl, decides, recalls⟩

theorem Service.Recalls.judge (recalls : service.Recalls handle roles permissions)
    (sound : service.Sound) (quiet : service.interruptions = []) (known : service.Known handle)
    (text : String) :
    ∃ after, (judge (interruptedReads perform) handle text (.ok (.ofRoles roles))).run service =
      (match Permission.parse text with
      | .error malformed => .error malformed.fault
      | .ok asked => .ok (permissions.permits asked), after) ∧
        after.Recalls handle roles permissions := by
  obtain ⟨next, routine, run⟩ := judge_run (interruptedReads perform) sound handle text (.ofRoles roles)
  have recalled := recalls.routine routine not_false
  rw [run]
  cases parsed : Permission.parse text with
  | error malformed => exact ⟨_, rfl, recalled⟩
  | ok asked =>
    obtain ⟨after, ran, again⟩ := recalled.permitted perform (routine.interruptions.trans quiet)
      (routine.known.mpr known) asked
    refine ⟨after, ?_, again⟩
    dsimp only
    rw [run_bind, ran]
    rfl

end RepositoryAccess
