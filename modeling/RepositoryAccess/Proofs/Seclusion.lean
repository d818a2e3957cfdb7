import RepositoryAccess.Proofs.Course
import RepositoryAccess.Proofs.Discipline

namespace RepositoryAccess
open RepositoryAccess.Text RepositoryAccess.Directory

namespace Service

-- What is left as it was, the role sets of the realms in `own` excepted.
structure Routine (own : String → Prop) (before after : Service) : Prop where
  interruptions : after.interruptions = before.interruptions
  managers : after.managers = before.managers
  active : after.active = before.active
  epoch : after.resolver.epoch = before.resolver.epoch
  handles : after.realms.map (·.handle) = before.realms.map (·.handle)
  realm : ∀ handle, after.realm handle = { before.realm handle with
    roleSets := (after.realm handle).roleSets, seenEpoch := (after.realm handle).seenEpoch }
  others : ∀ handle, ¬ own handle → after.realm handle = before.realm handle

variable {own : String → Prop} {service before middle after : Service} {handle : String}

theorem Routine.refl (service : Service) : Routine own service service :=
  ⟨rfl, rfl, rfl, rfl, rfl, fun _ => rfl, fun _ _ => rfl⟩

theorem Routine.trans (early : Routine own before middle) (late : Routine own middle after) :
    Routine own before after where
  interruptions := late.interruptions.trans early.interruptions
  managers := late.managers.trans early.managers
  active := late.active.trans early.active
  epoch := late.epoch.trans early.epoch
  handles := late.handles.trans early.handles
  realm handle := by rw [late.realm handle, early.realm handle]
  others handle foreign := (late.others handle foreign).trans (early.others handle foreign)

def Known (service : Service) (handle : String) : Prop := handle ∈ service.realms.map (·.handle)

instance (service : Service) (handle : String) : Decidable (service.Known handle) :=
  inferInstanceAs (Decidable (_ ∈ _))

theorem Routine.known (routine : Routine own before after) :
    after.Known handle ↔ before.Known handle := by
  unfold Known
  rw [routine.handles]

theorem realm_modifyRealm {f : Realm → Realm} (keeps : Realm.Keeps f) (service : Service)
    (handle other : String) : (service.modifyRealm handle f).realm other =
      if other = handle ∧ service.Known handle then f (service.realm other)
      else service.realm other := by
  have kept : ∀ realm : Realm, (if realm.handle = handle then f realm else realm).handle =
      realm.handle := by
    intro realm
    split
    · rw [keeps]
    · rfl
  unfold Service.realm modifyRealm
  simp only [List.find?_map, Function.comp_def, kept]
  cases found : service.realms.find? (·.handle = other) with
  | none =>
    have absent : ¬ service.Known other := by simpa [Known] using found
    rw [if_neg fun ⟨same, known⟩ => absent (same ▸ known)]
    rfl
  | some realm =>
    have named : realm.handle = other := by simpa using List.find?_some found
    have known : service.Known other :=
      List.mem_map.mpr ⟨realm, List.mem_of_find?_eq_some found, named⟩
    simp only [Option.map_some, Option.getD_some, named]
    by_cases same : other = handle
    · rw [if_pos same, if_pos ⟨same, same ▸ known⟩]
    · rw [if_neg same, if_neg fun own => same own.1]

theorem modifyRealm_routine {f : Realm → Realm} (keeps : Realm.Keeps f) (service : Service)
    (handle : String) : Routine (· = handle) service (service.modifyRealm handle f) where
  interruptions := rfl
  managers := rfl
  active := rfl
  epoch := rfl
  handles := by
    unfold modifyRealm
    rw [List.map_map]
    refine List.map_congr_left fun realm _ => ?_
    show (if realm.handle = handle then f realm else realm).handle = realm.handle
    split
    · rw [keeps]
    · rfl
  realm other := by
    rw [realm_modifyRealm keeps]
    split
    · exact keeps _
    · rfl
  others other foreign := by
    rw [realm_modifyRealm keeps, if_neg fun ⟨same, _⟩ => foreign same]

end Service

open Service

namespace Act

variable {α β : Type} {own : String → Prop} {course : Act α}

-- Without interruptions the course is routine, and what stands aside has no part in it.
def Secluded (own : String → Prop) (course : Act α) : Prop :=
  ∀ service : Service, service.interruptions = [] →
    Routine own service (course.run service).2 ∧
      ∀ aside, course.run (service.beside aside) =
        ((course.run service).1, (course.run service).2.beside aside)

theorem secluded_bind {next : α → Act β} (first : course.Secluded own)
    (continued : ∀ result, (next result).Secluded own) : (course >>= next).Secluded own := by
  intro service quiet
  obtain ⟨early, blind⟩ := first service quiet
  obtain ⟨late, blindNext⟩ := continued _ _ (early.interruptions.trans quiet)
  refine ⟨?_, fun aside => ?_⟩
  · rw [run_bind]
    exact early.trans late
  · rw [run_bind, run_bind, blind, blindNext]

theorem secluded_get {next : Service → Act β}
    (blind : ∀ service aside, next (service.beside aside) = next service)
    (continued : ∀ service, (next service).Secluded own) : (get >>= next : Act β).Secluded own := by
  intro service quiet
  obtain ⟨routine, same⟩ := continued service service quiet
  refine ⟨routine, fun aside => ?_⟩
  show (next (service.beside aside)).run (service.beside aside) = _
  rw [blind]
  exact same aside

theorem secluded_modifyGet {change : Service → α × Service}
    (routine : ∀ service, Routine own service (change service).2)
    (blind : ∀ service aside, change (service.beside aside) =
      ((change service).1, (change service).2.beside aside)) :
    (modifyGet change : Act α).Secluded own :=
  fun service _ => ⟨routine service, blind service⟩

theorem secluded_discipline : Discipline (Secluded own) where
  pure _ service _ := ⟨.refl service, fun _ => rfl⟩
  bind := secluded_bind
  get blind _ := secluded_get blind
  use use := secluded_modifyGet
    (fun service => { Routine.refl service with epoch := (use _).standing.1 }) fun _ _ => rfl
  alter use := secluded_modifyGet
    (fun service => { Routine.refl service with epoch := (use _).standing.1 }) fun _ _ => rfl
  note _ := secluded_modifyGet (fun service => { Routine.refl service with }) fun _ _ => rfl
  share _ := secluded_modifyGet (fun service => { Routine.refl service with }) fun _ _ => rfl

end Act

open Act

variable {own : String → Prop} (perform : Step → Act Answer)

theorem interruption_quiet {service : Service} (quiet : service.interruptions = []) (kind : ReadKind)
    (id : String) : service.interruption kind id = ([], service) := by
  unfold Service.interruption
  rw [quiet]
  rfl

theorem interrupted_quiet {service : Service} (quiet : service.interruptions = []) (kind : ReadKind)
    (id : String) : (interrupted perform kind id).run service = ((), service) := by
  show (performAside perform (service.interruption kind id).1).run (service.interruption kind id).2 = _
  rw [interruption_quiet quiet]
  rfl

theorem interrupted_secluded (kind : ReadKind) (id : String) :
    (interrupted perform kind id).Secluded own := by
  intro service quiet
  have quietBeside (aside : Aside) : (service.beside aside).interruptions = [] := quiet
  refine ⟨?_, fun aside => ?_⟩
  · rw [interrupted_quiet perform quiet]
    exact .refl service
  · rw [interrupted_quiet perform quiet, interrupted_quiet perform (quietBeside aside)]

theorem interruptedReads_secluded : (interruptedReads perform).Follow (Secluded own) := by
  have noted (use : StoreUse) : Secluded own (modify fun service =>
      { service with store := service.store.note use }) := secluded_discipline.note use
  refine ⟨fun id => ?_, fun id => ?_⟩
  · exact secluded_get (fun _ _ => rfl) fun _ => secluded_bind (noted _) fun _ =>
      secluded_bind (interrupted_secluded perform .role id) fun _ => secluded_discipline.pure _
  · exact secluded_get (fun _ _ => rfl) fun _ => secluded_bind (noted _) fun _ =>
      secluded_bind (interrupted_secluded perform .privilege id) fun _ => secluded_discipline.pure _

theorem mergeRoles_secluded (roles : List String) (found : Holdings) :
    (mergeRoles (interruptedReads perform) roles found).Secluded fun _ => False :=
  secluded_discipline.mergeRoles (interruptedReads_secluded perform) roles found

theorem realm_secluded (handle : String) (f : Realm → Realm) (keeps : Realm.Keeps f) :
    (modify (·.modifyRealm handle f) : Act PUnit).Secluded (· = handle) :=
  secluded_modifyGet (fun service => modifyRealm_routine keeps service handle) fun _ _ => rfl

end RepositoryAccess
