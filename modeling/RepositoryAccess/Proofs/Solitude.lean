import RepositoryAccess.Proofs.Rounds

namespace RepositoryAccess
open RepositoryAccess.Directory

namespace Act

variable {α β : Type} {rely : Service → Prop} {service : Service} {course other : Act α}

-- The two courses come to the same, if every state that the first one passes through is one of `rely`.
def Alike (rely : Service → Prop) (course other : Act α) (service : Service) : Prop :=
  (∀ moment ∈ course.moments service, rely moment) → course.run service = other.run service

theorem alike_same : course.Alike rely course service := fun _ => rfl

theorem alike_bind {next next' : α → Act β} (first : rely service)
    (alike : course.Alike rely other service)
    (continued : ∀ result after, rely after → (next result).Alike rely (next' result) after) :
    (course >>= next).Alike rely (other >>= next') service := by
  intro relied
  rw [moments_bind] at relied
  have early : ∀ moment ∈ course.moments service, rely moment :=
    fun moment passed => relied moment (List.mem_append_left _ passed)
  rw [run_bind, run_bind, ← alike early]
  exact continued _ _ (holds_last first early)
    fun moment passed => relied moment (List.mem_append_right _ passed)

theorem alike_same_bind {next next' : α → Act β} (first : rely service)
    (continued : ∀ result after, rely after → (next result).Alike rely (next' result) after) :
    (course >>= next).Alike rely (course >>= next') service :=
  alike_bind first alike_same continued

end Act

open Act

def Reads.alone : Reads where
  role id := modifyGet fun service =>
    (service.store.readRole id, { service with store := service.store.note (.read .role id) })
  privilege id := modifyGet fun service =>
    (service.store.readPrivilege id, { service with store := service.store.note (.read .privilege id) })

def Service.Awaits (waiting : List Interruption) (service : Service) : Prop :=
  service.interruptions = waiting

variable {waiting : List Interruption} {service : Service} {perform : Step → Act Answer}

theorem interruption_unused {kind : ReadKind} {id : String}
    (unused : (service.interruption kind id).2.interruptions = service.interruptions) :
    service.interruption kind id = ([], service) := by
  unfold Service.interruption at unused ⊢
  cases found : service.interruptions.find? fun i => decide (i.kind = kind ∧ i.id = id) with
  | none => simp only [found]
  | some first =>
    simp only [found] at unused
    have waits := List.mem_of_find?_eq_some found
    have fewer := List.length_eraseP_of_mem waits (List.find?_some found)
    have some_wait := List.length_pos_of_mem waits
    rw [unused] at fewer
    omega

theorem interrupted_alike (awaits : service.Awaits waiting) (kind : ReadKind) (id : String) :
    (interrupted perform kind id).Alike (Service.Awaits waiting) (pure ⟨⟩) service := by
  intro relied
  have taken : (service.interruption kind id).2.Awaits waiting := relied _ List.mem_cons_self
  have nothing := interruption_unused (taken.trans awaits.symm)
  show (performAside perform (service.interruption kind id).1).run (service.interruption kind id).2 = _
  rw [nothing]
  rfl

-- What a read says is decided before anything could happen.
theorem decided_alike {α : Type} (awaits : service.Awaits waiting) (kind : ReadKind) (id : String)
    (result : α) : (interrupted perform kind id >>= fun _ => pure result).Alike
      (Service.Awaits waiting) (pure result) service :=
  alike_bind awaits (interrupted_alike awaits kind id) fun _ _ _ => alike_same

theorem role_alike (awaits : service.Awaits waiting) (id : String) :
    ((interruptedReads perform).role id).Alike (Service.Awaits waiting)
      (Reads.alone.role id) service := by
  intro relied
  have noted : Service.Awaits waiting { service with store := service.store.note (.read .role id) } :=
    awaits
  exact decided_alike noted .role id (service.store.readRole id)
    fun moment passed => relied moment (List.mem_cons_of_mem _ passed)

theorem privilege_alike (awaits : service.Awaits waiting) (id : String) :
    ((interruptedReads perform).privilege id).Alike (Service.Awaits waiting)
      (Reads.alone.privilege id) service := by
  intro relied
  have noted :
      Service.Awaits waiting { service with store := service.store.note (.read .privilege id) } :=
    awaits
  exact decided_alike noted .privilege id (service.store.readPrivilege id)
    fun moment passed => relied moment (List.mem_cons_of_mem _ passed)

theorem granted_alike (awaits : service.Awaits waiting) (epoch : Nat) (id : String) :
    (granted (interruptedReads perform) epoch id).Alike (Service.Awaits waiting)
      (granted .alone epoch id) service := by
  refine alike_same_bind awaits fun known after awaits => ?_
  cases known with
  | some permission => exact alike_same
  | none => exact alike_bind awaits (privilege_alike awaits id) fun _ _ _ => alike_same

theorem collectGranted_alike (epoch : Nat) (ids : List String) :
    ∀ {service : Service} {found : Holdings}, service.Awaits waiting →
      (collectGranted (interruptedReads perform) epoch ids found).Alike (Service.Awaits waiting)
        (collectGranted .alone epoch ids found) service := by
  induction ids with
  | nil => intro service found _; exact alike_same
  | cons id ids ih =>
    intro service found awaits
    refine alike_bind awaits (granted_alike awaits epoch id) fun result after awaits => ?_
    match result with
    | .error fault => exact alike_same
    | .ok none => exact ih awaits
    | .ok (some permission) => exact ih awaits

theorem visit_alike (awaits : service.Awaits waiting) (epoch : Nat) (id : String) :
    (visit (interruptedReads perform) epoch id).Alike (Service.Awaits waiting)
      (visit .alone epoch id) service := by
  refine alike_same_bind awaits fun missing after awaits => ?_
  cases missing with
  | true => exact alike_same
  | false => exact alike_bind awaits (role_alike awaits id) fun _ _ _ => alike_same

theorem turn_alike (awaits : service.Awaits waiting) (epoch : Nat) (walk : Walk) :
    (turn (interruptedReads perform) epoch walk).Alike (Service.Awaits waiting)
      (turn .alone epoch walk) service := by
  unfold turn
  cases walk.pending with
  | nil => exact alike_same
  | cons id pending =>
    dsimp only
    split
    · exact alike_same
    · refine alike_bind awaits (visit_alike awaits epoch id) fun seen after awaits => ?_
      cases seen with
      | missing => exact alike_same
      | known permissions => exact alike_same
      | failed fault => exact alike_same
      | entered role =>
        exact alike_bind awaits (collectGranted_alike epoch role.privileges.names awaits)
          fun _ _ _ => alike_same

theorem Search.alone {epoch : Nat} {round : Round} {rounds : List Round} {collected : Collected}
    {after : Service} (search : Search (interruptedReads perform) epoch round rounds collected after) :
    ∀ {budget : Nat}, rounds.length ≤ budget → round.service.Awaits waiting →
      (∀ moment ∈ (walkOn (interruptedReads perform) epoch budget round.walk).moments
        round.service, moment.Awaits waiting) →
      Search .alone epoch round rounds collected after := by
  induction search with
  | stop ran =>
    intro budget enough awaits quiet
    cases budget with
    | zero => exact absurd enough (Nat.not_succ_le_zero _)
    | succ budget =>
      rw [walkOn_succ, moments_bind] at quiet
      refine .stop ((turn_alike awaits epoch _ ?_).symm.trans ran)
      exact fun moment passed => quiet moment (List.mem_append_left _ passed)
  | on ran _ ih =>
    intro budget enough awaits quiet
    cases budget with
    | zero => exact absurd enough (Nat.not_succ_le_zero _)
    | succ budget =>
      rw [walkOn_succ, moments_bind] at quiet
      have during := fun moment passed => quiet moment (List.mem_append_left _ passed)
      have ended := holds_last awaits during
      rw [ran] at quiet ended
      refine .on ((turn_alike awaits epoch _ during).symm.trans ran) ?_
      exact ih (Nat.le_of_succ_le_succ enough) ended
        fun moment passed => quiet moment (List.mem_append_right _ passed)

end RepositoryAccess
