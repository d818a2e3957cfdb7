import RepositoryAccess.Proofs.RealmSets

namespace RepositoryAccess
open RepositoryAccess.Text RepositoryAccess.Directory
open Service Act Reads.Faithful

namespace Directory

-- Whether a section all of whose runs succeed is granted in the end.
def Lock.serves : Lock → Bool
  | .grant | .relay => true
  | .deny _ => false
  | .run succeeded _ => succeeded.serves

namespace Store

structure Readable (store : Store) : Prop where
  failures : store.failures = []
  lock : store.lock.serves = true

variable {store : Store}

instance : Decidable store.Readable :=
  decidable_of_iff (store.failures = [] ∧ store.lock.serves = true)
    ⟨fun ⟨failures, lock⟩ => ⟨failures, lock⟩, fun readable => ⟨readable.failures, readable.lock⟩⟩

-- How many roles can still become pending: those that are contained in roles not visited yet.
def linksBeyond (visited : List String) : List Role → Nat
  | [] => 0
  | role :: roles =>
    (if role.id ∈ visited then 0 else role.roles.size) + linksBeyond visited roles

theorem linksBeyond_nil (roles : List Role) :
    linksBeyond [] roles = roles.foldr (fun role rest => role.roles.size + rest) 0 := by
  induction roles with
  | nil => rfl
  | cons role roles ih => simp [linksBeyond, ih]

theorem linksBeyond_visit (id : String) (visited : List String) (roles : List Role) :
    linksBeyond (id :: visited) roles ≤ linksBeyond visited roles := by
  induction roles with
  | nil => exact Nat.le_refl _
  | cons role roles ih =>
    unfold linksBeyond
    by_cases seen : role.id ∈ visited
    · rw [if_pos seen, if_pos (List.mem_cons_of_mem _ seen)]
      omega
    · rw [if_neg seen]
      split <;> omega

-- A visit takes what the visited role contains from the count.
theorem linksBeyond_enter {id : String} {visited : List String} (unseen : id ∉ visited)
    {roles : List Role} {role : Role} (found : roles.find? (·.id = id) = some role) :
    linksBeyond (id :: visited) roles + role.roles.size ≤ linksBeyond visited roles := by
  induction roles with
  | nil => cases found
  | cons head roles ih =>
    unfold linksBeyond
    by_cases same : head.id = id
    · have first : head = role := by simpa [same] using found
      have others := linksBeyond_visit id visited roles
      rw [if_pos (by rw [same]; exact List.mem_cons_self), if_neg (by rw [same]; exact unseen), first]
      omega
    · have later := ih (by simpa [same] using found)
      by_cases seen : head.id ∈ visited
      · rw [if_pos seen, if_pos (List.mem_cons_of_mem _ seen)]
        omega
      · have still : head.id ∉ id :: visited := by
          rw [List.mem_cons, not_or]
          exact ⟨same, seen⟩
        rw [if_neg seen, if_neg still]
        omega

end Store
end Directory

namespace Service

structure Rests (origin service : Service) : Prop where
  sound : service.Sound
  calm : Undisturbed origin service
  readable : service.store.Readable

variable {origin service after : Service}

theorem Since.contents (since : Since origin service) (rests : Rests origin service) :
    service.store.SameContents origin.store := since.later.contents rests.calm.2

theorem Rests.sinceNow (rests : Rests origin after) (since : Since origin service)
    (now : Rests origin service) : Rests service after where
  sound := rests.sound
  calm := ⟨now.calm.steady since.later since.sound.emptied, rests.calm.2.trans now.calm.2.symm⟩
  readable := rests.readable

end Service

namespace Act

variable {α β : Type} {origin service : Service} {course : Act α}

def Serves (course : Act α) (origin service : Service) (good : α → Prop) : Prop :=
  course.Under (Rests origin) service fun result _ => good result

theorem serves_pure {result : α} {good : α → Prop} (holds : good result) :
    (pure result : Act α).Serves origin service good := under_pure holds

theorem serves_any (course : Act α) : course.Serves origin service fun _ => True :=
  fun _ => trivial

theorem serves_bind {next : α → Act β} {told good : α → Prop} {best : β → Prop}
    (since : Since origin service) (rests : Rests origin service)
    (answered : course.Answers origin service told) (served : course.Serves origin service good)
    (continued : ∀ result after, Since origin after → Rests origin after → told result →
      good result → (next result).Serves origin after best) :
    (course >>= next).Serves origin service best := by
  refine under_bind rests (Under.and (Keeps.under answered) served) ?_
  rintro result after rests ⟨⟨later, told⟩, good⟩
  exact continued result after (since.next later rests.sound) rests (told rests.calm) good

theorem serves_get {next : Service → Act β} {best : β → Prop}
    (continued : (next service).Serves origin service best) :
    (get >>= next : Act β).Serves origin service best := continued

theorem serves_modify_bind {change : Service → Service} {next : PUnit → Act β} {best : β → Prop}
    (since : Since origin service) (later : Later service (change service))
    (continued : Since origin (change service) → Rests origin (change service) →
      (next ⟨⟩).Serves origin (change service) best) :
    (modify change >>= next : Act β).Serves origin service best := by
  intro rested
  have rests : Rests origin (change service) := rested _ List.mem_cons_self
  exact continued (since.next later rests.sound) rests
    fun moment passed => rested moment (List.mem_cons_of_mem _ passed)

theorem Serves.sinceOrigin {good : α → Prop} (since : Since origin service)
    (rests : Rests origin service) (served : course.Serves service service good) :
    course.Serves origin service good :=
  fun rested => served fun moment passed => (rested moment passed).sinceNow since rests

end Act

def Succeeded {ε α : Type} (result : Except ε α) : Prop := ∃ value, result = .ok value

variable {reads : Reads} {origin service : Service}

def OnlyMissing {α : Type} (result : Except StoreFault α) : Prop :=
  ∀ fault, result = .error fault → fault.isNotFound = true

theorem role_serves (faithful : reads.Faithful) (rests : Rests origin service) (id : String) :
    (reads.role id).Serves origin service OnlyMissing := by
  intro _ fault failed
  rw [(faithful.role service id rests.sound).2.2] at failed
  exact (Store.readRole_absent rests.readable.failures failed).2

theorem privilege_serves (faithful : reads.Faithful) (rests : Rests origin service) (id : String) :
    (reads.privilege id).Serves origin service OnlyMissing := by
  intro _ fault failed
  rw [(faithful.privilege service id rests.sound).2.2] at failed
  exact (Store.readPrivilege_absent rests.readable.failures failed).2

theorem granted_serves (faithful : reads.Faithful) (since : Since origin service)
    (rests : Rests origin service) (id : String) :
    (granted reads origin.resolver.epoch id).Serves origin service Succeeded := by
  unfold granted
  refine serves_bind since rests (knownPrivilege_answers since id) (serves_any _) ?_
  intro known after since rests _ _
  cases known with
  | some permission => exact serves_pure ⟨_, rfl⟩
  | none =>
    refine serves_bind since rests (faithful.privilege_answers since id)
      (privilege_serves faithful rests id) ?_
    intro result after since rests told missing
    cases result with
    | ok privilege =>
      refine serves_bind since rests (grant_answers since fun _ => told) (serves_any _) ?_
      exact fun permission _ _ _ _ _ => serves_pure ⟨permission, rfl⟩
    | error fault =>
      refine serves_pure ?_
      rw [if_pos (missing fault rfl)]
      exact ⟨none, rfl⟩

def Collected.Complete (collected : Collected) : Prop := collected.2 = none

theorem collectGranted_serves (faithful : reads.Faithful) (ids : List String) :
    ∀ {service : Service} {found : Holdings}, Since origin service → Rests origin service →
      (collectGranted reads origin.resolver.epoch ids found).Serves origin service
        Collected.Complete := by
  induction ids with
  | nil => intro service found _ _; exact serves_pure rfl
  | cons id ids ih =>
    intro service found since rests
    refine serves_bind since rests (granted_answers faithful since id)
      (granted_serves faithful since rests id) ?_
    rintro result after since rests _ ⟨grant, rfl⟩
    cases grant with
    | none => exact ih since rests
    | some permission => exact ih since rests

theorem visit_serves (faithful : reads.Faithful) (since : Since origin service)
    (rests : Rests origin service) (id : String) :
    (visit reads origin.resolver.epoch id).Serves origin service
      fun result => ∀ fault, result ≠ .failed fault := by
  unfold visit
  refine serves_bind since rests (knownMissing_answers since id) (serves_any _) ?_
  intro known after since rests _ _
  cases known with
  | true => exact serves_pure fun _ failed => by cases failed
  | false =>
    refine serves_bind since rests (faithful.role_answers since id) (role_serves faithful rests id) ?_
    intro result read since rests told missing
    cases result with
    | error fault =>
      show Serves (if fault.isNotFound = true then _ else _) origin read _
      rw [if_pos (missing fault rfl)]
      refine serves_bind since rests
        (rememberMissing_answers since fun _ => told (missing fault rfl)) (serves_any _) ?_
      exact fun _ _ _ _ _ _ => serves_pure fun _ failed => by cases failed
    | ok role =>
      refine serves_bind since rests (knownRole_answers since id) (serves_any _) ?_
      intro known _ _ _ _ _
      cases known with
      | some permissions => exact serves_pure fun _ failed => by cases failed
      | none => exact serves_pure fun _ failed => by cases failed

-- Every role that is pending or may become so has its share of the budget.
def Walk.Afforded (walk : Walk) (store : Store) (budget : Nat) : Prop :=
  walk.pending.length + Store.linksBeyond walk.visited store.roles < budget

namespace Walk

variable {walk : Walk} {id : String} {pending : List String} {store : Store} {budget : Nat}

theorem Afforded.again (afforded : walk.Afforded store (budget + 1))
    (first : walk.pending = id :: pending) : { walk with pending }.Afforded store budget := by
  unfold Afforded at *
  rw [first, List.length_cons] at afforded
  show pending.length + Store.linksBeyond walk.visited store.roles < budget
  omega

theorem Afforded.passed (afforded : walk.Afforded store (budget + 1))
    (first : walk.pending = id :: pending) (found : Holdings) :
    { walk with pending, visited := id :: walk.visited, found }.Afforded store budget := by
  have fewer := Store.linksBeyond_visit id walk.visited store.roles
  unfold Afforded at *
  rw [first, List.length_cons] at afforded
  show pending.length + Store.linksBeyond (id :: walk.visited) store.roles < budget
  omega

theorem Afforded.entered (afforded : walk.Afforded store (budget + 1))
    (first : walk.pending = id :: pending) (unseen : id ∉ walk.visited) {role : Role}
    (isRole : store.role? id = some role) (found : Holdings) :
    let entered := { walk with pending, visited := id :: walk.visited }
    { entered with pending := entered.enter role, found }.Afforded store budget := by
  intro entered
  have fewer := Store.linksBeyond_enter unseen isRole
  have added : (entered.enter role).length ≤ pending.length + role.roles.size := by
    unfold enter
    rw [List.length_append]
    exact Nat.add_le_add_left (List.length_filter_le _ _) _
  unfold Afforded at *
  rw [first, List.length_cons] at afforded
  show (entered.enter role).length + Store.linksBeyond (id :: walk.visited) store.roles < budget
  omega

end Walk

theorem walkOn_serves (faithful : reads.Faithful) (budget : Nat) :
    ∀ {service : Service} {walk : Walk}, Since origin service → Rests origin service →
      walk.Afforded origin.store budget →
      (walkOn reads origin.resolver.epoch budget walk).Serves origin service Collected.Complete := by
  induction budget with
  | zero => intro service walk _ _ afforded; exact absurd afforded (Nat.not_lt_zero _)
  | succ budget ih =>
    intro service walk since rests afforded
    cases first : walk.pending with
    | nil =>
      simp only [walkOn, first]
      exact serves_pure rfl
    | cons id pending =>
      simp only [walkOn, first]
      split
      · exact ih since rests (afforded.again first)
      · rename_i unseen
        refine serves_bind since rests (visit_answers faithful since id)
          (visit_serves faithful since rests id) ?_
        intro result after since rests told reached
        cases result with
        | missing => exact ih since rests (afforded.passed first walk.found)
        | known permissions => exact ih since rests (afforded.passed first _)
        | failed fault => exact absurd rfl (reached fault)
        | entered role =>
          have held : Undisturbed origin after →
              walk.found.Exactly (· ∈ walk.found.members) :=
            fun _ => ⟨fun _ h => h, fun _ => Holdings.contains_of_mem⟩
          refine serves_bind since rests
            (collectGranted_answers faithful role.privileges.names since held)
            (collectGranted_serves faithful role.privileges.names since rests) ?_
          rintro ⟨found, fault⟩ last since rests _ complete
          cases fault with
          | some fault => cases complete
          | none => exact ih since rests (afforded.entered first unseen told found)

theorem collect_serves (faithful : reads.Faithful) (since : Since origin service)
    (rests : Rests origin service) (id : String) :
    (collect reads origin.resolver.epoch id).Serves origin service Collected.Complete := by
  refine serves_get (walkOn_serves faithful _ since rests ?_)
  have links : service.store.links = Store.linksBeyond [] origin.store.roles := by
    rw [Store.linksBeyond_nil, ← (since.contents rests).1]
    rfl
  show 1 + Store.linksBeyond [] origin.store.roles < service.budget
  unfold Service.budget
  omega

theorem underLock_serves {run : Act Collected} {id : String}
    (answers : ∀ {service : Service}, Since origin service →
      run.Answers origin service (Collected.Right origin id))
    (serves : ∀ {service : Service}, Since origin service → Rests origin service →
      run.Serves origin service Collected.Complete) (lock : Lock) :
    ∀ {service : Service} {last : Collected} {told : Option Bool}, Since origin service →
      Rests origin service → lock.serves = true → lock.HonestAfter told → (told ≠ none → last.Complete) →
      (underLock run lock last).Serves origin service Succeeded := by
  induction lock with
  | grant => intro service last _ _ _ _ _ _; exact serves_pure ⟨last.1, rfl⟩
  | deny fault => intro service last _ _ _ impossible _ _; cases impossible
  | relay =>
    intro service last told _ _ _ honest complete
    have ended : last.2 = none := complete honest
    simp only [underLock, ended]
    exact serves_pure ⟨last.1, rfl⟩
  | run succeeded failed good bad =>
    intro service last told since rests serving honest _
    refine serves_bind since rests (answers since) (serves since rests) ?_
    rintro ⟨found, fault⟩ after since rests _ complete
    cases fault with
    | none => exact good since rests serving honest.1 fun _ => complete
    | some fault => cases complete

theorem lockedRun_serves (faithful : reads.Faithful) (since : Since origin service) (id : String) :
    (lockedRun (collect reads origin.resolver.epoch id)).Serves origin service Succeeded := by
  refine serves_modify_bind since (note_fades service .opened).later fun since rests => ?_
  exact serves_get (underLock_serves (collect_answers faithful · id) (collect_serves faithful · · id) _
    since rests rests.readable.lock since.sound.tame.lock fun told => absurd rfl told)

theorem resolve_serves (faithful : reads.Faithful) (since : Since origin service)
    (rests : Rests origin service) (id : String) :
    (resolve reads id).Serves origin service Succeeded := by
  unfold resolve
  refine serves_bind since rests (knownRole_answers since id) (serves_any _) ?_
  intro known after since rests _ _
  cases known with
  | some permissions => exact serves_pure ⟨permissions, rfl⟩
  | none =>
    have start := Since.start since.sound
    have now := rests.sinceNow since rests
    refine serves_get (Serves.sinceOrigin since rests ?_)
    refine serves_bind start now (lockedRun_answers faithful start id)
      (lockedRun_serves faithful start id) ?_
    rintro result ran _ _ _ ⟨found, rfl⟩ _
    exact ⟨_, rfl⟩

theorem mergeRoles_serves (faithful : reads.Faithful) (roles : List String) :
    ∀ {service : Service} {found : Holdings}, Since origin service → Rests origin service →
      (mergeRoles reads roles found).Serves origin service Succeeded := by
  induction roles with
  | nil => intro service found _ _; exact serves_pure ⟨found, rfl⟩
  | cons role roles ih =>
    intro service found since rests
    refine serves_bind since rests (resolve_answers faithful since role)
      (resolve_serves faithful since rests role) ?_
    rintro result after since rests _ ⟨held, rfl⟩
    exact ih since rests

end RepositoryAccess
