import RepositoryAccess.Proofs.Success

namespace RepositoryAccess
open RepositoryAccess.Text RepositoryAccess.Directory
open Act

inductive Turn
  | stop (collected : Collected)
  | on (walk : Walk)

def turn (reads : Reads) (epoch : Nat) (walk : Walk) : Act Turn :=
  match walk.pending with
  | [] => return .stop (walk.found, none)
  | id :: pending =>
    if id ∈ walk.visited then return .on { walk with pending }
    else do
      let walk := { walk with pending, visited := id :: walk.visited }
      match ← visit reads epoch id with
      | .missing => return .on walk
      | .known permissions => return .on { walk with found := walk.found.merge permissions.value }
      | .failed fault => return .stop (walk.found, some fault)
      | .entered role =>
        match ← collectGranted reads epoch role.privileges.names walk.found with
        | (found, some fault) => return .stop (found, some fault)
        | (found, none) => return .on { walk with pending := walk.enter role, found }

theorem walkOn_succ (reads : Reads) (epoch budget : Nat) (walk : Walk) :
    walkOn reads epoch (budget + 1) walk = turn reads epoch walk >>= fun
      | .stop collected => pure collected
      | .on walk => walkOn reads epoch budget walk := by
  cases first : walk.pending with
  | nil => simp only [walkOn, turn, first]; rfl
  | cons id pending =>
    simp only [walkOn, turn, first]
    split
    · rfl
    · rw [bind_assoc]
      refine congrArg _ (funext fun seen => ?_)
      cases seen with
      | missing => rfl
      | known permissions => rfl
      | failed fault => rfl
      | entered role =>
        simp only [bind_assoc]
        refine congrArg _ (funext fun collected => ?_)
        obtain ⟨found, fault⟩ := collected
        cases fault <;> rfl

def Walk.past (walk : Walk) (id : String) (pending : List String) : Walk :=
  { walk with pending, visited := id :: walk.visited }

variable {reads : Reads} {epoch : Nat} {walk next : Walk} {service after : Service} {id : String}

def Service.askedMissing (service : Service) (id : String) : Service :=
  { service with resolver := (service.resolver.knownMissing id).2 }

def Service.askedRole (service : Service) (id : String) : Service :=
  { service with resolver := (service.resolver.knownRole id).2 }

inductive Sees (reads : Reads) (epoch : Nat) (service : Service) (id : String) :
    Visit → Service → Prop
  | skipped : (service.resolver.knownMissing id).1 = true →
      Sees reads epoch service id .missing (service.askedMissing id)
  | absent {fault : StoreFault} {read : Service} : (service.resolver.knownMissing id).1 = false →
      (reads.role id).run (service.askedMissing id) = (.error fault, read) →
      fault.isNotFound = true → Sees reads epoch service id .missing
        { read with resolver := read.resolver.rememberMissing epoch id }
  | failed {fault : StoreFault} {read : Service} : (service.resolver.knownMissing id).1 = false →
      (reads.role id).run (service.askedMissing id) = (.error fault, read) →
      fault.isNotFound = false → Sees reads epoch service id (.failed fault) read
  | known {role : Role} {permissions : Numbered Holdings} {read : Service} :
      (service.resolver.knownMissing id).1 = false →
      (reads.role id).run (service.askedMissing id) = (.ok role, read) →
      read.resolver.roles.lookup id = some permissions →
      Sees reads epoch service id (.known permissions) (read.askedRole id)
  | entered {role : Role} {read : Service} : (service.resolver.knownMissing id).1 = false →
      (reads.role id).run (service.askedMissing id) = (.ok role, read) →
      read.resolver.roles.lookup id = none →
      Sees reads epoch service id (.entered role) (read.askedRole id)

theorem visit_sees {seen : Visit} (ran : (visit reads epoch id).run service = (seen, after)) :
    Sees reads epoch service id seen after := by
  have asked : (onResolver (·.knownMissing id)).run service =
      ((service.resolver.knownMissing id).1, service.askedMissing id) := rfl
  unfold visit at ran
  rw [run_bind, asked] at ran
  cases missing : (service.resolver.knownMissing id).1 with
  | true =>
    rw [missing] at ran
    cases ran
    exact .skipped missing
  | false =>
    rw [missing, if_neg Bool.false_ne_true, run_bind] at ran
    cases read : (reads.role id).run (service.askedMissing id) with
    | mk result between =>
      rw [read] at ran
      cases result with
      | error fault =>
        cases absent : fault.isNotFound with
        | true =>
          simp only [absent, if_true] at ran
          cases ran
          exact .absent missing read absent
        | false =>
          simp only [absent, Bool.false_eq_true, if_false] at ran
          cases ran
          exact .failed missing read absent
      | ok role =>
        have looked : (onResolver (·.knownRole id)).run between =
            (between.resolver.roles.lookup id, between.askedRole id) :=
          Prod.ext (Cache.Guarded.get_lookup _ id) rfl
        simp only [run_bind, looked] at ran
        cases known : between.resolver.roles.lookup id with
        | some permissions =>
          rw [known] at ran
          cases ran
          exact .known missing read known
        | none =>
          rw [known] at ran
          cases ran
          exact .entered missing read known

inductive Turns (reads : Reads) (epoch : Nat) (walk : Walk) (service : Service) :
    Turn → Service → Prop
  | ended : walk.pending = [] → Turns reads epoch walk service (.stop (walk.found, none)) service
  | again {id : String} {pending : List String} : walk.pending = id :: pending → id ∈ walk.visited →
      Turns reads epoch walk service (.on { walk with pending }) service
  | missing {id : String} {pending : List String} {after : Service} : walk.pending = id :: pending →
      id ∉ walk.visited → (visit reads epoch id).run service = (.missing, after) →
      Turns reads epoch walk service (.on (walk.past id pending)) after
  | known {id : String} {pending : List String} {permissions : Numbered Holdings} {after : Service} :
      walk.pending = id :: pending → id ∉ walk.visited →
      (visit reads epoch id).run service = (.known permissions, after) →
      Turns reads epoch walk service
        (.on { walk.past id pending with found := walk.found.merge permissions.value }) after
  | failed {id : String} {pending : List String} {fault : StoreFault} {after : Service} :
      walk.pending = id :: pending → id ∉ walk.visited →
      (visit reads epoch id).run service = (.failed fault, after) →
      Turns reads epoch walk service (.stop (walk.found, some fault)) after
  | entered {id : String} {pending : List String} {role : Role} {found : Holdings}
      {between after : Service} : walk.pending = id :: pending → id ∉ walk.visited →
      (visit reads epoch id).run service = (.entered role, between) →
      (collectGranted reads epoch role.privileges.names walk.found).run between =
        ((found, none), after) →
      Turns reads epoch walk service
        (.on { walk.past id pending with pending := (walk.past id pending).enter role, found }) after
  | broken {id : String} {pending : List String} {role : Role} {found : Holdings}
      {fault : StoreFault} {between after : Service} : walk.pending = id :: pending →
      id ∉ walk.visited → (visit reads epoch id).run service = (.entered role, between) →
      (collectGranted reads epoch role.privileges.names walk.found).run between =
        ((found, some fault), after) →
      Turns reads epoch walk service (.stop (found, some fault)) after

theorem turn_turns (reads : Reads) (epoch : Nat) (walk : Walk) (service : Service) :
    Turns reads epoch walk service ((turn reads epoch walk).run service).1
      ((turn reads epoch walk).run service).2 := by
  cases first : walk.pending with
  | nil => simp only [turn, first]; exact .ended first
  | cons id pending =>
    simp only [turn, first]
    split
    · rename_i seen
      exact .again first seen
    · rename_i unseen
      rw [run_bind]
      cases visited : (visit reads epoch id).run service with
      | mk seen between =>
        cases seen with
        | missing => exact .missing first unseen visited
        | known permissions => exact .known first unseen visited
        | failed fault => exact .failed first unseen visited
        | entered role =>
          rw [run_bind]
          cases collected : (collectGranted reads epoch role.privileges.names walk.found).run between with
          | mk found after =>
            obtain ⟨found, fault⟩ := found
            cases fault with
            | none => exact .entered first unseen visited collected
            | some fault => exact .broken first unseen visited collected

theorem turns_of_run {turned : Turn} (ran : (turn reads epoch walk).run service = (turned, after)) :
    Turns reads epoch walk service turned after := by
  have turns := turn_turns reads epoch walk service
  rw [ran] at turns
  exact turns

structure Round where
  walk : Walk
  service : Service

inductive Search (reads : Reads) (epoch : Nat) : Round → List Round → Collected → Service → Prop
  | stop {round : Round} {collected : Collected} {after : Service} :
      (turn reads epoch round.walk).run round.service = (.stop collected, after) →
      Search reads epoch round [round] collected after
  | on {round next : Round} {rounds : List Round} {collected : Collected} {after : Service} :
      (turn reads epoch round.walk).run round.service = (.on next.walk, next.service) →
      Search reads epoch next rounds collected after →
      Search reads epoch round (round :: rounds) collected after

namespace Search

variable {round : Round} {rounds : List Round} {collected : Collected}

theorem runs (search : Search reads epoch round rounds collected after) (more : Nat) :
    (walkOn reads epoch (rounds.length + more) round.walk).run round.service = (collected, after) := by
  induction search with
  | stop ran =>
    rw [List.length_singleton, Nat.add_comm, walkOn_succ, run_bind, ran]
    rfl
  | on ran _ ih =>
    rw [List.length_cons, Nat.add_right_comm, walkOn_succ, run_bind, ran]
    exact ih

end Search

-- What a read of a role says is decided by the store as the read finds it.
def Reads.Decided (reads : Reads) : Prop :=
  ∀ (service : Service) (id : String), ((reads.role id).run service).1 = service.store.readRole id

theorem interruptedReads_decided (perform : Step → Act Answer) :
    (interruptedReads perform).Decided := by
  intro service id
  simp only [interruptedReads, run_bind]
  rfl

theorem visit_entered (decided : reads.Decided) {role : Role}
    (ran : (visit reads epoch id).run service = (.entered role, after)) :
    (service.resolver.knownMissing id).1 = false ∧ service.store.role? id = some role ∧
      after.resolver.roles.lookup id = none := by
  cases visit_sees ran with
  | entered missing read unknown =>
    refine ⟨missing, Store.readRole_ok ?_, ?_⟩
    · exact (decided (service.askedMissing id) id).symm.trans (congrArg Prod.fst read)
    · exact (Cache.Guarded.get_keeps _ id id).trans unknown

theorem startingAt_afforded (service : Service) (seed : String) :
    (Walk.startingAt seed).Afforded service.store service.budget := by
  have links : service.store.links = Store.linksBeyond [] service.store.roles :=
    (Store.linksBeyond_nil _).symm
  show 1 + Store.linksBeyond [] service.store.roles < service.budget
  unfold Service.budget
  omega

theorem walkOn_searches (decided : reads.Decided) {store : Store}
    (still : Nat → Walk → Service → Prop)
    (now : ∀ {budget walk service}, still budget walk service → service.store.SameContents store)
    (later : ∀ {budget walk service next after}, still (budget + 1) walk service →
      (turn reads epoch walk).run service = (.on next, after) → still budget next after)
    (budget : Nat) : ∀ {walk : Walk} {service : Service}, walk.Afforded store budget →
      still budget walk service → ∃ rounds, rounds.length ≤ budget ∧
        (∀ round ∈ rounds, round.service.store.SameContents store) ∧
        Search reads epoch ⟨walk, service⟩ rounds ((walkOn reads epoch budget walk).run service).1
          ((walkOn reads epoch budget walk).run service).2 := by
  induction budget with
  | zero => intro walk service afforded _; exact absurd afforded (Nat.not_lt_zero _)
  | succ budget ih =>
    intro walk service afforded held
    rw [walkOn_succ, run_bind]
    cases ran : (turn reads epoch walk).run service with
    | mk turned after =>
      cases turned with
      | stop collected =>
        refine ⟨[⟨walk, service⟩], Nat.succ_le_succ (Nat.zero_le _), ?_, .stop ran⟩
        intro round member
        rw [List.mem_singleton.mp member]
        exact now held
      | on next =>
        have continued : next.Afforded store budget := by
          cases turns_of_run ran with
          | again first _ => exact afforded.again first
          | missing first _ _ => exact afforded.passed first _
          | known first _ _ => exact afforded.passed first _
          | entered first unseen visited _ =>
            obtain ⟨_, isRole, _⟩ := visit_entered decided visited
            exact afforded.entered first unseen (((now held).role? _).symm.trans isRole) _
        obtain ⟨rounds, bounded, steady, search⟩ := ih continued (later held ran)
        refine ⟨⟨walk, service⟩ :: rounds, Nat.succ_le_succ bounded, ?_, .on ran search⟩
        intro round member
        rcases List.mem_cons.mp member with rfl | later
        · exact now held
        · exact steady round later

theorem collect_searches (decided : reads.Decided) {seed : String}
    (unchanged : ∀ moment ∈ (collect reads epoch seed).moments service,
      moment.store.SameContents service.store) :
    ∃ rounds, rounds.length ≤ service.budget ∧
      (∀ round ∈ rounds, round.service.store.SameContents service.store) ∧
      Search reads epoch ⟨.startingAt seed, service⟩ rounds ((collect reads epoch seed).run service).1
        ((collect reads epoch seed).run service).2 := by
  refine walkOn_searches decided
    (fun budget walk now => ∀ moment ∈ now :: (walkOn reads epoch budget walk).moments now,
      moment.store.SameContents service.store) ?_ ?_ service.budget (startingAt_afforded service seed) ?_
  · exact fun held => held _ List.mem_cons_self
  · intro budget walk now next after held ran moment passed
    rw [walkOn_succ, moments_bind, ran] at held
    rcases List.mem_cons.mp passed with rfl | later
    · have ended := run_mem (turn reads epoch walk) now
      rw [ran] at ended
      rcases List.mem_cons.mp ended with rfl | during
      · exact held _ List.mem_cons_self
      · exact held _ (List.mem_cons_of_mem _ (List.mem_append_left _ during))
    · exact held moment (List.mem_cons_of_mem _ (List.mem_append_right _ later))
  · intro moment passed
    rcases List.mem_cons.mp passed with rfl | later
    · exact .refl _
    · exact unchanged moment later

namespace Round

def visits (round : Round) : Option String :=
  round.walk.pending.head?.filter (· ∉ round.walk.visited)

def asks (round : Round) : Option String :=
  round.visits.filter fun id => !(round.service.resolver.knownMissing id).1

theorem asks_iff {round : Round} : round.asks = some id ↔
    ∃ pending, round.walk.pending = id :: pending ∧ id ∉ round.walk.visited ∧
      (round.service.resolver.knownMissing id).1 = false := by
  simp [asks, visits, Option.filter_eq_some_iff, List.head?_eq_some_iff]

-- Nothing becomes pending from one round to the next but the roles contained in the role that was read,
-- and that only if there were no permissions stored for it.
def Follows (reads : Reads) (epoch : Nat) (round next : Round) : Prop :=
  next.walk.pending = round.walk.pending.tail ∨ ∃ outer role after, round.asks = some outer ∧
    (visit reads epoch outer).run round.service = (.entered role, after) ∧
    round.service.store.role? outer = some role ∧ after.resolver.roles.lookup outer = none ∧
    next.walk.pending = round.walk.pending.tail ++ role.roles.names.filter (· ∉ next.walk.visited)

end Round

-- When a walk goes on, its first pending role has been visited.
theorem Turns.visited (turns : Turns reads epoch walk service (.on next) after) (id : String) :
    id ∈ next.visited ↔ walk.pending.head? = some id ∨ id ∈ walk.visited := by
  cases turns with
  | again first seen =>
    simp only [first, List.head?_cons, Option.some.injEq]
    exact ⟨.inr, fun or => or.elim (fun same => same ▸ seen) fun before => before⟩
  | missing first _ _ => simp [first, Walk.past, eq_comm]
  | known first _ _ => simp [first, Walk.past, eq_comm]
  | entered first _ _ _ => simp [first, Walk.past, eq_comm]

theorem Turns.follows (decided : reads.Decided)
    (turns : Turns reads epoch walk service (.on next) after) :
    Round.Follows reads epoch ⟨walk, service⟩ ⟨next, after⟩ := by
  cases turns with
  | again first _ | missing first _ _ | known first _ _ =>
    refine .inl ?_
    show _ = walk.pending.tail
    rw [first]
    rfl
  | entered first unseen visited _ =>
    obtain ⟨missing, isRole, unknown⟩ := visit_entered decided visited
    refine .inr ⟨_, _, _, Round.asks_iff.mpr ⟨_, first, unseen, missing⟩, visited, isRole, unknown, ?_⟩
    show _ = walk.pending.tail ++ _
    rw [first]
    rfl

section OtherReads

variable {role : String → Act (Except StoreFault Role)}

theorem collectGranted_congr (ids : List String) : ∀ found,
    collectGranted { reads with role } epoch ids found = collectGranted reads epoch ids found := by
  induction ids with
  | nil => intro found; rfl
  | cons id ids ih =>
    intro found
    unfold collectGranted
    refine congrArg _ (funext fun result => ?_)
    cases result with
    | error fault => rfl
    | ok grant =>
      cases grant with
      | none => exact ih found
      | some permission => exact ih (found.insert permission)

theorem visit_congr (same : (service.resolver.knownMissing id).1 = false → role id = reads.role id) :
    (visit { reads with role } epoch id).run service = (visit reads epoch id).run service := by
  unfold visit
  rw [run_bind, run_bind]
  cases missing : ((onResolver (·.knownMissing id)).run service).1 with
  | true => rfl
  | false =>
    dsimp only
    rw [same missing]

theorem turn_congr (same : ∀ id, Round.asks ⟨walk, service⟩ = some id → role id = reads.role id) :
    (turn { reads with role } epoch walk).run service = (turn reads epoch walk).run service := by
  unfold turn
  cases first : walk.pending with
  | nil => rfl
  | cons id pending =>
    dsimp only
    split
    · rfl
    · rename_i unseen
      rw [run_bind, run_bind, visit_congr fun missing =>
        same id (Round.asks_iff.mpr ⟨pending, first, unseen, missing⟩)]
      simp only [collectGranted_congr]

end OtherReads

namespace Search

variable {round : Round} {rounds : List Round} {collected : Collected}

theorem begins (search : Search reads epoch round rounds collected after) :
    ∃ later, rounds = round :: later := by
  cases search with
  | stop _ => exact ⟨[], rfl⟩
  | on _ _ => exact ⟨_, rfl⟩

-- What is read in a round is not read in a later one, for it has been visited.
theorem asked_once (search : Search reads epoch round rounds collected after) :
    (rounds.filterMap Round.asks).Nodup ∧
      ∀ id ∈ rounds.filterMap Round.asks, id ∉ round.walk.visited := by
  have own : ∀ (round : Round) id, round.asks = some id →
      round.walk.pending.head? = some id ∧ id ∉ round.walk.visited := by
    intro round id asked
    obtain ⟨pending, first, unseen, _⟩ := Round.asks_iff.mp asked
    exact ⟨by rw [first, List.head?_cons], unseen⟩
  induction search with
  | stop _ =>
    rename_i round _ _ _
    cases asked : round.asks with
    | none => simp [asked]
    | some id => simpa [asked] using (own round id asked).2
  | on ran _ ih =>
    rename_i round next rounds _ _ _
    have visited := (turns_of_run ran).visited
    have later : ∀ id ∈ rounds.filterMap Round.asks, id ∉ round.walk.visited :=
      fun id member seen => ih.2 id member ((visited id).mpr (.inr seen))
    cases asked : round.asks with
    | none =>
      rw [List.filterMap_cons_none asked]
      exact ⟨ih.1, later⟩
    | some first =>
      obtain ⟨head, unseen⟩ := own round first asked
      rw [List.filterMap_cons_some asked, List.nodup_cons]
      refine ⟨⟨fun again => ih.2 first again ((visited first).mpr (.inl head)), ih.1⟩, ?_⟩
      intro id member
      rcases List.mem_cons.mp member with rfl | rest
      · exact unseen
      · exact later id rest

theorem follows (decided : reads.Decided)
    (search : Search reads epoch round rounds collected after) :
    rounds.IsChain (Round.Follows reads epoch) := by
  induction search with
  | stop _ => exact .singleton _
  | on ran search ih =>
    obtain ⟨later, rfl⟩ := search.begins
    exact List.isChain_cons_cons.mpr ⟨(turns_of_run ran).follows decided, ih⟩

-- All that is ever pending can be reached from where the walk began.
theorem reached {store : Store} {seed : String} (search : Search reads epoch round rounds collected after)
    (decided : reads.Decided) (steady : ∀ round ∈ rounds, round.service.store.SameContents store)
    (first : ∀ id ∈ round.walk.pending, store.Reaches seed id) :
    ∀ round ∈ rounds, ∀ id ∈ round.walk.pending, store.Reaches seed id := by
  induction search with
  | stop _ =>
    intro round member
    rw [List.mem_singleton.mp member]
    exact first
  | on ran _ ih =>
    rename_i round next rounds _ _ _
    have continued : ∀ id ∈ next.walk.pending, store.Reaches seed id := by
      intro inner waits
      rcases (turns_of_run ran).follows decided with rest |
        ⟨outer, role, _, asked, _, isRole, _, rest⟩
      · rw [rest] at waits
        exact first inner (List.mem_of_mem_tail waits)
      · rw [rest] at waits
        rcases List.mem_append.mp waits with before | contained
        · exact first inner (List.mem_of_mem_tail before)
        · obtain ⟨pending, head, _, _⟩ := Round.asks_iff.mp asked
          have outerReached : store.Reaches seed outer :=
            first outer (by rw [head]; exact List.mem_cons_self)
          have same := (steady round List.mem_cons_self).role? outer
          exact outerReached.tail ⟨role, same.symm.trans isRole, (List.mem_filter.mp contained).1⟩
    intro other member
    rcases List.mem_cons.mp member with rfl | later
    · exact first
    · exact ih (fun round member => steady round (List.mem_cons_of_mem _ member)) continued other later

end Search

end RepositoryAccess
