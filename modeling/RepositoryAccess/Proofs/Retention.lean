import RepositoryAccess.Proofs.Bystanding
import RepositoryAccess.Proofs.DirtyCheck
import RepositoryAccess.Proofs.Guarding
import RepositoryAccess.Proofs.Rounds

namespace RepositoryAccess
open RepositoryAccess.Text RepositoryAccess.Directory
open Service Act

namespace Service

-- What waits for reads does not call the resolver.
def Aloof (service : Service) : Prop := ∀ waiting ∈ service.interruptions, Step.AllAloof waiting.steps

structure Bypasses (before after : Service) : Prop where
  resolver : after.resolver = { before.resolver with mint := after.resolver.mint }
  uses : after.store.uses = before.store.uses
  aloof : before.Aloof → after.Aloof

-- These reads were made, latest first.  The resolver found out at most that roles are missing that were read.
structure Consults (before : Service) (made : List StoreUse) (after : Service) : Prop where
  uses : after.store.uses = made ++ before.store.uses
  stored : after.resolver.roles.entries = before.resolver.roles.entries
  resets : after.resolver.roles.tally.resets = before.resolver.roles.tally.resets
  epoch : after.resolver.epoch = before.resolver.epoch
  missing : ∀ id ∈ after.resolver.missing.keys, id ∈ before.resolver.missing.keys ∨ .read .role id ∈ made
  aloof : after.Aloof

variable {service before middle after : Service} {made more : List StoreUse} {id : String} {epoch : Nat}

theorem Bypasses.refl (service : Service) : service.Bypasses service := ⟨rfl, rfl, fun aloof => aloof⟩

theorem Bypasses.trans (early : before.Bypasses middle) (late : middle.Bypasses after) : before.Bypasses after where
  resolver := by rw [late.resolver, early.resolver]
  uses := late.uses.trans early.uses
  aloof aloof := late.aloof (early.aloof aloof)

theorem Elsewhere.bypasses (elsewhere : before.Elsewhere after) : before.Bypasses after := by
  rw [elsewhere]
  exact ⟨rfl, rfl, fun aloof => aloof⟩

theorem Bypasses.consults (bypasses : before.Bypasses after) (aloof : before.Aloof) : before.Consults [] after where
  uses := bypasses.uses
  stored := by rw [bypasses.resolver]
  resets := by rw [bypasses.resolver]
  epoch := by rw [bypasses.resolver]
  missing id member := by rw [bypasses.resolver] at member; exact .inl member
  aloof := bypasses.aloof aloof

theorem Consults.trans (early : before.Consults made middle) (late : middle.Consults more after) :
    before.Consults (more ++ made) after where
  uses := by rw [late.uses, early.uses, List.append_assoc]
  stored := late.stored.trans early.stored
  resets := late.resets.trans early.resets
  epoch := late.epoch.trans early.epoch
  missing id member := by
    rcases late.missing id member with old | read
    · exact (early.missing id old).imp_right (List.mem_append_right _)
    · exact .inr (List.mem_append_left _ read)
  aloof := late.aloof

theorem consults_resolver {resolver : Resolver} (aloof : service.Aloof)
    (stored : resolver.roles.entries = service.resolver.roles.entries)
    (resets : resolver.roles.tally.resets = service.resolver.roles.tally.resets)
    (epoch : resolver.epoch = service.resolver.epoch)
    (missing : ∀ id ∈ resolver.missing.keys, id ∈ service.resolver.missing.keys) :
    service.Consults [] { service with resolver } where
  uses := rfl
  stored := stored
  resets := resets
  epoch := epoch
  missing id member := .inl (missing id member)
  aloof := aloof

theorem askedRole_consults (aloof : service.Aloof) (id : String) : service.Consults [] (service.askedRole id) :=
  consults_resolver aloof (Cache.Guarded.get_entries _ id) (Cache.Guarded.get_same _ id).2.2 rfl fun _ member => member

theorem askedMissing_consults (aloof : service.Aloof) (id : String) :
    service.Consults [] (service.askedMissing id) :=
  consults_resolver aloof rfl rfl rfl fun _ => Cache.Recent.mem_contains

theorem note_consults (aloof : service.Aloof) (use : StoreUse) :
    service.Consults [use] { service with store := service.store.note use } :=
  ⟨rfl, rfl, rfl, rfl, fun _ => .inl, aloof⟩

theorem Consults.rememberMissing (consults : before.Consults made after) (read : .read .role id ∈ made) :
    before.Consults made { after with resolver := after.resolver.rememberMissing epoch id } := by
  by_cases current : after.resolver.epoch = epoch
  · rw [Resolver.rememberMissing, if_pos current]
    exact { consults with
      missing := fun other member => by
        rcases Cache.Recent.mem_insert member with rfl | old
        · exact .inr read
        · exact consults.missing other old }
  · rw [Resolver.rememberMissing, if_neg current]
    exact consults

theorem allAloof_iff {steps : List Step} : Step.AllAloof steps ↔ ∀ step ∈ steps, step.Aloof := by
  induction steps with
  | nil => simp [Step.AllAloof]
  | cons step steps ih => rw [Step.AllAloof, ih, List.forall_mem_cons]

theorem interruption_aloof (aloof : service.Aloof) (kind : ReadKind) (id : String) :
    Step.AllAloof (service.interruption kind id).1 ∧ service.Bypasses (service.interruption kind id).2 := by
  unfold interruption
  dsimp only
  split
  · exact ⟨trivial, .refl service⟩
  · rename_i waiting found
    exact ⟨aloof waiting (List.mem_of_find?_eq_some found), rfl, rfl,
      fun aloof other member => aloof other (List.mem_of_mem_eraseP member)⟩

end Service

namespace Act
variable {α β : Type} {course : Act α}

def Bypassing (course : Act α) : Prop := ∀ service : Service, service.Bypasses (course.run service).2

-- With nothing waiting that calls the resolver, the course only makes reads.
def Consulting (course : Act α) : Prop :=
  ∀ service : Service, service.Aloof → ∃ made, service.Consults made (course.run service).2

theorem bypassing_bystanding : Bystanding Bypassing where
  pure _ := .refl
  bind first continued service := by
    rw [run_bind]
    exact (first service).trans (continued _ _)
  get continued service := continued service service
  elsewhere same service := (same service).bypasses
  interrupt kind id steps aloof service := by
    refine ⟨rfl, rfl, fun before waiting member => ?_⟩
    rcases List.mem_append.mp member with old | new
    · exact before waiting old
    · rw [List.mem_singleton.mp new]
      exact aloof
  change kept service := by
    show service.Bypasses (service.change _)
    unfold Service.change
    dsimp only
    split <;> exact ⟨rfl, kept _, fun aloof => aloof⟩
  create text service := ⟨rfl, rfl, fun aloof => aloof⟩
  clearMint service := ⟨rfl, rfl, fun aloof => aloof⟩

theorem consulting_sequencing : Sequencing Consulting where
  pure _ service aloof := ⟨[], (Bypasses.refl service).consults aloof⟩
  bind first continued service aloof := by
    obtain ⟨made, early⟩ := first service aloof
    obtain ⟨more, late⟩ := continued _ _ early.aloof
    rw [run_bind]
    exact ⟨more ++ made, early.trans late⟩
  get _ _ continued service aloof := continued service service aloof

end Act

theorem performWithin_bypassing (depth : Nat) :
    ∀ step : Step, step.Aloof → (performWithin depth step).Bypassing := by
  cases depth with
  | zero => exact fun step _ => .refl
  | succ depth => exact fun step aloof => bypassing_bystanding.performWith _ step aloof

variable {service after : Service} {id : String} {epoch : Nat} (depth : Nat)

theorem interrupted_bypasses (aloof : service.Aloof) (kind : ReadKind) (id : String) :
    service.Bypasses ((interrupted (performWithin depth) kind id).run service).2 := by
  obtain ⟨steps, taken⟩ := interruption_aloof aloof kind id
  have performed := bypassing_bystanding.performAside (service.interruption kind id).1
    fun step member => performWithin_bypassing depth step (allAloof_iff.mp steps step member)
  exact taken.trans (performed _)

theorem role_bypasses (aloof : service.Aloof) (id : String) :
    Bypasses { service with store := service.store.note (.read .role id) }
      (((interruptedReads (performWithin depth)).role id).run service).2 := by
  have noted := note_consults aloof (.read .role id)
  have happened := interrupted_bypasses depth noted.aloof .role id
  simp only [interruptedReads, run_bind]
  exact happened

theorem role_consults (aloof : service.Aloof) (id : String) : service.Consults [.read .role id]
    (((interruptedReads (performWithin depth)).role id).run service).2 := by
  have noted := note_consults aloof (.read .role id)
  exact noted.trans ((role_bypasses depth aloof id).consults noted.aloof)

theorem privilege_consulting (id : String) : ((interruptedReads (performWithin depth)).privilege id).Consulting := by
  intro service aloof
  have noted := note_consults aloof (.read .privilege id)
  have happened := interrupted_bypasses depth noted.aloof .privilege id
  refine ⟨[.read .privilege id], ?_⟩
  simp only [interruptedReads, run_bind]
  exact noted.trans (happened.consults noted.aloof)

theorem rememberPrivilege_consults (aloof : service.Aloof) (permission : Permission) :
    service.Consults [] { service with resolver := service.resolver.rememberPrivilege epoch id permission } := by
  unfold Resolver.rememberPrivilege
  split <;> exact consults_resolver aloof rfl rfl rfl fun _ member => member

theorem grant_consults (aloof : service.Aloof) (privilege : Privilege) :
    service.Consults [] { service with resolver := (service.resolver.grant epoch id privilege).2 } := by
  unfold Resolver.grant
  split
  · exact (Bypasses.refl service).consults aloof
  · rename_i text _
    have created : service.Consults [] { service with resolver := (service.resolver.create text).2 } :=
      consults_resolver aloof rfl rfl rfl fun _ member => member
    cases made : service.resolver.create text with
    | mk result resolver =>
      rw [made] at created
      cases result with
      | error malformed => exact created
      | ok permission => exact created.trans (rememberPrivilege_consults created.aloof permission)

theorem granted_consulting (epoch : Nat) (id : String) :
    (granted (interruptedReads (performWithin depth)) epoch id).Consulting := by
  have looked : (onResolver (·.knownPrivilege id)).Consulting := fun service aloof =>
    ⟨[], consults_resolver aloof rfl rfl rfl fun _ member => member⟩
  refine consulting_sequencing.bind looked fun known => ?_
  cases known with
  | some permission => exact consulting_sequencing.pure _
  | none =>
    refine consulting_sequencing.bind (privilege_consulting depth id) fun result => ?_
    cases result with
    | error fault => exact consulting_sequencing.pure _
    | ok privilege =>
      exact consulting_sequencing.bind (fun _ aloof => ⟨[], grant_consults aloof privilege⟩) fun _ =>
        consulting_sequencing.pure _

theorem visit_consults (aloof : service.Aloof) (epoch : Nat) (id : String) : ∃ made,
    service.Consults made ((visit (interruptedReads (performWithin depth)) epoch id).run service).2 ∧
      ((service.resolver.knownMissing id).1 = false → .read .role id ∈ made) := by
  have asked := askedMissing_consults aloof id
  have read := asked.trans (role_consults depth asked.aloof id)
  cases ran : (visit (interruptedReads (performWithin depth)) epoch id).run service with
  | mk seen after =>
    cases visit_sees ran with
    | skipped missing => exact ⟨[], asked, fun present => absurd (missing.symm.trans present) nofun⟩
    | absent _ ended _ =>
      rw [ended] at read
      exact ⟨_, read.rememberMissing List.mem_cons_self, fun _ => List.mem_cons_self⟩
    | failed _ ended _ =>
      rw [ended] at read
      exact ⟨_, read, fun _ => List.mem_cons_self⟩
    | known _ ended _ | entered _ ended _ =>
      rw [ended] at read
      exact ⟨_, read.trans (askedRole_consults read.aloof id), fun _ => List.mem_cons_self⟩

theorem visit_consulting (epoch : Nat) (id : String) :
    (visit (interruptedReads (performWithin depth)) epoch id).Consulting := fun _ aloof =>
  (visit_consults depth aloof epoch id).imp fun _ visited => visited.1

theorem collect_consulting (epoch : Nat) (id : String) :
    (collect (interruptedReads (performWithin depth)) epoch id).Consulting :=
  consulting_sequencing.collect (visit_consulting depth epoch) (granted_consulting depth epoch) id

theorem consulting_then {α β : Type} {course : Act α} {next : α → Act β} {made : List StoreUse}
    (first : service.Consults made (course.run service).2) (continued : ∀ result, (next result).Consulting) :
    ∃ more, service.Consults (more ++ made) ((course >>= next).run service).2 := by
  obtain ⟨more, late⟩ := continued (course.run service).1 _ first.aloof
  rw [run_bind]
  exact ⟨more, first.trans late⟩

theorem collect_reads (aloof : service.Aloof) (epoch : Nat) {id : String}
    (present : (service.resolver.knownMissing id).1 = false) : ∃ made, .read .role id ∈ made ∧
      service.Consults made ((collect (interruptedReads (performWithin depth)) epoch id).run service).2 := by
  obtain ⟨made, visited, read⟩ := visit_consults depth aloof epoch id
  have walks : ∀ walk, (walkOn (interruptedReads (performWithin depth)) epoch (service.budget - 1) walk).Consulting :=
    consulting_sequencing.walkOn (visit_consulting depth epoch) (granted_consulting depth epoch) _
  have some_budget : service.budget = service.budget - 1 + 1 := by
    unfold Service.budget
    omega
  show ∃ made, _ ∧ service.Consults made ((walkOn _ epoch service.budget (.startingAt id)).run service).2
  rw [some_budget]
  simp only [walkOn, Walk.startingAt, List.not_mem_nil, if_false]
  refine (consulting_then visited fun seen => ?_).elim fun more whole =>
    ⟨_, List.mem_append_right more (read present), whole⟩
  cases seen with
  | missing => exact walks _
  | known permissions => exact walks _
  | failed fault => exact consulting_sequencing.pure _
  | entered role =>
    refine consulting_sequencing.bind
      (consulting_sequencing.collectGranted (granted_consulting depth epoch) _ _) fun collected => ?_
    obtain ⟨found, fault⟩ := collected
    cases fault with
    | some fault => exact consulting_sequencing.pure _
    | none => exact walks _

def Service.Inquires (service : Service) (id : String) (made : List StoreUse) : Prop :=
  ∀ succeeded failed, service.store.lock = .run succeeded failed →
    (service.resolver.knownMissing id).1 = false → .read .role id ∈ made

theorem lockedRun_consults (aloof : service.Aloof) (epoch : Nat) (id : String) : ∃ made,
    service.Consults made
      ((lockedRun (collect (interruptedReads (performWithin depth)) epoch id)).run service).2 ∧
    service.Inquires id made := by
  have opened := note_consults aloof .opened
  have sections := consulting_sequencing.underLock (collect_consulting depth epoch id)
  obtain ⟨made, ended⟩ := sections service.store.lock (.empty, none) _ opened.aloof
  cases lock : service.store.lock with
  | grant | deny | relay => exact ⟨_, opened.trans ended, fun _ _ runs => by rw [lock] at runs; cases runs⟩
  | run succeeded failed =>
    cases present : (service.resolver.knownMissing id).1 with
    | true => exact ⟨_, opened.trans ended, fun _ _ _ absent => by rw [present] at absent; cases absent⟩
    | false =>
      obtain ⟨made, read, collected⟩ := collect_reads depth opened.aloof epoch present
      show ∃ made, service.Consults made ((underLock _ service.store.lock (.empty, none)).run _).2 ∧ _
      rw [lock]
      refine (consulting_then collected fun last => ?_).elim fun more whole =>
        ⟨_, opened.trans whole, fun _ _ _ _ => List.mem_append_left _ (List.mem_append_right more read)⟩
      split <;> exact sections _ _

-- All that a resolution can come to.  What it found out is stored under its epoch, which no other call can have
-- ended meanwhile.
inductive Service.Resolves (service : Service) (id : String) :
    Except StoreFault (Numbered Holdings) → List StoreUse → Service → Prop
  | again {held : Numbered Holdings} : service.resolver.roles.lookup id = some held →
      Resolves service id (.ok held) [] (service.askedRole id)
  | failed {fault : StoreFault} {made : List StoreUse} {after : Service} :
      service.resolver.roles.lookup id = none → service.Consults made after → service.Inquires id made →
      Resolves service id (.error fault) made after
  | anew {held : Numbered Holdings} {sets : Numbering} {made : List StoreUse} {between : Service} :
      service.resolver.roles.lookup id = none → service.Consults made between → service.Inquires id made →
      Resolves service id (.ok held) made { between with
        sets
        resolver := { between.resolver with
          roles := between.resolver.roles.insert id held, latest := some id } }

theorem resolve_again {reads : Reads} {held : Numbered Holdings}
    (stored : service.resolver.roles.lookup id = some held) :
    (resolve reads id).run service = (.ok held, service.askedRole id) := by
  have looked : (onResolver (·.knownRole id)).run service = (some held, service.askedRole id) :=
    Prod.ext ((Cache.Guarded.get_lookup _ id).trans stored) rfl
  unfold resolve
  rw [run_bind, looked]
  rfl

theorem resolve_resolves (aloof : service.Aloof) {result : Except StoreFault (Numbered Holdings)}
    (ran : (resolve (interruptedReads (performWithin depth)) id).run service = (result, after)) :
    ∃ made, Resolves service id result made after := by
  cases stored : service.resolver.roles.lookup id with
  | some held =>
    rw [resolve_again stored] at ran
    cases ran
    exact ⟨[], .again stored⟩
  | none =>
    have looked : (onResolver (·.knownRole id)).run service = (none, service.askedRole id) :=
      Prod.ext ((Cache.Guarded.get_lookup _ id).trans stored) rfl
    have asked := askedRole_consults aloof id
    unfold resolve at ran
    rw [run_bind, looked] at ran
    change (lockedRun (collect _ service.resolver.epoch id) >>= _).run (service.askedRole id) = _ at ran
    obtain ⟨made, reads, inquires⟩ := lockedRun_consults depth asked.aloof service.resolver.epoch id
    rw [run_bind] at ran
    cases locked : (lockedRun (collect (interruptedReads (performWithin depth)) service.resolver.epoch id)).run
        (service.askedRole id) with
    | mk told between =>
      rw [locked] at ran reads
      have whole : service.Consults made between := by simpa using asked.trans reads
      cases told with
      | error fault =>
        cases ran
        exact ⟨made, .failed stored whole inquires⟩
      | ok found =>
        have current : between.resolver.epoch = service.resolver.epoch := whole.epoch
        cases ran
        refine ⟨made, ?_⟩
        show Resolves service id _ made { between with
          sets := (between.sets.give found).2
          resolver := (between.resolver.rememberRole service.resolver.epoch id (between.sets.give found).1).settle id }
        rw [Resolver.rememberRole, if_pos current]
        exact .anew stored whole inquires

namespace Service

-- Between two calls anything may become different except what the resolver remembers; time may pass.
structure Meanwhile (before after : Service) : Prop where
  resolver : after.resolver = { before.resolver with
    mint := after.resolver.mint, moment := after.resolver.moment }
  aloof : after.Aloof

-- Calls of the resolver one after the other, none overlapping with another: which roles were resolved, and what
-- was read in their resolutions.
inductive Calls (reads : Reads) (first : Service) : List String → List StoreUse → Service → Prop
  | nothing : Calls reads first [] [] first
  | resolved {ids : List String} {uses made : List StoreUse} {service : Service} (id : String) :
      Calls reads first ids uses service →
      ((resolve reads id).run service).2.store.uses = made ++ service.store.uses →
      Calls reads first (ids ++ [id]) (made ++ uses) ((resolve reads id).run service).2
  | checked {ids : List String} {uses : List StoreUse} {service : Service} :
      Calls reads first ids uses service → Calls reads first ids uses ((checkDirty reads).run service).2
  | invalidated {ids : List String} {uses : List StoreUse} {service : Service} :
      Calls reads first ids uses service → Calls reads first ids uses service.invalidate
  | meanwhile {ids : List String} {uses : List StoreUse} {service later : Service} :
      Calls reads first ids uses service → service.Meanwhile later → Calls reads first ids uses later

-- What comes of resolving these roles with these reads.  Nothing stored is lost under one epoch, unless the cache
-- of roles empties itself; and nothing is found out except in these resolutions.
structure Leads (before : Service) (ids : List String) (uses : List StoreUse) (after : Service) : Prop where
  epoch : before.resolver.epoch ≤ after.resolver.epoch
  resets : before.resolver.roles.tally.resets ≤ after.resolver.roles.tally.resets
  stored : after.resolver.epoch = before.resolver.epoch →
    after.resolver.roles.tally.resets = before.resolver.roles.tally.resets →
    ∀ id held, before.resolver.roles.lookup id = some held → after.resolver.roles.lookup id = some held
  unstored : ∀ id, id ∉ ids → before.resolver.roles.lookup id = none → after.resolver.roles.lookup id = none
  missing : ∀ id ∈ after.resolver.missing.keys, id ∈ before.resolver.missing.keys ∨ .read .role id ∈ uses
  aloof : after.Aloof

variable {before middle after : Service} {ids others : List String} {uses made : List StoreUse} {id : String}

theorem Leads.trans (early : before.Leads ids uses middle) (late : middle.Leads others made after) :
    before.Leads (ids ++ others) (made ++ uses) after where
  epoch := Nat.le_trans early.epoch late.epoch
  resets := Nat.le_trans early.resets late.resets
  stored sameEpoch sameResets id held stored := by
    have epochs := Nat.le_antisymm (Nat.le_trans late.epoch (Nat.le_of_eq sameEpoch)) early.epoch
    have resets := Nat.le_antisymm (Nat.le_trans late.resets (Nat.le_of_eq sameResets)) early.resets
    exact late.stored (sameEpoch.trans epochs.symm) (sameResets.trans resets.symm) id held
      (early.stored epochs resets id held stored)
  unstored id absent unstored := by
    rw [List.mem_append, not_or] at absent
    exact late.unstored id absent.2 (early.unstored id absent.1 unstored)
  missing id member := by
    rcases late.missing id member with old | read
    · exact (early.missing id old).imp_right (List.mem_append_right _)
    · exact .inr (List.mem_append_left _ read)
  aloof := late.aloof

theorem leads_of_same (roles : after.resolver.roles.entries = before.resolver.roles.entries)
    (resets : after.resolver.roles.tally.resets = before.resolver.roles.tally.resets)
    (epoch : after.resolver.epoch = before.resolver.epoch)
    (missing : ∀ id ∈ after.resolver.missing.keys, id ∈ before.resolver.missing.keys ∨ .read .role id ∈ uses)
    (aloof : after.Aloof) : before.Leads ids uses after where
  epoch := Nat.le_of_eq epoch.symm
  resets := Nat.le_of_eq resets.symm
  stored _ _ id held stored := by
    rw [Cache.Guarded.lookup, roles]
    exact stored
  unstored id _ unstored := by
    rw [Cache.Guarded.lookup, roles]
    exact unstored
  missing := missing
  aloof := aloof

theorem Consults.leads (consults : before.Consults made after) : before.Leads ids made after :=
  leads_of_same consults.stored consults.resets consults.epoch consults.missing consults.aloof

theorem Meanwhile.leads (meanwhile : before.Meanwhile after) : before.Leads [] [] after := by
  have same := meanwhile.resolver
  exact leads_of_same (by rw [same]) (by rw [same]) (by rw [same])
    (fun id member => .inl (by rw [same] at member; exact member)) meanwhile.aloof

theorem invalidate_leads (aloof : before.Aloof) : before.Leads [] [] before.invalidate where
  epoch := Nat.le_succ _
  resets := Nat.le_refl _
  stored sameEpoch := absurd sameEpoch (Nat.succ_ne_self _)
  unstored _ _ _ := rfl
  missing _ member := absurd member List.not_mem_nil
  aloof := aloof

theorem meetGeneration_leads (aloof : before.Aloof) : before.Leads [] [] before.meetGeneration.2 := by
  have noted : before.Leads [] [] before.noteGeneration :=
    leads_of_same rfl rfl rfl (fun _ => .inl) aloof
  rcases meetGeneration_cases before with ⟨_, changed⟩ | ⟨_, same⟩
  · rw [changed]
    exact noted.trans (invalidate_leads noted.aloof)
  · rw [same]
    exact noted

-- What is stored for one role takes nothing away from the others, unless the cache empties itself.
theorem remember_leads (aloof : before.Aloof) (fresh : before.resolver.roles.lookup id = none)
    (held : Numbered Holdings) (sets : Numbering) : before.Leads [id] [] { before with
      sets
      resolver := { before.resolver with roles := before.resolver.roles.insert id held, latest := some id } } := by
  refine ⟨Nat.le_refl _, Cache.Guarded.resets_le_insert _ id held, ?_, ?_, fun _ => .inl, aloof⟩
  · intro _ sameResets other held' stored
    have different : other ≠ id := fun same => by
      rw [same, fresh] at stored
      cases stored
    exact (Cache.Guarded.lookup_insert_kept sameResets different).trans stored
  · intro other absent unstored
    refine Cache.Guarded.lookup_eq_none.mpr fun entry member => ?_
    rcases Cache.Guarded.mem_insert member with rfl | old
    · exact fun same => absent (List.mem_singleton.mpr same.symm)
    · exact Cache.Guarded.lookup_eq_none.mp unstored entry old

variable {result : Except StoreFault (Numbered Holdings)}

theorem Resolves.reads (resolves : Resolves before id result made after) :
    after.store.uses = made ++ before.store.uses := by
  cases resolves with
  | again => rfl
  | failed _ consults _ => exact consults.uses
  | anew _ consults _ => exact consults.uses

theorem Resolves.leads (aloof : before.Aloof) (resolves : Resolves before id result made after) :
    before.Leads [id] made after := by
  cases resolves with
  | again => exact (askedRole_consults aloof id).leads
  | failed _ consults _ => exact consults.leads
  | @anew held sets _ between fresh consults _ =>
    have still : between.resolver.roles.lookup id = none := by
      rw [Cache.Guarded.lookup, consults.stored]
      exact fresh
    have leads : before.Leads [] made between := consults.leads
    exact leads.trans (remember_leads leads.aloof still held sets)

theorem Resolves.stored {held : Numbered Holdings} (resolves : Resolves before id (.ok held) made after) :
    after.resolver.roles.lookup id = some held := by
  cases resolves with
  | again stored => exact (Cache.Guarded.get_keeps _ id id).trans stored
  | anew => exact Cache.Guarded.lookup_insert _ id held

theorem checkDirty_leads (depth : Nat) (aloof : before.Aloof) :
    before.Leads [] [] ((checkDirty (interruptedReads (performWithin depth))).run before).2 := by
  have read : ∀ latest, before.Leads [] []
      ((reread (interruptedReads (performWithin depth)) latest).run before).2 := by
    intro latest
    cases latest with
    | none => exact leads_of_same rfl rfl rfl (fun _ => .inl) aloof
    | some id =>
      have bypasses := role_bypasses depth aloof id
      have same := bypasses.resolver
      have leads : before.Leads [] [] (((interruptedReads (performWithin depth)).role id).run before).2 :=
        leads_of_same (by rw [same]) (by rw [same]) (by rw [same])
          (fun other member => .inl (by rw [same] at member; exact member)) (bypasses.aloof aloof)
      unfold reread
      rw [run_bind]
      split <;> exact leads
  rw [checkDirty_run, run_bind]
  have leads := read before.resolver.latest
  unfold meetIf
  split
  · exact leads.trans (meetGeneration_leads leads.aloof)
  · exact leads

theorem Calls.leads {first later : Service} {depth : Nat} (aloof : first.Aloof)
    (calls : first.Calls (interruptedReads (performWithin depth)) ids uses later) : first.Leads ids uses later := by
  induction calls with
  | nothing => exact leads_of_same rfl rfl rfl (fun _ => .inl) aloof
  | @resolved ids uses made service id _ reads ih =>
    cases ran : (resolve (interruptedReads (performWithin depth)) id).run service with
    | mk result after =>
      rw [ran] at reads
      obtain ⟨told, resolves⟩ := resolve_resolves depth ih.aloof ran
      obtain rfl : told = made := List.append_cancel_right (resolves.reads.symm.trans reads)
      exact ih.trans (resolves.leads ih.aloof)
  | checked _ ih => simpa using ih.trans (checkDirty_leads depth ih.aloof)
  | invalidated _ ih => simpa using ih.trans (invalidate_leads ih.aloof)
  | meanwhile _ between ih => simpa using ih.trans between.leads

theorem Calls.unread {reads : Reads} {first later : Service} (calls : first.Calls reads ids uses later)
    (none : ids = []) : uses = [] := by
  induction calls with
  | nothing => rfl
  | resolved id => exact absurd none (List.concat_ne_nil _ _)
  | checked _ ih | invalidated _ ih | meanwhile _ _ ih => exact ih none

end Service

-- A role that was resolved is given out again without a read, whatever the store is like by then, until the
-- resolver is invalidated or its cache of roles empties itself.  After an invalidation a role is read at its
-- first resolution, if the lock has the section run, unless another resolution has read it since and it is
-- remembered as missing; so the very first resolution always reads its role.
theorem resolved_set_stands (depth : Nat) (id : String) :
    let reads := interruptedReads (performWithin depth)
    (∀ (service : Service) held after ids uses later, service.Aloof →
      (resolve reads id).run service = (.ok held, after) → after.Calls reads ids uses later →
      later.resolver.epoch = after.resolver.epoch →
      later.resolver.roles.tally.resets = after.resolver.roles.tally.resets →
      (resolve reads id).run later = (.ok held, later.askedRole id)) ∧
    ∀ (service : Service) ids uses later succeeded failed, service.Aloof →
      service.invalidate.Calls reads ids uses later → id ∉ ids → later.store.lock = .run succeeded failed →
      ∃ made, ((resolve reads id).run later).2.store.uses = made ++ later.store.uses ∧
        (.read .role id ∈ made ∨
          ids ≠ [] ∧ .read .role id ∈ uses ∧ (later.resolver.knownMissing id).1 = true) := by
  intro reads
  refine ⟨?_, ?_⟩
  · intro service held after ids uses later aloof ran calls sameEpoch sameResets
    obtain ⟨made, resolves⟩ := resolve_resolves depth aloof ran
    have leads := calls.leads (resolves.leads aloof).aloof
    exact resolve_again (leads.stored sameEpoch sameResets id held resolves.stored)
  · intro service ids uses later succeeded failed aloof calls unasked lock
    have still : service.invalidate.Aloof := aloof
    have leads := calls.leads still
    have unstored := leads.unstored id unasked rfl
    cases ran : (resolve reads id).run later with
    | mk result after =>
      obtain ⟨made, resolves⟩ := resolve_resolves depth leads.aloof ran
      refine ⟨made, resolves.reads, ?_⟩
      have inquires : later.Inquires id made := by
        cases resolves with
        | again stored => exact absurd (unstored.symm.trans stored) nofun
        | failed _ _ inquires | anew _ _ inquires => exact inquires
      cases missing : (later.resolver.knownMissing id).1 with
      | false => exact .inl (inquires succeeded failed lock missing)
      | true =>
        have read := (leads.missing id (Cache.Recent.mem_of_contains missing)).resolve_left List.not_mem_nil
        refine .inr ⟨fun none => ?_, read, rfl⟩
        rw [calls.unread none] at read
        cases read

def hollow : Service := .new {} Descriptor.builtIn {
  roles := [.new "outer" ["read"] ["inner"]]
  privileges := [.new "read" "method" [("permission", "target"), ("method", "read")]] }

def hollowed : Service := ((resolve (interruptedReads (performWithin 1)) "outer").run hollow.invalidate).2

theorem hollowed_calls : hollow.invalidate.Calls (interruptedReads (performWithin 1)) ["outer"]
    [.read .role "inner", .read .privilege "read", .read .role "outer", .opened] hollowed := by
  have read : hollowed.store.uses = [.read .role "inner", .read .privilege "read", .read .role "outer", .opened] ++
      hollow.invalidate.store.uses := by decide +kernel
  exact .resolved "outer" .nothing read

-- The first resolution of the inner role since the invalidation does not read it, although the lock has the
-- section run.
theorem missing_role_not_read_again :
    let reads := interruptedReads (performWithin 1)
    hollow.Aloof ∧ hollow.invalidate.Calls reads ["outer"]
      [.read .role "inner", .read .privilege "read", .read .role "outer", .opened] hollowed ∧
    "inner" ∉ ["outer"] ∧ hollowed.store.lock = .run .relay .relay ∧
    ¬ ∃ made, ((resolve reads "inner").run hollowed).2.store.uses = made ++ hollowed.store.uses ∧
      .read .role "inner" ∈ made := by
  intro reads
  refine ⟨fun _ waiting => absurd waiting List.not_mem_nil, hollowed_calls, by decide, rfl, ?_⟩
  intro claimed
  obtain ⟨made, uses, read⟩ := claimed
  have opened : ((resolve reads "inner").run hollowed).2.store.uses = [.opened] ++ hollowed.store.uses := by
    decide +kernel
  rw [List.append_cancel_right (uses.symm.trans opened)] at read
  exact absurd read (by decide)

def outerResolved : Service := ((resolve (interruptedReads (performWithin 1)) "outer").run hollow).2

def abandoned : Service := { outerResolved with
  store := { outerResolved.store with roles := [], failures := [⟨.role, everyId, .unavailable "down"⟩] } }

def tried : Service :=
  let reads := interruptedReads (performWithin 1)
  ((checkDirty reads).run ((resolve reads "other").run abandoned).2).2

theorem resolved_set_outlasts_store :
    let reads := interruptedReads (performWithin 1)
    (∃ held, hollow.Aloof ∧ (resolve reads "outer").run hollow = (.ok held, outerResolved) ∧
      outerResolved.Calls reads ["other"] [.read .role "other", .opened] tried ∧
      tried.store.readRole "outer" = .error (.unavailable "down") ∧
      (resolve reads "outer").run tried = (.ok held, tried.askedRole "outer")) ∧
    ∃ made, ((resolve reads "inner").run hollowed).2.store.uses = made ++ hollowed.store.uses ∧
      (.read .role "inner" ∈ made ∨ ["outer"] ≠ [] ∧
        .read .role "inner" ∈ [StoreUse.read .role "inner", .read .privilege "read", .read .role "outer", .opened] ∧
        (hollowed.resolver.knownMissing "inner").1 = true) := by
  intro reads
  have aloof : hollow.Aloof := fun _ waiting => absurd waiting List.not_mem_nil
  obtain ⟨stands, _⟩ := resolved_set_stands 1 "outer"
  have known : ((resolve reads "outer").run hollow).1.toOption.isSome = true := by decide +kernel
  have quiet : abandoned.interruptions = [] := by decide +kernel
  have left : outerResolved.Meanwhile abandoned :=
    ⟨rfl, fun _ waiting => absurd (quiet ▸ waiting) List.not_mem_nil⟩
  have read : ((resolve reads "other").run abandoned).2.store.uses =
    [.read .role "other", .opened] ++ abandoned.store.uses := by decide +kernel
  have calls : outerResolved.Calls reads ["other"] [.read .role "other", .opened] tried :=
    .checked (.resolved "other" (.meanwhile .nothing left) read)
  refine ⟨?_, (resolved_set_stands 1 "inner").2 hollow ["outer"] _ hollowed .relay .relay aloof hollowed_calls
    (by decide) rfl⟩
  cases result : ((resolve reads "outer").run hollow).1 with
  | error fault =>
    rw [result] at known
    cases known
  | ok held =>
    have ran : (resolve reads "outer").run hollow = (.ok held, outerResolved) := Prod.ext result rfl
    exact ⟨held, aloof, ran, calls, by decide +kernel,
      stands hollow held outerResolved ["other"] _ tried aloof ran calls (by decide +kernel) (by decide +kernel)⟩

end RepositoryAccess
