import RepositoryAccess.Proofs.Solitude

namespace RepositoryAccess
open RepositoryAccess.Text RepositoryAccess.Directory
open Act

namespace Directory

def refusalOf {α : Type} : Except StoreFault α → Option StoreFault
  | .ok _ => none
  | .error fault => if fault.isNotFound then none else some fault

theorem refusalOf_absent {α : Type} {fault : StoreFault} (absent : fault.isNotFound = true) :
    refusalOf (Except.error fault : Except StoreFault α) = none := if_pos absent

theorem refusalOf_refused {α : Type} {fault : StoreFault} (refused : fault.isNotFound = false) :
    refusalOf (Except.error fault : Except StoreFault α) = some fault :=
  if_neg (Bool.eq_false_iff.mp refused)

namespace Store

def refusal? (store : Store) : ReadKind → String → Option StoreFault
  | .role, id => refusalOf (store.readRole id)
  | .privilege, id => refusalOf (store.readPrivilege id)

def LacksRole (store : Store) (id : String) : Prop :=
  ∃ fault, store.readRole id = .error fault ∧ fault.isNotFound = true

theorem LacksRole.unrefused {store : Store} {id : String} (lacks : store.LacksRole id) :
    store.refusal? .role id = none := by
  obtain ⟨fault, read, absent⟩ := lacks
  exact (congrArg refusalOf read).trans (refusalOf_absent absent)

-- What the fault is that some reads end with: none of them was refused, or one was, with this fault.
def Tells (store : Store) (made : List StoreUse) : Option StoreFault → Prop
  | none => ∀ kind id, .read kind id ∈ made → store.refusal? kind id = none
  | some fault => ∃ kind id, .read kind id ∈ made ∧ store.refusal? kind id = some fault

theorem tells_nothing {store : Store} : store.Tells [] none :=
  fun _ _ impossible => absurd impossible List.not_mem_nil

theorem Tells.append {store : Store} {made more : List StoreUse} {told : Option StoreFault}
    (early : store.Tells made none) (late : store.Tells more told) : store.Tells (more ++ made) told := by
  cases told with
  | none =>
    intro kind id member
    rcases List.mem_append.mp member with new | old
    · exact late kind id new
    · exact early kind id old
  | some fault =>
    obtain ⟨kind, id, member, refused⟩ := late
    exact ⟨kind, id, List.mem_append_left _ member, refused⟩

end Store

def StoreUse.role? : StoreUse → Option String
  | .read .role id => some id
  | _ => none

end Directory

namespace Service

-- Some reads were made, latest first, and something was learned from them.
structure Learns (before : Service) (made : List StoreUse) (after : Service) : Prop where
  elsewhere : after = { before with
    store := { before.store with uses := made ++ before.store.uses }
    resolver := { before.resolver with
      mint := after.resolver.mint
      roles := { before.resolver.roles with tally := after.resolver.roles.tally }
      privileges := after.resolver.privileges
      missing := after.resolver.missing
      moment := after.resolver.moment } }
  privileges : ∀ entry ∈ after.resolver.privileges.entries,
    entry ∈ before.resolver.privileges.entries ∨ before.store.refusal? .privilege entry.1 = none
  missing : ∀ id ∈ after.resolver.missing.keys, id ∈ before.resolver.missing.keys ∨
    .read .role id ∈ made ∧ before.store.LacksRole id

variable {before between after service : Service} {made more : List StoreUse}

namespace Learns

theorem refl (service : Service) : service.Learns [] service :=
  ⟨rfl, fun _ => .inl, fun _ => .inl⟩

theorem store (learned : before.Learns made after) :
    after.store = { before.store with uses := made ++ before.store.uses } :=
  congrArg (·.store) learned.elsewhere

theorem uses (learned : before.Learns made after) :
    after.store.uses = made ++ before.store.uses := by rw [learned.store]

theorem contents (learned : before.Learns made after) : after.store.SameContents before.store := by
  rw [learned.store]
  exact ⟨rfl, rfl⟩

theorem refusal? (learned : before.Learns made after) :
    after.store.refusal? = before.store.refusal? := by
  rw [learned.store]
  funext kind id
  cases kind <;> rfl

theorem lacksRole (learned : before.Learns made after) :
    after.store.LacksRole = before.store.LacksRole := by
  rw [learned.store]
  rfl

theorem tells (learned : before.Learns made after) :
    after.store.Tells = before.store.Tells := by
  funext made told
  unfold Store.Tells
  rw [learned.refusal?]

theorem epoch (learned : before.Learns made after) : after.resolver.epoch = before.resolver.epoch :=
  congrArg (·.resolver.epoch) learned.elsewhere

theorem descriptors (learned : before.Learns made after) :
    after.resolver.descriptors = before.resolver.descriptors :=
  congrArg (·.resolver.descriptors) learned.elsewhere

theorem steady (learned : before.Learns made after) (steady : before.Steady) : after.Steady := by
  rw [learned.elsewhere]
  exact steady

theorem roles (learned : before.Learns made after) (id : String) :
    after.resolver.roles.lookup id = before.resolver.roles.lookup id := by
  rw [learned.elsewhere]
  rfl

theorem trans (early : before.Learns made between) (late : between.Learns more after) :
    before.Learns (more ++ made) after where
  elsewhere := by
    have whole := late.elsewhere
    rw [early.elsewhere] at whole
    rw [List.append_assoc]
    exact whole
  privileges entry member := by
    rcases late.privileges entry member with old | allowed
    · exact early.privileges entry old
    · exact .inr (by rw [← early.refusal?]; exact allowed)
  missing id member := by
    rcases late.missing id member with old | ⟨read, lacks⟩
    · exact (early.missing id old).imp_right fun ⟨read, lacks⟩ =>
        ⟨List.mem_append_right _ read, lacks⟩
    · exact .inr ⟨List.mem_append_left _ read, by rw [← early.lacksRole]; exact lacks⟩

end Learns

variable {id : String} {epoch : Nat}

theorem note_learns (service : Service) (use : StoreUse) :
    service.Learns [use] { service with store := service.store.note use } :=
  ⟨rfl, fun _ => .inl, fun _ => .inl⟩

theorem askedMissing_learns (service : Service) (id : String) :
    service.Learns [] (service.askedMissing id) :=
  ⟨rfl, fun _ => .inl, fun _ member => .inl (Cache.Recent.mem_contains member)⟩

theorem askedRole_learns (service : Service) (id : String) :
    service.Learns [] (service.askedRole id) := by
  refine ⟨?_, fun _ => .inl, fun _ => .inl⟩
  unfold askedRole Resolver.knownRole Cache.Guarded.get
  cases service.resolver.roles.lookup id <;> rfl

def askedPrivilege (service : Service) (id : String) : Service :=
  { service with resolver := (service.resolver.knownPrivilege id).2 }

theorem askedPrivilege_entries (service : Service) (id : String) :
    (service.askedPrivilege id).resolver.privileges.entries = service.resolver.privileges.entries :=
  Cache.Guarded.get_entries _ id

theorem askedPrivilege_learns (service : Service) (id : String) :
    service.Learns [] (service.askedPrivilege id) := by
  refine ⟨rfl, fun entry member => .inl ?_, fun _ => .inl⟩
  rwa [askedPrivilege_entries] at member

theorem Learns.rememberMissing (learned : before.Learns made service) (read : .read .role id ∈ made)
    (lacks : before.store.LacksRole id) : before.Learns made
      { service with resolver := service.resolver.rememberMissing epoch id } := by
  unfold Resolver.rememberMissing
  split
  · refine ⟨by rw [learned.elsewhere], learned.privileges, fun other member => ?_⟩
    rcases Cache.Recent.mem_insert member with rfl | old
    · exact .inr ⟨read, lacks⟩
    · exact learned.missing other old
  · exact learned

theorem rememberPrivilege_learns {permission : Permission}
    (allowed : service.store.refusal? .privilege id = none) : service.Learns []
      { service with resolver := service.resolver.rememberPrivilege epoch id permission } := by
  unfold Resolver.rememberPrivilege
  split
  · refine ⟨rfl, fun entry member => ?_, fun _ => .inl⟩
    rcases Cache.Guarded.mem_insert member with rfl | old
    · exact .inr allowed
    · exact .inl old
  · exact .refl service

theorem grant_learns {privilege : Privilege} (allowed : service.store.refusal? .privilege id = none) :
    service.Learns []
      { service with resolver := (service.resolver.grant epoch id privilege).2 } := by
  unfold Resolver.grant
  split
  · exact .refl service
  · rename_i text _
    have created : service.Learns []
        { service with resolver := (service.resolver.create text).2 } :=
      ⟨rfl, fun _ => .inl, fun _ => .inl⟩
    cases made : service.resolver.create text with
    | mk result resolver =>
      rw [made] at created
      cases result with
      | error malformed => exact created
      | ok permission => exact created.trans (rememberPrivilege_learns allowed)

end Service

open Service

variable {service after : Service} {epoch : Nat} {id : String}

theorem alone_role {result : Except StoreFault Role}
    (ran : (Reads.alone.role id).run service = (result, after)) :
    service.store.readRole id = result ∧ service.Learns [.read .role id] after := by
  obtain ⟨told, rfl⟩ := Prod.mk.inj ran
  exact ⟨told, note_learns service (.read .role id)⟩

theorem alone_privilege {result : Except StoreFault Privilege}
    (ran : (Reads.alone.privilege id).run service = (result, after)) :
    service.store.readPrivilege id = result ∧ service.Learns [.read .privilege id] after := by
  obtain ⟨told, rfl⟩ := Prod.mk.inj ran
  exact ⟨told, note_learns service (.read .privilege id)⟩

theorem tells_one {store : Store} {kind : ReadKind} {told : Option StoreFault}
    (refusal : store.refusal? kind id = told) : store.Tells [.read kind id] told := by
  cases told with
  | some fault => exact ⟨kind, id, List.mem_singleton_self _, refusal⟩
  | none =>
    intro kind id member
    cases List.mem_singleton.mp member
    exact refusal

def Visit.fault : Visit → Option StoreFault
  | .failed fault => some fault
  | _ => none

-- The reads of a visit: one, unless the role is known to be missing.
def Service.visitReads (service : Service) (id : String) : List StoreUse :=
  if (service.resolver.knownMissing id).1 then [] else [.read .role id]

-- What a visit learns and how it ends, if the role is not known to be missing: it fails exactly if the
-- read of its role is refused.
theorem visit_reads {seen : Visit} (ran : (visit .alone epoch id).run service = (seen, after))
    (asks : (service.resolver.knownMissing id).1 = false) :
    service.Learns [.read .role id] after ∧ service.store.refusal? .role id = seen.fault := by
  have asked := askedMissing_learns service id
  cases visit_sees ran with
  | skipped missing => rw [asks] at missing; cases missing
  | absent _ read absent =>
    obtain ⟨told, noted⟩ := alone_role read
    have lacks : service.store.LacksRole id := ⟨_, told, absent⟩
    exact ⟨(asked.trans noted).rememberMissing (List.mem_singleton_self _) lacks, lacks.unrefused⟩
  | failed _ read refused =>
    obtain ⟨told, noted⟩ := alone_role read
    exact ⟨asked.trans noted, (congrArg refusalOf told).trans (refusalOf_refused refused)⟩
  | known _ read _ =>
    obtain ⟨told, noted⟩ := alone_role read
    exact ⟨asked.trans (noted.trans (askedRole_learns _ id)), congrArg refusalOf told⟩
  | entered _ read _ =>
    obtain ⟨told, noted⟩ := alone_role read
    exact ⟨asked.trans (noted.trans (askedRole_learns _ id)), congrArg refusalOf told⟩

theorem visit_skips {seen : Visit} (ran : (visit .alone epoch id).run service = (seen, after))
    (missing : (service.resolver.knownMissing id).1 = true) :
    seen = .missing ∧ after = service.askedMissing id := by
  cases visit_sees ran with
  | skipped _ => exact ⟨rfl, rfl⟩
  | absent asks _ _ | failed asks _ _ | known asks _ _ | entered asks _ _ =>
    rw [asks] at missing
    cases missing

theorem visit_learns {seen : Visit} (ran : (visit .alone epoch id).run service = (seen, after)) :
    service.Learns (service.visitReads id) after ∧
      service.store.Tells (service.visitReads id) seen.fault := by
  unfold visitReads
  cases asks : (service.resolver.knownMissing id).1 with
  | false =>
    obtain ⟨learned, told⟩ := visit_reads ran asks
    exact ⟨learned, tells_one told⟩
  | true =>
    obtain ⟨rfl, rfl⟩ := visit_skips ran asks
    exact ⟨askedMissing_learns service id, Store.tells_nothing⟩

inductive Grants (reads : Reads) (epoch : Nat) (service : Service) (id : String) :
    Except StoreFault (Option Permission) → Service → Prop
  | known {permission : Permission} : service.resolver.privileges.lookup id = some permission →
      Grants reads epoch service id (.ok (some permission)) (service.askedPrivilege id)
  | absent {fault : StoreFault} {read : Service} : service.resolver.privileges.lookup id = none →
      (reads.privilege id).run (service.askedPrivilege id) = (.error fault, read) →
      fault.isNotFound = true → Grants reads epoch service id (.ok none) read
  | failed {fault : StoreFault} {read : Service} : service.resolver.privileges.lookup id = none →
      (reads.privilege id).run (service.askedPrivilege id) = (.error fault, read) →
      fault.isNotFound = false → Grants reads epoch service id (.error fault) read
  | read {privilege : Privilege} {read : Service} : service.resolver.privileges.lookup id = none →
      (reads.privilege id).run (service.askedPrivilege id) = (.ok privilege, read) →
      Grants reads epoch service id (.ok (read.resolver.grant epoch id privilege).1)
        { read with resolver := (read.resolver.grant epoch id privilege).2 }

theorem granted_grants {reads : Reads} {result : Except StoreFault (Option Permission)}
    (ran : (granted reads epoch id).run service = (result, after)) :
    Grants reads epoch service id result after := by
  have looked : (onResolver (·.knownPrivilege id)).run service =
      (service.resolver.privileges.lookup id, service.askedPrivilege id) :=
    Prod.ext (Cache.Guarded.get_lookup _ id) rfl
  unfold granted at ran
  rw [run_bind, looked] at ran
  cases known : service.resolver.privileges.lookup id with
  | some permission =>
    rw [known] at ran
    cases ran
    exact .known known
  | none =>
    rw [known] at ran
    simp only [run_bind] at ran
    cases read : (reads.privilege id).run (service.askedPrivilege id) with
    | mk told between =>
      rw [read] at ran
      cases told with
      | error fault =>
        cases absent : fault.isNotFound with
        | true =>
          simp only [absent, if_true] at ran
          cases ran
          exact .absent known read absent
        | false =>
          simp only [absent, Bool.false_eq_true, if_false] at ran
          cases ran
          exact .failed known read absent
      | ok privilege =>
        simp only [run_bind] at ran
        cases ran
        exact .read known read

theorem granted_reads {result : Except StoreFault (Option Permission)}
    (ran : (granted .alone epoch id).run service = (result, after))
    (unknown : service.resolver.privileges.lookup id = none) :
    service.Learns [.read .privilege id] after ∧
      service.store.refusal? .privilege id = refusalOf result := by
  have asked := askedPrivilege_learns service id
  cases granted_grants ran with
  | known known => rw [unknown] at known; cases known
  | absent _ read absent =>
    obtain ⟨told, noted⟩ := alone_privilege read
    exact ⟨asked.trans noted, (congrArg refusalOf told).trans (refusalOf_absent absent)⟩
  | failed _ read refused =>
    obtain ⟨told, noted⟩ := alone_privilege read
    exact ⟨asked.trans noted, congrArg refusalOf told⟩
  | read _ read =>
    obtain ⟨told, noted⟩ := alone_privilege read
    have allowed : service.store.refusal? .privilege id = none := congrArg refusalOf told
    have learned := asked.trans noted
    exact ⟨learned.trans (grant_learns (by rw [learned.refusal?]; exact allowed)), allowed⟩

theorem granted_learns {result : Except StoreFault (Option Permission)}
    (ran : (granted .alone epoch id).run service = (result, after)) :
    ∃ made, service.Learns made after ∧ service.store.Tells made (refusalOf result) ∧
      made.filterMap StoreUse.role? = [] := by
  cases known : service.resolver.privileges.lookup id with
  | none =>
    obtain ⟨learned, told⟩ := granted_reads ran known
    exact ⟨_, learned, tells_one told, rfl⟩
  | some permission =>
    cases granted_grants ran with
    | known _ => exact ⟨[], askedPrivilege_learns service id, Store.tells_nothing, rfl⟩
    | absent unknown _ _ | failed unknown _ _ | read unknown _ =>
      rw [known] at unknown
      cases unknown

theorem granted_refused {fault : StoreFault}
    (ran : (granted .alone epoch id).run service = (.error fault, after)) :
    fault.isNotFound = false := by
  cases granted_grants ran with
  | failed _ _ refused => exact refused

theorem collectGranted_cons {reads : Reads} {ids : List String} {found : Holdings}
    {collected : Collected}
    (ran : (collectGranted reads epoch (id :: ids) found).run service = (collected, after)) :
    (∃ fault, (granted reads epoch id).run service = (.error fault, after) ∧
      collected = (found, some fault)) ∨
    ∃ grant between, (granted reads epoch id).run service = (.ok grant, between) ∧
      (collectGranted reads epoch ids (found.insertAll grant.toList)).run between =
        (collected, after) := by
  unfold collectGranted at ran
  rw [run_bind] at ran
  cases looked : (granted reads epoch id).run service with
  | mk result between =>
    rw [looked] at ran
    cases result with
    | error fault => cases ran; exact .inl ⟨fault, rfl, rfl⟩
    | ok grant =>
      cases grant with
      | none => exact .inr ⟨none, between, rfl, ran⟩
      | some permission => exact .inr ⟨some permission, between, rfl, ran⟩

theorem collectGranted_learns (ids : List String) : ∀ {service after : Service} {found : Holdings}
    {collected : Collected}, (collectGranted .alone epoch ids found).run service = (collected, after) →
      ∃ made, service.Learns made after ∧ service.store.Tells made collected.2 ∧
        made.filterMap StoreUse.role? = [] := by
  induction ids with
  | nil =>
    intro service after found collected ran
    cases ran
    exact ⟨[], .refl service, Store.tells_nothing, rfl⟩
  | cons id ids ih =>
    intro service after found collected ran
    rcases collectGranted_cons ran with ⟨fault, looked, rfl⟩ | ⟨grant, between, looked, rest⟩
    · obtain ⟨made, learned, told, roles⟩ := granted_learns looked
      rw [refusalOf_refused (granted_refused looked)] at told
      exact ⟨made, learned, told, roles⟩
    · obtain ⟨made, learned, told, roles⟩ := granted_learns looked
      obtain ⟨more, late, toldLate, rolesLate⟩ := ih rest
      rw [learned.tells] at toldLate
      refine ⟨more ++ made, learned.trans late, told.append toldLate, ?_⟩
      rw [List.filterMap_append, roles, rolesLate, List.append_nil]

def Turn.fault : Turn → Option StoreFault
  | .stop collected => collected.2
  | .on _ => none

theorem visitReads_asked {walk : Walk} {pending : List String} (first : walk.pending = id :: pending)
    (unseen : id ∉ walk.visited) :
    (service.visitReads id).filterMap StoreUse.role? = (Round.asks ⟨walk, service⟩).toList := by
  unfold visitReads Round.asks Round.visits
  cases missing : (service.resolver.knownMissing id).1 <;>
    simp [first, unseen, missing, StoreUse.role?, Option.filter]

theorem turn_learns {walk : Walk} {turned : Turn}
    (ran : (turn .alone epoch walk).run service = (turned, after)) :
    ∃ made, service.Learns made after ∧ service.store.Tells made turned.fault ∧
      made.filterMap StoreUse.role? = (Round.asks ⟨walk, service⟩).toList := by
  cases turns_of_run ran with
  | ended first =>
    refine ⟨[], .refl service, Store.tells_nothing, ?_⟩
    simp [Round.asks, Round.visits, first]
  | again first seen =>
    refine ⟨[], .refl service, Store.tells_nothing, ?_⟩
    simp [Round.asks, Round.visits, first, seen, Option.filter]
  | missing first unseen visited | known first unseen visited | failed first unseen visited =>
    obtain ⟨learned, told⟩ := visit_learns visited
    exact ⟨_, learned, told, visitReads_asked first unseen⟩
  | entered first unseen visited collected | broken first unseen visited collected =>
    obtain ⟨learned, told⟩ := visit_learns visited
    obtain ⟨more, late, toldLate, roles⟩ := collectGranted_learns _ collected
    rw [learned.tells] at toldLate
    refine ⟨more ++ _, learned.trans late, told.append toldLate, ?_⟩
    rw [List.filterMap_append, roles, List.nil_append, visitReads_asked first unseen]

namespace Search

variable {round : Round} {rounds : List Round} {collected : Collected}

-- The store is asked for the roles of the rounds in turn, and for no other role.
theorem learns (search : Search .alone epoch round rounds collected after) :
    ∃ made, round.service.Learns made after ∧ round.service.store.Tells made collected.2 ∧
      made.filterMap StoreUse.role? = (rounds.filterMap Round.asks).reverse := by
  induction search with
  | @stop round _ _ ran =>
    obtain ⟨made, learned, told, roles⟩ := turn_learns ran
    refine ⟨made, learned, told, roles.trans ?_⟩
    cases asked : round.asks <;> simp [asked]
  | @on round _ _ _ _ ran _ ih =>
    obtain ⟨made, learned, told, roles⟩ := turn_learns ran
    obtain ⟨more, late, toldLate, rolesLate⟩ := ih
    rw [learned.tells] at toldLate
    refine ⟨more ++ made, learned.trans late, told.append toldLate, ?_⟩
    rw [List.filterMap_append, roles, rolesLate]
    cases asked : round.asks <;> simp [asked]

end Search

theorem alone_decided : Reads.alone.Decided := fun _ _ => rfl

theorem alone_searches (epoch : Nat) (seed : String) (service : Service) :
    ∃ rounds, Search .alone epoch ⟨.startingAt seed, service⟩ rounds
      ((collect .alone epoch seed).run service).1 ((collect .alone epoch seed).run service).2 := by
  obtain ⟨rounds, _, _, search⟩ := walkOn_searches alone_decided
    (fun _ _ now => now.store.SameContents service.store) id
    (fun held ran => by
      obtain ⟨made, learned, _⟩ := turn_learns ran
      exact learned.contents.trans held)
    service.budget (startingAt_afforded service seed) (.refl service.store)
  exact ⟨rounds, search⟩

end RepositoryAccess
