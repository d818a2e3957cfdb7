import RepositoryAccess.Proofs.Learning

namespace RepositoryAccess
open RepositoryAccess.Text RepositoryAccess.Directory
open Act

namespace Service

-- A walk that visits the outer role goes on to the inner one.
def Opens (service : Service) (outer inner : String) : Prop :=
  service.resolver.roles.lookup outer = none ∧ service.store.Contains outer inner

def RefusesRole (service : Service) (id : String) : Prop :=
  service.store.refusal? .role id ≠ none ∧ id ∉ service.resolver.missing.keys

def RefusesPrivilege (service : Service) (id : String) : Prop :=
  service.store.refusal? .privilege id ≠ none ∧
    ∀ entry ∈ service.resolver.privileges.entries, entry.1 ≠ id

def Stops (service : Service) (id : String) : Prop :=
  service.RefusesRole id ∨ ∃ role, service.store.role? id = some role ∧
    service.resolver.roles.lookup id = none ∧
      ∃ privilege ∈ role.privileges, service.RefusesPrivilege privilege

def Blocked (service : Service) (seed : String) : Prop :=
  ∃ id, Relation.ReflTransGen service.Opens seed id ∧ service.Stops id

-- Roles that exist are not remembered as missing, and the store does not say so of them.
structure Truthful (service : Service) : Prop where
  tame : service.store.Tame
  missing : ∀ id ∈ service.resolver.missing.keys, service.store.role? id = none

variable {before after service : Service} {made : List StoreUse} {id seed : String}

namespace Learns

theorem opens (learned : before.Learns made after) : after.Opens = before.Opens := by
  funext outer inner
  unfold Opens
  rw [learned.roles, learned.contents.contains]

theorem refusesRole (learned : before.Learns made after) (refused : before.RefusesRole id) :
    after.RefusesRole id := by
  obtain ⟨refusal, unknown⟩ := refused
  refine ⟨by rw [learned.refusal?]; exact refusal, fun member => ?_⟩
  rcases learned.missing id member with old | ⟨_, lacks⟩
  · exact unknown old
  · exact refusal lacks.unrefused

theorem refusesPrivilege (learned : before.Learns made after) (refused : before.RefusesPrivilege id) :
    after.RefusesPrivilege id := by
  obtain ⟨refusal, unknown⟩ := refused
  refine ⟨by rw [learned.refusal?]; exact refusal, fun entry member same => ?_⟩
  rcases learned.privileges entry member with old | allowed
  · exact unknown entry old same
  · exact refusal (same ▸ allowed)

theorem stops (learned : before.Learns made after) (stops : before.Stops id) : after.Stops id := by
  rcases stops with role | ⟨role, isRole, unknown, privilege, member, refused⟩
  · exact .inl (learned.refusesRole role)
  · exact .inr ⟨role, (learned.contents.role? id).trans isRole, (learned.roles id).trans unknown,
      privilege, member, learned.refusesPrivilege refused⟩

theorem truthful (learned : before.Learns made after) (truthful : before.Truthful) :
    after.Truthful := by
  refine ⟨?_, fun id member => ?_⟩
  · rw [learned.store]
    exact ⟨truthful.tame.failures, truthful.tame.lock⟩
  · rw [learned.contents.role?]
    rcases learned.missing id member with old | ⟨_, fault, read, absent⟩
    · exact truthful.missing id old
    · exact Store.readRole_missing truthful.tame read absent

end Learns
end Service

open Service

variable {service after : Service} {epoch : Nat} {id seed : String}

theorem granted_stopped {result : Except StoreFault (Option Permission)}
    (refused : service.RefusesPrivilege id)
    (ran : (granted .alone epoch id).run service = (result, after)) :
    ∃ fault, result = .error fault := by
  have told := (granted_reads ran (Cache.Guarded.lookup_eq_none.mpr refused.2)).2
  cases result with
  | ok permission => exact absurd told refused.1
  | error fault => exact ⟨fault, rfl⟩

theorem granted_refuses {fault : StoreFault}
    (ran : (granted .alone epoch id).run service = (.error fault, after)) :
    service.RefusesPrivilege id := by
  cases granted_grants ran with
  | failed unknown _ refused =>
    refine ⟨?_, Cache.Guarded.lookup_eq_none.mp unknown⟩
    rw [(granted_reads ran unknown).2, refusalOf_refused refused]
    exact Option.some_ne_none fault

theorem collectGranted_stopped (ids : List String) : ∀ {service after : Service} {found : Holdings}
    {collected : Collected}, (∃ id ∈ ids, service.RefusesPrivilege id) →
      (collectGranted .alone epoch ids found).run service = (collected, after) →
      collected.2 ≠ none := by
  induction ids with
  | nil =>
    intro service after found collected refused _
    obtain ⟨id, impossible, _⟩ := refused
    cases impossible
  | cons id ids ih =>
    intro service after found collected refused ran
    obtain ⟨other, member, refused⟩ := refused
    rcases collectGranted_cons ran with ⟨fault, _, rfl⟩ | ⟨grant, between, looked, rest⟩
    · exact Option.some_ne_none fault
    · obtain ⟨made, learned, _⟩ := granted_learns looked
      refine ih ⟨other, ?_, learned.refusesPrivilege refused⟩ rest
      rcases List.mem_cons.mp member with rfl | later
      · obtain ⟨fault, impossible⟩ := granted_stopped refused looked
        cases impossible
      · exact later

theorem collectGranted_refuses (ids : List String) : ∀ {service after : Service}
    {found : Holdings} {collected : Collected} {fault : StoreFault},
      (collectGranted .alone epoch ids found).run service = (collected, after) →
      collected.2 = some fault → ∃ id ∈ ids, after.RefusesPrivilege id := by
  induction ids with
  | nil => intro _ _ _ _ _ ran failed; cases ran; cases failed
  | cons id ids ih =>
    intro service after found collected fault ran failed
    rcases collectGranted_cons ran with ⟨_, looked, _⟩ | ⟨grant, between, _, rest⟩
    · obtain ⟨made, learned, _⟩ := granted_learns looked
      exact ⟨id, List.mem_cons_self, learned.refusesPrivilege (granted_refuses looked)⟩
    · obtain ⟨other, member, refused⟩ := ih rest failed
      exact ⟨other, List.mem_cons_of_mem _ member, refused⟩

theorem visit_existing {seen : Visit} {role : Role} (truthful : service.Truthful)
    (isRole : service.store.role? id = some role)
    (ran : (visit .alone epoch id).run service = (seen, after)) :
    (∃ fault, seen = .failed fault) ∨
      (∃ permissions, seen = .known permissions ∧
        service.resolver.roles.lookup id = some permissions) ∨
      seen = .entered role := by
  cases visit_sees ran with
  | skipped missing =>
    rw [truthful.missing id (Resolver.mem_of_knownMissing missing)] at isRole
    cases isRole
  | absent _ read absent =>
    rw [Store.readRole_missing truthful.tame (alone_role read).1 absent] at isRole
    cases isRole
  | failed _ _ _ => exact .inl ⟨_, rfl⟩
  | known _ read known =>
    have same := ((askedMissing_learns service id).trans (alone_role read).2).roles id
    exact .inr (.inl ⟨_, rfl, same.symm.trans known⟩)
  | entered _ read _ =>
    cases isRole.symm.trans (Store.readRole_ok (alone_role read).1)
    exact .inr (.inr rfl)

theorem visit_stopped {seen : Visit} (truthful : service.Truthful) (stops : service.Stops id)
    (ran : (visit .alone epoch id).run service = (seen, after)) :
    (∃ fault, seen = .failed fault) ∨
      ∃ role, seen = .entered role ∧ ∃ privilege ∈ role.privileges, after.RefusesPrivilege privilege := by
  rcases stops with ⟨refused, unknown⟩ | ⟨role, isRole, unknown, privilege, member, refused⟩
  · have asks : (service.resolver.knownMissing id).1 = false :=
      Bool.eq_false_iff.mpr fun missing => unknown (Resolver.mem_of_knownMissing missing)
    rw [(visit_reads ran asks).2] at refused
    cases seen with
    | failed fault => exact .inl ⟨fault, rfl⟩
    | missing | known _ | entered _ => exact absurd rfl refused
  · rcases visit_existing truthful isRole ran with failed | ⟨_, _, known⟩ | rfl
    · exact .inl failed
    · rw [unknown] at known
      cases known
    · exact .inr ⟨role, rfl, privilege, member, (visit_learns ran).1.refusesPrivilege refused⟩

variable {walk next : Walk}

theorem turn_stopped {turned : Turn} {pending : List String} (truthful : service.Truthful)
    (first : walk.pending = id :: pending) (unseen : id ∉ walk.visited) (stops : service.Stops id)
    (ran : (turn .alone epoch walk).run service = (turned, after)) : turned.fault ≠ none := by
  cases turns_of_run ran with
  | ended empty => rw [first] at empty; cases empty
  | again same seen =>
    cases first.symm.trans same
    exact absurd seen unseen
  | missing same _ visited | known same _ visited =>
    cases first.symm.trans same
    obtain ⟨_, impossible⟩ | ⟨_, impossible, _⟩ := visit_stopped truthful stops visited <;>
      cases impossible
  | failed _ _ _ => exact Option.some_ne_none _
  | broken _ _ _ _ => exact Option.some_ne_none _
  | entered same _ visited collected =>
    cases first.symm.trans same
    rcases visit_stopped truthful stops visited with ⟨_, impossible⟩ | ⟨role, same, refused⟩
    · cases impossible
    · cases same
      exact absurd rfl (collectGranted_stopped _ refused collected)

theorem visit_refuses {fault : StoreFault}
    (ran : (visit .alone epoch id).run service = (.failed fault, after)) : after.RefusesRole id := by
  cases visit_sees ran with
  | failed asks read refused =>
    obtain ⟨told, learned⟩ := alone_role read
    refine learned.refusesRole ⟨?_, Cache.Recent.not_mem_of_contains asks⟩
    have refusal : (service.askedMissing id).store.refusal? .role id = some fault :=
      (congrArg refusalOf told).trans (refusalOf_refused refused)
    rw [refusal]
    exact Option.some_ne_none fault

theorem turn_stops {collected : Collected} {fault : StoreFault}
    (ran : (turn .alone epoch walk).run service = (.stop collected, after))
    (failed : collected.2 = some fault) : ∃ id ∈ walk.pending, after.Stops id := by
  cases turns_of_run ran with
  | ended _ => cases failed
  | failed first _ visited =>
    exact ⟨_, by rw [first]; exact List.mem_cons_self, .inl (visit_refuses visited)⟩
  | @broken id _ role _ _ between _ first _ visited refused =>
    obtain ⟨_, isRole, unknown⟩ := visit_entered alone_decided visited
    obtain ⟨made, learned, _⟩ := collectGranted_learns _ refused
    have entered := (visit_learns visited).1
    refine ⟨id, by rw [first]; exact List.mem_cons_self, .inr ⟨role, ?_, ?_, ?_⟩⟩
    · rw [learned.contents.role?, entered.contents.role?]
      exact isRole
    · exact (learned.roles id).trans unknown
    · exact collectGranted_refuses _ refused failed

-- The seed has its turn, and so has all that the visited roles open up.
structure Walk.Covering (walk : Walk) (service : Service) (seed : String) : Prop where
  begun : seed ∈ walk.pending ∨ seed ∈ walk.visited
  opened : ∀ outer ∈ walk.visited, ∀ inner, service.Opens outer inner →
    inner ∈ walk.pending ∨ inner ∈ walk.visited

theorem turn_opens {pending : List String} {inner : String} (truthful : service.Truthful)
    (turns : Turns .alone epoch walk service (.on next) after) (first : walk.pending = id :: pending)
    (unseen : id ∉ walk.visited) (opens : service.Opens id inner) :
    inner ∈ next.pending ∨ inner ∈ next.visited := by
  obtain ⟨unknown, role, isRole, contained⟩ := opens
  cases turns with
  | again same seen =>
    cases first.symm.trans same
    exact absurd seen unseen
  | missing same _ visited =>
    cases first.symm.trans same
    obtain ⟨_, impossible⟩ | ⟨_, impossible, _⟩ | impossible := visit_existing truthful isRole visited <;>
      cases impossible
  | known same _ visited =>
    cases first.symm.trans same
    rcases visit_existing truthful isRole visited with ⟨_, impossible⟩ | ⟨_, _, known⟩ | impossible
    · cases impossible
    · rw [unknown] at known
      cases known
    · cases impossible
  | entered same _ visited _ =>
    cases first.symm.trans same
    rcases visit_existing truthful isRole visited with ⟨_, impossible⟩ | ⟨_, impossible, _⟩ | same
    · cases impossible
    · cases impossible
    · cases same
      by_cases seen : inner ∈ id :: walk.visited
      · exact .inr seen
      · exact .inl (List.mem_append_right _ (List.mem_filter.mpr ⟨contained, decide_eq_true seen⟩))

theorem Walk.Covering.turn (covering : walk.Covering service seed) (truthful : service.Truthful)
    (ran : (turn .alone epoch walk).run service = (.on next, after)) : next.Covering after seed := by
  have turns := turns_of_run ran
  obtain ⟨made, learned, _⟩ := turn_learns ran
  have waiting : ∀ other ∈ walk.pending.tail, other ∈ next.pending := by
    intro other member
    rcases turns.follows alone_decided with rest | ⟨_, _, _, _, _, _, _, rest⟩
    · exact rest ▸ member
    · exact rest ▸ List.mem_append_left _ member
  have places : ∀ other, other ∈ walk.pending ∨ other ∈ walk.visited →
      other ∈ next.pending ∨ other ∈ next.visited := by
    intro other placed
    rcases placed with member | before
    · cases first : walk.pending with
      | nil => rw [first] at member; cases member
      | cons head tail =>
        rw [first] at member waiting
        rcases List.mem_cons.mp member with rfl | later
        · exact .inr ((turns.visited other).mpr (.inl (by rw [first]; rfl)))
        · exact .inl (waiting other later)
    · exact .inr ((turns.visited other).mpr (.inr before))
  refine ⟨places seed covering.begun, fun outer member inner opens => ?_⟩
  rw [learned.opens] at opens
  by_cases seen : outer ∈ walk.visited
  · exact places inner (covering.opened outer seen inner opens)
  · have head := ((turns.visited outer).mp member).resolve_right seen
    obtain ⟨pending, first⟩ := List.head?_eq_some_iff.mp head
    exact turn_opens truthful turns first seen opens

namespace Search

variable {round : Round} {rounds : List Round} {collected : Collected}

-- A walk from a seed that is blocked does not succeed.
theorem blocked (search : Search .alone epoch round rounds collected after)
    (truthful : round.service.Truthful) (covering : round.walk.Covering round.service seed)
    (path : Relation.ReflTransGen round.service.Opens seed id) (stops : round.service.Stops id)
    (unseen : id ∉ round.walk.visited) : collected.2 ≠ none := by
  induction search with
  | @stop round collected after ran =>
    intro complete
    cases turns_of_run ran with
    | ended first =>
      have closed : ∀ {other}, Relation.ReflTransGen round.service.Opens seed other →
          other ∈ round.walk.visited := by
        intro other path
        induction path with
        | refl =>
          refine covering.begun.resolve_left fun waits => ?_
          rw [first] at waits
          cases waits
        | tail _ opens ih =>
          refine (covering.opened _ ih _ opens).resolve_left fun waits => ?_
          rw [first] at waits
          cases waits
      exact unseen (closed path)
    | failed _ _ _ => cases complete
    | broken _ _ _ _ => cases complete
  | @on round next rounds collected after ran _ ih =>
    obtain ⟨made, learned, _⟩ := turn_learns ran
    refine ih (learned.truthful truthful) (covering.turn truthful ran) ?_ (learned.stops stops) ?_
    · rw [learned.opens]
      exact path
    · intro seen
      have head := (((turns_of_run ran).visited id).mp seen).resolve_right unseen
      obtain ⟨pending, first⟩ := List.head?_eq_some_iff.mp head
      exact turn_stopped truthful first unseen stops ran rfl

theorem blocks (search : Search .alone epoch round rounds collected after)
    (reached : ∀ id ∈ round.walk.pending, Relation.ReflTransGen round.service.Opens seed id)
    {fault : StoreFault} (failed : collected.2 = some fault) : after.Blocked seed := by
  induction search with
  | @stop round collected after ran =>
    obtain ⟨made, learned, _⟩ := turn_learns ran
    obtain ⟨id, waits, stops⟩ := turn_stops ran failed
    refine ⟨id, ?_, stops⟩
    rw [learned.opens]
    exact reached id waits
  | @on round next rounds collected after ran _ ih =>
    obtain ⟨made, learned, _⟩ := turn_learns ran
    refine ih (fun inner waits => ?_) failed
    rw [learned.opens]
    rcases (turns_of_run ran).follows alone_decided with rest |
      ⟨outer, role, between, asked, visited, isRole, unknown, rest⟩
    · rw [rest] at waits
      exact reached inner (List.mem_of_mem_tail waits)
    · rw [rest] at waits
      rcases List.mem_append.mp waits with before | contained
      · exact reached inner (List.mem_of_mem_tail before)
      · obtain ⟨pending, head, _, _⟩ := Round.asks_iff.mp asked
        have closer := reached outer (by rw [head]; exact List.mem_cons_self)
        have unstored := ((visit_learns visited).1.roles outer).symm.trans unknown
        exact closer.tail ⟨unstored, role, isRole, (List.mem_filter.mp contained).1⟩

end Search

end RepositoryAccess
