import RepositoryAccess.Proofs.Learning
import RepositoryAccess.Proofs.Layers
import RepositoryAccess.Proofs.Freshness

namespace RepositoryAccess
open RepositoryAccess.Text RepositoryAccess.Directory
open Service Act

namespace Service

def yielded (service : Service) (id : String) : Option Permission := do
  let privilege ← service.store.privilege? id
  let text ← Resolver.grantText service.resolver.descriptors privilege
  (Permission.parse text).toOption

def ownGrants (service : Service) (id : String) : List Permission :=
  match service.store.role? id with
  | some role => role.privileges.names.filterMap service.yielded
  | none => []

variable {service after : Service} {id : String} {permission : Permission}

theorem yields_iff : service.Yields id permission ↔ service.yielded id = some permission := by
  simp only [Yields, yielded, Option.bind_eq_bind, Option.bind_eq_some_iff]
  constructor
  · rintro ⟨privilege, text, found, stood, parsed⟩
    exact ⟨privilege, found, text, stood, by rw [parsed]; rfl⟩
  · rintro ⟨privilege, found, text, stood, parsed⟩
    refine ⟨privilege, text, found, stood, ?_⟩
    cases read : Permission.parse text with
    | ok made => rw [read] at parsed; exact congrArg _ (Option.some.inj parsed)
    | error malformed => rw [read] at parsed; cases parsed

-- What is remembered of privileges is right, and so is what the mint makes.
structure Informed (service : Service) : Prop where
  minted : service.resolver.mint.Faithful
  privileges : ∀ entry ∈ service.resolver.privileges.entries, service.Yields entry.1 entry.2

variable {before : Service} {made : List StoreUse}

theorem Learns.yields (learned : before.Learns made after) : after.Yields = before.Yields :=
  yields_congr learned.contents learned.descriptors

theorem Learns.yielded (learned : before.Learns made after) : after.yielded = before.yielded := by
  rw [learned.elsewhere]
  rfl

theorem Learns.failures (learned : before.Learns made after) :
    after.store.failures = before.store.failures := by rw [learned.store]

theorem Informed.congr (informed : before.Informed) (learned : before.Learns made after)
    (minted : after.resolver.mint = before.resolver.mint)
    (privileges : after.resolver.privileges.entries = before.resolver.privileges.entries) :
    after.Informed := by
  refine ⟨by rw [minted]; exact informed.minted, fun entry member => ?_⟩
  rw [learned.yields]
  exact informed.privileges entry (privileges ▸ member)

theorem Informed.fades (informed : service.Informed) {resolver : Resolver}
    (fades : service.resolver.Fades resolver) : Informed { service with resolver } := by
  have same : Yields { service with resolver } = service.Yields :=
    yields_congr (.refl _) fades.descriptors
  refine ⟨fades.minted informed.minted, fun entry member => ?_⟩
  rw [same]
  exact informed.privileges entry (fades.privileges entry member)

theorem Informed.rememberMissing (informed : service.Informed) (epoch : Nat) (id : String) :
    Informed { service with resolver := service.resolver.rememberMissing epoch id } := by
  unfold Resolver.rememberMissing
  split
  · exact ⟨informed.minted, informed.privileges⟩
  · exact informed

theorem Informed.rememberPrivilege (informed : service.Informed) (epoch : Nat)
    (yields : service.Yields id permission) :
    Informed { service with
      resolver := service.resolver.rememberPrivilege epoch id permission } := by
  unfold Resolver.rememberPrivilege
  split
  · refine ⟨informed.minted, fun entry member => ?_⟩
    rcases Cache.Guarded.mem_insert member with rfl | old
    · exact yields
    · exact informed.privileges entry old
  · exact informed

theorem Informed.grant (informed : service.Informed) (epoch : Nat) {privilege : Privilege}
    (found : service.store.privilege? id = some privilege) :
    (service.resolver.grant epoch id privilege).1 = service.yielded id ∧
      Informed { service with resolver := (service.resolver.grant epoch id privilege).2 } := by
  rcases Resolver.grant_cases informed.minted epoch id privilege with
    ⟨text, permission, faded, stood, parsed, fades, result⟩ | ⟨nothing, faded, fades, result⟩
  · have yields : service.Yields id permission := ⟨privilege, text, found, stood, parsed⟩
    rw [result]
    refine ⟨(yields_iff.mp yields).symm, (informed.fades fades).rememberPrivilege epoch ?_⟩
    exact ⟨privilege, text, found, by rw [fades.descriptors]; exact stood, parsed⟩
  · have yields_nothing : service.yielded id = none := by
      refine Option.eq_none_iff_forall_not_mem.mpr fun permission yielded => ?_
      obtain ⟨other, text, isFound, stood, parsed⟩ := yields_iff.mpr yielded
      cases found.symm.trans isFound
      exact nothing text permission stood parsed
    rw [result]
    exact ⟨yields_nothing.symm, informed.fades fades⟩

end Service

open Service

variable {service after : Service} {epoch : Nat} {id : String}

theorem granted_informed {result : Except StoreFault (Option Permission)}
    (informed : service.Informed) (unfailing : service.store.failures = [])
    (ran : (granted .alone epoch id).run service = (result, after)) :
    result = .ok (service.yielded id) ∧ after.Informed := by
  have asked := informed.congr (askedPrivilege_learns service id) rfl (askedPrivilege_entries service id)
  have noted := asked.congr (note_learns _ (.read .privilege id)) rfl rfl
  cases granted_grants ran with
  | known known =>
    have yielded := yields_iff.mp (informed.privileges _ (Cache.Guarded.mem_of_lookup known))
    exact ⟨by rw [yielded], asked⟩
  | absent _ read absent =>
    obtain ⟨told, rfl⟩ := Prod.mk.inj read
    have missing : service.store.privilege? id = none := (Store.readPrivilege_absent unfailing told).1
    refine ⟨congrArg Except.ok ?_, noted⟩
    simp [yielded, missing]
  | failed _ read refused =>
    obtain ⟨told, rfl⟩ := Prod.mk.inj read
    rw [(Store.readPrivilege_absent unfailing told).2] at refused
    cases refused
  | read _ read =>
    obtain ⟨told, rfl⟩ := Prod.mk.inj read
    obtain ⟨result, learned⟩ := noted.grant epoch (Store.readPrivilege_ok told)
    exact ⟨congrArg Except.ok result, learned⟩

theorem collectGranted_informed (ids : List String) : ∀ {service after : Service} {found : Holdings}
    {collected : Collected}, service.Informed → service.store.failures = [] →
      (collectGranted .alone epoch ids found).run service = (collected, after) →
      collected = (found.insertAll (ids.filterMap service.yielded), none) ∧ after.Informed := by
  induction ids with
  | nil =>
    intro service after found collected informed _ ran
    cases ran
    exact ⟨rfl, informed⟩
  | cons id ids ih =>
    intro service after found collected informed unfailing ran
    rcases collectGranted_cons ran with ⟨fault, looked, _⟩ | ⟨grant, between, looked, rest⟩
    · obtain ⟨impossible, _⟩ := granted_informed informed unfailing looked
      cases impossible
    · obtain ⟨result, next⟩ := granted_informed informed unfailing looked
      obtain ⟨made, learned, _⟩ := granted_learns looked
      obtain ⟨rfl, last⟩ := ih next (learned.failures.trans unfailing) rest
      cases Except.ok.inj result
      refine ⟨?_, last⟩
      rw [learned.yielded]
      cases yielded : service.yielded id with
      | none => rw [List.filterMap_cons_none yielded]; rfl
      | some permission => rw [List.filterMap_cons_some yielded]; rfl

theorem visit_informed {seen : Visit} (informed : service.Informed)
    (unfailing : service.store.failures = [])
    (unknown : service.resolver.roles.lookup id = none)
    (asks : (service.resolver.knownMissing id).1 = false)
    (ran : (visit .alone epoch id).run service = (seen, after)) : after.Informed ∧
      (seen = .missing ∧ service.store.role? id = none ∨
        ∃ role, seen = .entered role ∧ service.store.role? id = some role) := by
  have asked := informed.congr (askedMissing_learns service id) rfl rfl
  have noted := asked.congr (note_learns _ (.read .role id)) rfl rfl
  cases visit_sees ran with
  | skipped missing => rw [asks] at missing; cases missing
  | absent _ read absent =>
    obtain ⟨told, rfl⟩ := Prod.mk.inj read
    exact ⟨noted.rememberMissing epoch id, .inl ⟨rfl, (Store.readRole_absent unfailing told).1⟩⟩
  | failed _ read refused =>
    obtain ⟨told, rfl⟩ := Prod.mk.inj read
    rw [(Store.readRole_absent unfailing told).2] at refused
    cases refused
  | known _ read known =>
    obtain ⟨_, rfl⟩ := Prod.mk.inj read
    rw [show service.resolver.roles.lookup id = _ from known] at unknown
    cases unknown
  | entered _ read _ =>
    obtain ⟨told, rfl⟩ := Prod.mk.inj read
    exact ⟨noted.congr (askedRole_learns _ id) rfl rfl, .inr ⟨_, rfl, Store.readRole_ok told⟩⟩

def Directory.Store.innerRoles (store : Store) (id : String) : List String :=
  match store.role? id with
  | some role => role.roles.names
  | none => []

theorem contains_iff {store : Store} {outer inner : String} :
    store.Contains outer inner ↔ inner ∈ store.innerRoles outer := by
  unfold Store.Contains Store.innerRoles
  cases store.role? outer with
  | none => simp
  | some role => simp [NameSet.mem_iff]

def Walk.through (walk : Walk) (origin : Service) (id : String) (pending : List String) : Walk where
  pending := pending ++ (origin.store.innerRoles id).filter (· ∉ id :: walk.visited)
  visited := id :: walk.visited
  found := walk.found.insertAll (origin.ownGrants id)

-- A round of a walk that found the caches empty at its beginning and has been alone since.
structure Clear (origin : Service) (round : Round) : Prop where
  learned : ∃ made, origin.Learns made round.service
  informed : round.service.Informed
  missing : ∀ id ∈ round.service.resolver.missing.keys, id ∈ round.walk.visited

variable {origin : Service} {walk : Walk}

theorem Clear.visit {seen : Visit} (clear : Clear origin ⟨walk, service⟩)
    (unfailing : origin.store.failures = [])
    (unknown : ∀ id, origin.resolver.roles.lookup id = none) (unseen : id ∉ walk.visited)
    (ran : (visit .alone epoch id).run service = (seen, after)) :
    (service.resolver.knownMissing id).1 = false ∧
      (∀ next : Walk, next.visited = id :: walk.visited → Clear origin ⟨next, after⟩) ∧
      (seen = .missing ∧ origin.store.role? id = none ∨
        ∃ role, seen = .entered role ∧ origin.store.role? id = some role) := by
  obtain ⟨made, learned⟩ := clear.learned
  have asks : (service.resolver.knownMissing id).1 = false := by
    cases missing : (service.resolver.knownMissing id).1 with
    | false => rfl
    | true => exact absurd (clear.missing id (Resolver.mem_of_knownMissing missing)) unseen
  have read := (visit_reads ran asks).1
  obtain ⟨informed, result⟩ := visit_informed clear.informed (learned.failures.trans unfailing)
    ((learned.roles id).trans (unknown id)) asks ran
  rw [learned.contents.role?] at result
  refine ⟨asks, fun next visited => ⟨⟨_, learned.trans read⟩, informed, fun other member => ?_⟩, result⟩
  show other ∈ next.visited
  rw [visited]
  rcases read.missing other member with before | ⟨new, _⟩
  · exact List.mem_cons_of_mem _ (clear.missing other before)
  · cases List.mem_singleton.mp new
    exact List.mem_cons_self

theorem Clear.collect {role : Role} {collected : Collected} {between : Service} {next : Walk}
    (clear : Clear origin ⟨next, between⟩) (unfailing : origin.store.failures = [])
    (isRole : origin.store.role? id = some role) (found : Holdings)
    (ran : (collectGranted .alone epoch role.privileges.names found).run between =
      (collected, after)) :
    collected = (found.insertAll (origin.ownGrants id), none) ∧ Clear origin ⟨next, after⟩ := by
  obtain ⟨made, learned⟩ := clear.learned
  obtain ⟨result, informed⟩ := collectGranted_informed _ clear.informed
    (learned.failures.trans unfailing) ran
  obtain ⟨more, late, _, roles⟩ := collectGranted_learns _ ran
  have grants : origin.ownGrants id = role.privileges.names.filterMap between.yielded := by
    unfold ownGrants
    rw [isRole, learned.yielded]
  refine ⟨by rw [result, grants], ⟨_, learned.trans late⟩, informed, fun other member => ?_⟩
  rcases late.missing other member with before | ⟨new, _⟩
  · exact clear.missing other before
  · have read : other ∈ more.filterMap StoreUse.role? := List.mem_filterMap.mpr ⟨_, new, rfl⟩
    rw [roles] at read
    cases read

theorem Clear.turn {turned : Turn} (clear : Clear origin ⟨walk, service⟩)
    (unfailing : origin.store.failures = [])
    (unknown : ∀ id, origin.resolver.roles.lookup id = none)
    (ran : (turn .alone epoch walk).run service = (turned, after)) :
    walk.pending = [] ∧ turned = .stop (walk.found, none) ∨
    ∃ id pending next, walk.pending = id :: pending ∧ turned = .on next ∧ Clear origin ⟨next, after⟩ ∧
      (id ∈ walk.visited ∧ next = { walk with pending } ∨ id ∉ walk.visited ∧
        Round.asks ⟨walk, service⟩ = some id ∧ next = walk.through origin id pending) := by
  cases turns_of_run ran with
  | ended first => exact .inl ⟨first, rfl⟩
  | again first seen =>
    exact .inr ⟨_, _, _, first, rfl, ⟨clear.learned, clear.informed, clear.missing⟩, .inl ⟨seen, rfl⟩⟩
  | @missing id pending after first unseen ran =>
    obtain ⟨asks, left, ⟨_, absent⟩ | ⟨_, impossible, _⟩⟩ := clear.visit unfailing unknown unseen ran
    · refine .inr ⟨id, pending, _, first, rfl, left _ rfl, .inr ⟨unseen, ?_, ?_⟩⟩
      · exact Round.asks_iff.mpr ⟨pending, first, unseen, asks⟩
      · simp [Walk.past, Walk.through, Store.innerRoles, ownGrants, absent, Holdings.insertAll]
    · cases impossible
  | known first unseen ran =>
    obtain ⟨_, _, ⟨impossible, _⟩ | ⟨_, impossible, _⟩⟩ := clear.visit unfailing unknown unseen ran <;>
      cases impossible
  | failed first unseen ran =>
    obtain ⟨_, _, ⟨impossible, _⟩ | ⟨_, impossible, _⟩⟩ := clear.visit unfailing unknown unseen ran <;>
      cases impossible
  | @entered id pending role found between after first unseen entered collected =>
    obtain ⟨asks, left, ⟨impossible, _⟩ | ⟨_, same, isRole⟩⟩ := clear.visit unfailing unknown unseen entered
    · cases impossible
    · cases same
      have there := left (walk.through origin id pending) rfl
      obtain ⟨result, clear⟩ := there.collect unfailing isRole walk.found collected
      have next : { walk.past id pending with
          pending := (walk.past id pending).enter role, found } = walk.through origin id pending := by
        simp [Walk.past, Walk.enter, Walk.through, Store.innerRoles, isRole, (Prod.mk.inj result).1]
      refine .inr ⟨id, pending, _, first, rfl, ?_, .inr ⟨unseen, ?_, next⟩⟩
      · rw [next]; exact clear
      · exact Round.asks_iff.mpr ⟨pending, first, unseen, asks⟩
  | @broken id _ role found fault _ _ first unseen entered collected =>
    obtain ⟨_, left, ⟨impossible, _⟩ | ⟨_, same, isRole⟩⟩ := clear.visit unfailing unknown unseen entered
    · cases impossible
    · cases same
      obtain ⟨result, _⟩ := (left (walk.through origin id []) rfl).collect unfailing isRole _ collected
      cases result

theorem through_layered {seed : String} {steps : Nat} {near far : List String}
    (layered : walk.Layered origin.store seed steps (id :: near) far) :
    (walk.through origin id (near ++ far)).Layered origin.store seed steps near
      (far ++ (origin.store.innerRoles id).filter (· ∉ id :: walk.visited)) := by
  refine layered.advance rfl rfl ?_ ?_
  · intro inner member
    exact contains_iff.mpr (List.mem_filter.mp member).1
  · intro inner contained
    by_cases seen : inner ∈ id :: walk.visited
    · exact .inl seen
    · exact .inr (List.mem_filter.mpr ⟨contains_iff.mp contained, by simpa using seen⟩)

namespace Search

variable {round : Round} {rounds : List Round} {collected : Collected} {seed : String}

-- Roles are read in the order of their distance from the seed, until all have been read that can be
-- reached; and what is found is put together in that order.
theorem breadth_first (search : Search .alone epoch round rounds collected after)
    (unfailing : origin.store.failures = [])
    (unknown : ∀ id, origin.resolver.roles.lookup id = none) (clear : Clear origin round)
    (layered : ∃ steps near far, round.walk.Layered origin.store seed steps near far) :
    (rounds.filterMap Round.asks).Pairwise (fun first second => ∀ steps,
        origin.store.Within seed steps second → origin.store.Within seed steps first) ∧
      (∀ id, origin.store.Reaches seed id →
        id ∈ round.walk.visited ∨ id ∈ rounds.filterMap Round.asks) ∧
      collected = (round.walk.found.insertAll
        ((rounds.filterMap Round.asks).flatMap origin.ownGrants), none) := by
  obtain ⟨steps, near, far, layered⟩ := layered
  have once := search.asked_once.2
  induction search generalizing steps near far with
  | @stop round collected after ran =>
    rcases clear.turn unfailing unknown ran with ⟨ended, result⟩ | ⟨_, _, _, _, impossible, _⟩
    · have nothing : round.asks = none := by simp [Round.asks, Round.visits, ended]
      cases result
      simp only [List.filterMap_cons_none nothing, List.filterMap_nil]
      exact ⟨.nil, fun id reached => .inl (layered.finished ended reached), rfl⟩
    · cases impossible
  | @on round next rounds collected after ran search ih =>
    rcases clear.turn unfailing unknown ran with
      ⟨_, impossible⟩ | ⟨id, pending, _, first, same, there, outcome⟩
    · cases impossible
    · cases same
      obtain ⟨steps, near, far, rfl, layered⟩ := layered.front first
      have later := search.asked_once.2
      rcases outcome with ⟨seen, again⟩ | ⟨unseen, asks, through⟩
      · have nothing : round.asks = none := by
          simp [Round.asks, Round.visits, first, seen, Option.filter]
        have next_layered := layered.again seen
        rw [← again] at next_layered
        obtain ⟨order, complete, result⟩ := ih there _ _ _ next_layered later
        rw [again] at complete result
        rw [List.filterMap_cons_none nothing]
        exact ⟨order, complete, result⟩
      · have next_layered := through_layered layered
        rw [← through] at next_layered
        obtain ⟨order, complete, result⟩ := ih there _ _ _ next_layered later
        rw [through] at complete result
        rw [List.filterMap_cons_some asks] at once ⊢
        refine ⟨List.pairwise_cons.mpr ⟨?_, order⟩, ?_, ?_⟩
        · intro other member steps within
          exact layered.nearest (once other (List.mem_cons_of_mem _ member)) within
        · intro other reached
          rcases complete other reached with visited | asked
          · rcases List.mem_cons.mp visited with rfl | before
            · exact .inr List.mem_cons_self
            · exact .inl before
          · exact .inr (List.mem_cons_of_mem _ asked)
        · rw [result, List.flatMap_cons]
          simp only [Walk.through, Holdings.insertAll, List.foldl_append]

end Search

-- However the store is linked and whatever the caches hold, a walk comes to its end if the store stays
-- as it is, and reads no role twice.  If the walk is alone, the reads that the store takes note of are
-- these; if besides it finds the caches empty and the store answers every read, it reads all roles that
-- can be reached, the closer ones first.
theorem roles_read_once (perform : Step → Act Answer) (service : Service) (epoch : Nat) (seed : String) :
    let reads := interruptedReads perform
    (∀ moment ∈ (collect reads epoch seed).moments service,
      moment.store.SameContents service.store) →
    ∃ rounds collected after, let asked := rounds.filterMap Round.asks
      (collect reads epoch seed).run service = (collected, after) ∧
      Search reads epoch ⟨.startingAt seed, service⟩ rounds collected after ∧
      (∀ more, (walkOn reads epoch (rounds.length + more) (.startingAt seed)).run service =
        (collected, after)) ∧
      asked.Nodup ∧ (∀ id ∈ asked, service.store.Reaches seed id) ∧
      (∀ round ∈ rounds, ∀ role, (∀ id, round.asks = some id → role id = reads.role id) →
        (turn { reads with role } epoch round.walk).run round.service =
          (turn reads epoch round.walk).run round.service) ∧
      (∀ round ∈ rounds, ∀ id, round.asks = some id →
        (round.service.resolver.knownMissing id).1 = false) ∧
      rounds.IsChain (Round.Follows reads epoch) ∧
      ((∀ moment ∈ (collect reads epoch seed).moments service,
          moment.interruptions = service.interruptions) →
        after.store.uses.filterMap StoreUse.role? =
          asked.reverse ++ service.store.uses.filterMap StoreUse.role? ∧
        (service.resolver.roles.entries = [] → service.resolver.privileges.entries = [] →
          service.resolver.missing.entries = [] → service.resolver.mint.Faithful →
          service.store.failures = [] →
          (∀ id, id ∈ asked ↔ service.store.Reaches seed id) ∧
          asked.Pairwise (fun first second => ∀ steps,
            service.store.Within seed steps second → service.store.Within seed steps first) ∧
          collected.2 = none ∧ collected.1.FirstSeen (asked.flatMap service.ownGrants))) := by
  intro reads unchanged
  have decided := interruptedReads_decided perform
  obtain ⟨rounds, bounded, steady, search⟩ := collect_searches decided unchanged
  cases ran : (collect reads epoch seed).run service with
  | mk collected after =>
    rw [ran] at search
    have pending : ∀ round ∈ rounds, ∀ id ∈ round.walk.pending, service.store.Reaches seed id := by
      refine search.reached decided steady fun id member => ?_
      rw [List.mem_singleton.mp member]
      exact .refl
    have reached : ∀ id ∈ rounds.filterMap Round.asks, service.store.Reaches seed id := by
      intro id member
      obtain ⟨round, isRound, asks⟩ := List.mem_filterMap.mp member
      obtain ⟨rest, first, _⟩ := Round.asks_iff.mp asks
      exact pending round isRound id (by rw [first]; exact List.mem_cons_self)
    refine ⟨rounds, collected, after, rfl, search, search.runs, search.asked_once.1, reached, ?_, ?_,
      search.follows decided, fun quiet => ?_⟩
    · intro round _ role same
      exact turn_congr same
    · intro round _ id asks
      obtain ⟨_, _, _, present⟩ := Round.asks_iff.mp asks
      exact present
    have alone := search.alone bounded rfl quiet
    refine ⟨?_, fun roles privileges missing minted unfailing => ?_⟩
    · obtain ⟨made, learned, _, asked⟩ := alone.learns
      rw [learned.uses, List.filterMap_append, asked]
    · have unknown : ∀ id, service.resolver.roles.lookup id = none :=
        fun id => by simp [Cache.Guarded.lookup, roles]
      have informed : service.Informed :=
        ⟨minted, fun entry member => by rw [privileges] at member; cases member⟩
      have clear : Clear service ⟨.startingAt seed, service⟩ := by
        refine ⟨⟨[], .refl service⟩, informed, fun id member => ?_⟩
        rw [Cache.Recent.keys, missing] at member
        cases member
      obtain ⟨order, complete, rfl⟩ := alone.breadth_first unfailing unknown clear
        ⟨0, [seed], [], Walk.startingAt_layered _ seed⟩
      refine ⟨fun id => ⟨reached id, fun path => ?_⟩, order, rfl, Holdings.ofList_firstSeen _⟩
      exact (complete id path).resolve_left List.not_mem_nil

-- A role in itself, roles in a circle, a role that is contained in two others, and one that is missing.
def woven : Service := .new {} Descriptor.builtIn {
  roles := [.new "top" ["a"] ["left", "right"], .new "left" ["b"] ["base", "left"],
    .new "right" ["c", "a"] ["base", "top"], .new "base" ["c"] ["ghost"]]
  privileges := [
    .new "a" "method" [("permission", "target"), ("method", "read")],
    .new "b" "method" [("permission", "target"), ("method", "write")],
    .new "c" "method" [("permission", "target"), ("method", "admin")]] }

theorem woven_roles_read_once :
    let reads := interruptedReads (performWithin 1)
    (∀ moment ∈ (collect reads 0 "top").moments woven, moment.store.SameContents woven.store) ∧
    (∀ moment ∈ (collect reads 0 "top").moments woven, moment.interruptions = woven.interruptions) ∧
    ∃ rounds collected after, (collect reads 0 "top").run woven = (collected, after) ∧
      Search reads 0 ⟨.startingAt "top", woven⟩ rounds collected after ∧
      rounds.filterMap Round.asks = ["top", "left", "right", "base", "ghost"] ∧
      (∀ id, id ∈ rounds.filterMap Round.asks ↔ woven.store.Reaches "top" id) ∧
      collected.1.texts = ["target:read", "target:write", "target:admin"] := by
  intro reads
  have unchanged : ∀ moment ∈ (collect reads 0 "top").moments woven,
      moment.store.SameContents woven.store := by decide +kernel
  have quiet : ∀ moment ∈ (collect reads 0 "top").moments woven, moment.interruptions = [] := by
    decide +kernel
  obtain ⟨rounds, collected, after, ran, search, _, _, _, _, _, _, alone⟩ :=
    roles_read_once (performWithin 1) woven 0 "top" unchanged
  obtain ⟨noted, complete⟩ := alone quiet
  obtain ⟨exactly, _⟩ := complete rfl rfl rfl (fun _ member => absurd member List.not_mem_nil) rfl
  have uses : ((collect reads 0 "top").run woven).2.store.uses.filterMap StoreUse.role? =
      ["ghost", "base", "right", "left", "top"] := by decide +kernel
  have texts : ((collect reads 0 "top").run woven).1.1.texts =
      ["target:read", "target:write", "target:admin"] := by decide +kernel
  rw [ran] at uses texts
  have asked : rounds.filterMap Round.asks = ["top", "left", "right", "base", "ghost"] := by
    refine List.reverse_injective ?_
    rw [uses] at noted
    simpa [woven, Service.new] using noted.symm
  exact ⟨unchanged, quiet, rounds, collected, after, ran, search, asked, exactly, texts⟩

end RepositoryAccess
