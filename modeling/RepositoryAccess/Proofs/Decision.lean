import RepositoryAccess.Proofs.Freshness
import RepositoryAccess.Proofs.Success

namespace RepositoryAccess
open RepositoryAccess.Text RepositoryAccess.Directory
open Service Act Reads.Faithful

variable {reads : Reads} {origin service : Service}

theorem explicitPermissions_serves (faithful : reads.Faithful) (since : Since origin service)
    (rests : Rests origin service) (entitlement : Entitlement) :
    (explicitPermissions reads entitlement).Serves origin service Succeeded := by
  unfold explicitPermissions
  refine serves_bind since rests
    (insertTexts_answers entitlement.texts.names since fun _ => Holdings.empty_exactly)
    (serves_any _) ?_
  intro found after since rests _ _
  refine serves_bind since rests
    (mergeRoles_answers faithful entitlement.roles.names since fun _ => Holdings.empty_exactly)
    (mergeRoles_serves faithful entitlement.roles.names since rests) ?_
  rintro result last _ _ _ ⟨fromRoles, rfl⟩
  exact serves_pure ⟨_, rfl⟩

theorem rolePermissions_serves (faithful : reads.Faithful) (since : Since origin service)
    (handle : String) (roles : NameSet) :
    (rolePermissions reads handle roles).Serves origin service Succeeded := by
  unfold rolePermissions
  refine serves_get (serves_modify_bind since (later_modifyRealm _ _ _) fun since rests => ?_)
  refine serves_get (serves_modify_bind since (later_modifyRealm _ _ _) fun since rests => ?_)
  split
  · exact serves_pure ⟨_, rfl⟩
  · refine serves_bind since rests
      (mergeRoles_answers faithful roles.names since fun _ => Holdings.empty_exactly)
      (mergeRoles_serves faithful roles.names since rests) ?_
    rintro result after since rests _ ⟨found, rfl⟩
    refine serves_bind since rests (shareSet_answers since found) (serves_any _) ?_
    intro shared final _ _ _ _
    refine serves_get ?_
    split
    · exact fun _ => ⟨shared, rfl⟩
    · exact serves_pure ⟨shared, rfl⟩

theorem entitledPermissions_serves (faithful : reads.Faithful) (since : Since origin service)
    (rests : Rests origin service) (handle : String) (entitlement : Entitlement) :
    (entitledPermissions reads handle entitlement).Serves origin service Succeeded := by
  unfold entitledPermissions
  split
  · refine serves_bind since rests (explicitPermissions_answers faithful since entitlement)
      (explicitPermissions_serves faithful since rests entitlement) ?_
    rintro result after _ _ _ ⟨found, rfl⟩
    exact fun _ => ⟨_, rfl⟩
  · split
    · exact fun _ => ⟨_, rfl⟩
    · exact rolePermissions_serves faithful since handle entitlement.roles

theorem permitted_serves (faithful : reads.Faithful) (since : Since origin service)
    (rests : Rests origin service) (handle : String) (asked : Permission)
    (entitlement : Entitlement) :
    (permitted reads handle asked entitlement).Serves origin service Succeeded := by
  refine serves_bind since rests (entitledPermissions_answers faithful since handle entitlement)
    (entitledPermissions_serves faithful since rests handle entitlement) ?_
  rintro result after _ _ _ ⟨held, rfl⟩
  exact serves_pure ⟨_, rfl⟩

namespace Realm

-- The roles that a user is given: by the sources that the names of the user's realms stand for if the
-- manager maps roles, otherwise by the default source if it is one of them.
def Gives (realm : Realm) (manager : Manager) (managers : List Manager) (who : Principals)
    (role : String) : Prop :=
  if manager.mapsRoles then
    ∃ source ∈ sources realm.name managers who.realms, ∃ found,
      manager.mapped who.primary source = .ok found ∧ role ∈ found
  else defaultSource ∈ sources realm.name managers who.realms ∧
    ∃ found, manager.user who.primary = .ok found ∧ role ∈ found.roles

variable {realm : Realm} {manager : Manager} {managers : List Manager} {active : List String}
  {principals : Option Principals} {role : String}

theorem admits_iff {who : Principals} : realm.admits active who = true ↔
    realm.name ∈ who.realms ∨ ∃ name ∈ active, name ∈ who.realms := by
  simp [admits]

theorem mem_mapped (user : String) (sources : List String) (roles : NameSet) :
    role ∈ sources.foldl (fun roles source =>
        match manager.mapped user source with
        | .ok found => roles.insertAll found.names
        | .error _ => roles) roles ↔
      role ∈ roles ∨ ∃ source ∈ sources, ∃ found, manager.mapped user source = .ok found ∧
        role ∈ found := by
  induction sources generalizing roles with
  | nil => simp
  | cons source sources ih =>
    rw [List.foldl_cons, ih]
    simp only [List.mem_cons, exists_eq_or_imp, ← or_assoc]
    refine or_congr_left ?_
    cases mapped : manager.mapped user source with
    | ok found =>
      simp only [NameSet.mem_insertAll, Except.ok.injEq, exists_eq_left']
      exact or_comm
    | error unknown => simp

theorem mem_mappedRoles (user : String) (sources : NameSet) :
    role ∈ (mappedRoles manager user sources).1 ↔
      ∃ source ∈ sources, ∃ found, manager.mapped user source = .ok found ∧ role ∈ found := by
  refine (mem_mapped user sources.names .empty).trans ?_
  rw [or_iff_right (NameSet.not_mem_empty role)]
  exact Iff.rfl

theorem mem_rolesOf {who : Principals} :
    (∃ roles, (realm.rolesOf manager who.primary (sources realm.name managers who.realms)).1 =
      .ok roles ∧ role ∈ roles) ↔ realm.Gives manager managers who role := by
  unfold rolesOf Gives
  split
  · simp only [Except.ok.injEq, exists_eq_left', mem_mappedRoles]
  · split
    · rename_i own
      cases found : manager.user who.primary with
      | ok user => simp [own]
      | error unknown => simp
    · rename_i foreign
      simp [foreign]

theorem find_ofRoles {entitlement : Entitlement}
    (found : (realm.find manager managers active principals).1 = .ok entitlement) :
    entitlement = .ofRoles entitlement.roles := by
  unfold find at found
  cases principals with
  | none => cases found
  | some who =>
    simp only at found
    split at found
    · cases roles : (realm.rolesOf manager who.primary (sources realm.name managers who.realms)).1 with
      | ok given => rw [roles] at found; cases found; rfl
      | error refusal => rw [roles] at found; cases found
    · cases found

theorem mem_find : (∃ entitlement, (realm.find manager managers active principals).1 =
      .ok entitlement ∧ role ∈ entitlement.roles) ↔
    ∃ who, principals = some who ∧ realm.admits active who = true ∧
      realm.Gives manager managers who role := by
  unfold find
  cases principals with
  | none => simp
  | some who =>
    simp only [Option.some.injEq, exists_eq_left', ← mem_rolesOf]
    split
    · rename_i admitted
      cases roles : (realm.rolesOf manager who.primary (sources realm.name managers who.realms)).1 with
      | ok given => simp [admitted, Except.map, Entitlement.ofRoles]
      | error refusal => simp [admitted, Except.map]
    · rename_i refused
      simp [refused]

end Realm

def Service.found (service : Service) (handle : String) (principals : Option Principals) :
    Except Fault Entitlement :=
  let realm := service.realm handle
  (realm.find (service.managerOf realm) (service.managersOf realm) service.active principals).1.mapError
    (·.fault)

theorem findEntitlement_answers (since : Since origin service) (handle : String)
    (principals : Option Principals) :
    (findEntitlement handle principals).Answers origin service
      (· = service.found handle principals) :=
  answers_modifyGet since { Fades.refl service with } fun _ => rfl

theorem shareOutcome_answers (since : Since origin service) (result : Except Fault Entitlement) :
    (shareOutcome result).Answers origin service fun outcome => outcome.map (·.value) = result := by
  cases result with
  | ok entitlement =>
    have shared : (shareEntitlement entitlement).Answers origin service (·.value = entitlement) :=
      answers_modifyGet since { Fades.refl service with } fun _ => rfl
    refine answers_bind since shared fun outcome after since later told => ?_
    exact answers_pure fun calm => congrArg Except.ok (told calm)
  | error fault => exact answers_pure fun _ => rfl

def RequestCache.Fresh (cache : RequestCache) : Prop := cache.decisions = [] ∧ cache.outcomes = []

instance (cache : RequestCache) : Decidable cache.Fresh := inferInstanceAs (Decidable (_ ∧ _))

theorem entitle_answers (since : Since origin service) (handle : String)
    (principals : Option Principals) {cache : Nat} (fresh : (service.requests.cache cache).Fresh) :
    (entitle handle principals cache).Answers origin service
      fun outcome => outcome.map (·.value) = service.found handle principals := by
  have nothing : (service.requests.cache cache).outcome (service.realm handle).number = none := by
    simp [RequestCache.outcome, fresh.2]
  unfold entitle
  refine answers_get (answers_get ?_)
  rw [nothing]
  refine answers_bind since (findEntitlement_answers since handle principals) ?_
  intro result after since _ same
  refine answers_bind since (shareOutcome_answers since result) ?_
  intro outcome last sinceLast later shared
  have recorded : last.Fades { last with
      requests := last.requests.update cache (·.recordOutcome (service.realm handle).number outcome) } :=
    { Fades.refl last with }
  refine answers_modify_bind (recorded.sound sinceLast.sound) recorded.later ?_
  refine answers_pure fun calm => ?_
  have before := calm.before sinceLast.later recorded.later
  exact (shared before).trans (same (before.before since.later later))

namespace Service

-- Whether a user is let in, is given some role by a source that is consulted, and that role confers
-- what implies the permission that a text asks for.
def Grants (service : Service) (handle : String) (who : Principals) (text : String) : Prop :=
  let realm := service.realm handle
  (realm.name ∈ who.realms ∨ ∃ name ∈ service.active, name ∈ who.realms) ∧
    ∃ role, realm.Gives (service.managerOf realm) (service.managersOf realm) who role ∧
      ∃ held asked, service.Confers role held ∧ Permission.parse text = .ok asked ∧
        held.implies asked = true

variable {handle text : String} {principals : Option Principals}

theorem found_iff {entitlement : Entitlement} :
    service.found handle principals = .ok entitlement ↔
      ((service.realm handle).find (service.managerOf (service.realm handle))
        (service.managersOf (service.realm handle)) service.active principals).1 = .ok entitlement := by
  unfold found
  dsimp only
  generalize ((service.realm handle).find (service.managerOf (service.realm handle))
    (service.managersOf (service.realm handle)) service.active principals).1 = result
  cases result <;> simp [Except.mapError]

def Warrants (service : Service) (found : Except Fault Entitlement) (text : String) : Prop :=
  ∃ entitlement asked, found = .ok entitlement ∧ Permission.parse text = .ok asked ∧
    ∃ held, service.Entitles entitlement held ∧ held.implies asked = true

theorem warrants_error {fault : Fault} : ¬ service.Warrants (.error fault) text := by
  rintro ⟨entitlement, asked, impossible, _⟩
  cases impossible

theorem warrants_malformed {found : Except Fault Entitlement} {malformed : Permission.Malformed}
    (parsed : Permission.parse text = .error malformed) : ¬ service.Warrants found text := by
  rintro ⟨entitlement, asked, _, impossible, _⟩
  rw [parsed] at impossible
  cases impossible

theorem warrants_ok {entitlement : Entitlement} {asked : Permission}
    (parsed : Permission.parse text = .ok asked) : service.Warrants (.ok entitlement) text ↔
      ∃ held, service.Entitles entitlement held ∧ held.implies asked = true := by
  unfold Warrants
  rw [parsed]
  simp

theorem grants_iff : (∃ who, principals = some who ∧ service.Grants handle who text) ↔
    service.Warrants (service.found handle principals) text := by
  constructor
  · rintro ⟨who, rfl, admitted, role, given, held, asked, conferred, parsed, implied⟩
    obtain ⟨entitlement, found, isRole⟩ :=
      Realm.mem_find.mpr ⟨who, rfl, Realm.admits_iff.mpr admitted, given⟩
    refine ⟨entitlement, asked, found_iff.mpr found, parsed, held, ?_, implied⟩
    exact .inr (.inr ⟨role, isRole, conferred⟩)
  · rintro ⟨entitlement, asked, found, parsed, held, entitled, implied⟩
    have found := found_iff.mp found
    rw [Realm.find_ofRoles found] at entitled
    have plain : ¬ (Entitlement.ofRoles entitlement.roles).isExplicit = true := Bool.false_ne_true
    obtain ⟨role, isRole, conferred⟩ := (entitles_ofRoles plain service held).mp entitled
    obtain ⟨who, isWho, admitted, given⟩ := Realm.mem_find.mp ⟨entitlement, found, isRole⟩
    exact ⟨who, isWho, Realm.admits_iff.mp admitted, role, given, held, asked, conferred, parsed, implied⟩

end Service

theorem check_serves (faithful : reads.Faithful) (since : Since origin service)
    (rests : Rests origin service) (handle : String) (principals : Option Principals) (text : String)
    {cache : Nat} (fresh : (service.requests.cache cache).Fresh) :
    (check reads handle principals text cache).Serves origin service fun result =>
      result = .ok true ↔ origin.Warrants (service.found handle principals) text := by
  have undecided : (service.requests.cache cache).decision text = none := by
    simp [RequestCache.decision, fresh.1]
  unfold check
  refine serves_get ?_
  rw [undecided]
  refine serves_bind since rests (entitle_answers since handle principals fresh) (serves_any _) ?_
  intro outcome after since rests same _
  rw [← same]
  cases outcome with
  | error fault => exact serves_pure (iff_of_false (fun granted => by cases granted) warrants_error)
  | ok entitlement =>
    refine serves_bind since rests (create_answers since text) (serves_any _) ?_
    intro made last since rests parsed _
    cases made with
    | error malformed =>
      have refused : ¬ origin.Warrants (.ok entitlement.value) text := warrants_malformed parsed.symm
      exact serves_pure (iff_of_false (fun granted => by cases granted) refused)
    | ok asked =>
      refine serves_bind since rests (permitted_answers faithful since handle asked entitlement.value)
        (permitted_serves faithful since rests handle asked entitlement.value) ?_
      rintro result final _ _ decides ⟨decision, rfl⟩ _
      show Except.ok decision = .ok true ↔ origin.Warrants (.ok entitlement.value) text
      rw [Except.ok.injEq, warrants_ok parsed.symm]
      exact decides

-- Whatever the service has been through, a check that finds nothing remembered for its request, and
-- that nothing disturbs, grants what the store and the users say.
theorem check_grants_exactly {moment : Service} (occurs : moment.Occurs) (steady : moment.Steady)
    (depth : Nat) (handle : String) (principals : Option Principals) (text : String) {cache : Nat}
    (fresh : (moment.requests.cache cache).Fresh)
    (unchanged : ∀ later ∈ moment :: (check (interruptedReads (performWithin depth)) handle principals
      text cache).moments moment, later.version = moment.version ∧ later.store.Readable) :
    ((check (interruptedReads (performWithin depth)) handle principals text cache).run moment).1 =
        .ok true ↔
      ∃ who, principals = some who ∧ moment.Grants handle who text := by
  have faithful := readsWithin_faithful depth
  have since := Since.start occurs.sound
  have sound := (check_sustains faithful occurs.sound handle principals text cache).1
  have rested : ∀ later ∈ moment :: (check (interruptedReads (performWithin depth)) handle principals
      text cache).moments moment, Rests moment later := by
    intro later passed
    obtain ⟨version, readable⟩ := unchanged later passed
    refine ⟨?_, ⟨steady, version⟩, readable⟩
    rcases List.mem_cons.mp passed with rfl | after
    · exact occurs.sound
    · exact sound later after
  have served := check_serves faithful since (rested moment List.mem_cons_self) handle principals text
    fresh fun later passed => rested later (List.mem_cons_of_mem _ passed)
  exact served.trans grants_iff.symm

theorem circled_grants : circled.Occurs ∧ circled.Steady ∧
    ((check (interruptedReads (performWithin 1)) "realm" (some ⟨"ann", .ofList ["authorizing"]⟩)
      "target:read" 0).run circled).1 = .ok true ∧
    circled.Grants "realm" ⟨"ann", .ofList ["authorizing"]⟩ "target:read" := by
  have steady : circled.Steady := by decide +kernel
  have granted : ((check (interruptedReads (performWithin 1)) "realm"
      (some ⟨"ann", .ofList ["authorizing"]⟩) "target:read" 0).run circled).1 = .ok true := by
    decide +kernel
  obtain ⟨who, same, grants⟩ := (check_grants_exactly circled_occurs steady 1 "realm"
    (some ⟨"ann", .ofList ["authorizing"]⟩) "target:read" (by decide +kernel) (by decide +kernel)).mp
      granted
  cases same
  exact ⟨circled_occurs, steady, granted, grants⟩

end RepositoryAccess
