import RepositoryAccess.Proofs.Answers

namespace RepositoryAccess
open RepositoryAccess.Text RepositoryAccess.Directory
open Service Act Reads.Faithful

variable {reads : Reads} {origin service : Service}

def GrantTold (origin : Service) (id : String) : Except StoreFault (Option Permission) → Prop
  | .ok (some permission) => origin.Yields id permission
  | .ok none => ∀ permission, ¬ origin.Yields id permission
  | .error _ => True

theorem grant_answers (since : Since origin service) {id : String} {privilege : Privilege}
    (found : Undisturbed origin service → origin.store.privilege? id = some privilege) :
    (onResolver (·.grant origin.resolver.epoch id privilege)).Answers origin service
      fun granted => GrantTold origin id (.ok granted) := by
  rcases Resolver.grant_cases since.sound.minted origin.resolver.epoch id privilege with
    ⟨text, permission, faded, stood, parsed, fades, result⟩ | ⟨nothing, faded, fades, result⟩
  · have yielded : Undisturbed origin service → origin.Yields id permission := fun calm =>
      ⟨privilege, text, found calm, by rw [← since.later.descriptors]; exact stood, parsed⟩
    have forgot := Fades.ofResolver fades
    have next := since.next forgot.later (forgot.sound since.sound)
    have right : faded.epoch = origin.resolver.epoch →
        Steady { service with resolver := faded } →
          Yields { service with resolver := faded } id permission := by
      intro epoch steady
      have calm := next.calm epoch steady
      rw [calm.yields next.later]
      exact yielded (calm.before since.later forgot.later)
    have remembered := next.sound.rememberPrivilege right
    have later := forgot.later.trans
      (later_rememberPrivilege { service with resolver := faded } origin.resolver.epoch id permission)
    refine answers_learning since ?_ ?_ ?_
    · rw [result]; exact remembered
    · rw [result]; exact later
    · rw [result]; exact yielded
  · refine answers_onResolver since (by rw [result]; exact fades) ?_
    rw [result]
    rintro calm permission ⟨other, text, isFound, stood, parsed⟩
    cases (found calm).symm.trans isFound
    exact nothing text permission (by rw [since.later.descriptors]; exact stood) parsed

theorem knownPrivilege_answers (since : Since origin service) (id : String) :
    (onResolver (·.knownPrivilege id)).Answers origin service fun known => ∀ permission,
      known = some permission → origin.Yields id permission := by
  refine answers_onResolver since (Resolver.knownPrivilege_fades id) ?_
  intro calm permission known
  rw [← calm.yields since.later]
  exact (since.coherent calm).privileges _ (Resolver.mem_of_knownPrivilege known)

theorem granted_answers (faithful : reads.Faithful) (since : Since origin service) (id : String) :
    (granted reads origin.resolver.epoch id).Answers origin service (GrantTold origin id) := by
  unfold granted
  refine answers_bind since (knownPrivilege_answers since id) ?_
  intro known after since _ told
  cases known with
  | some permission => exact answers_pure fun calm => told calm permission rfl
  | none =>
    refine answers_bind since (faithful.privilege_answers since id) ?_
    intro result after since _ told
    cases result with
    | ok privilege =>
      refine answers_bind since (grant_answers since told) ?_
      intro permission after since _ told
      exact answers_pure told
    | error fault =>
      refine answers_pure fun calm => ?_
      split
      · rename_i missing
        rintro permission ⟨privilege, _, found, _⟩
        cases (told calm missing).symm.trans found
      · trivial

theorem collectGranted_answers (faithful : reads.Faithful) (ids : List String) :
    ∀ {service : Service} {found : Holdings} {already : Permission → Prop},
      Since origin service → (Undisturbed origin service → found.Exactly already) →
      (collectGranted reads origin.resolver.epoch ids found).Answers origin service
        fun collected => collected.2 = none → collected.1.Exactly fun permission =>
          already permission ∨ ∃ id ∈ ids, origin.Yields id permission := by
  induction ids with
  | nil =>
    intro service found already since holds
    exact answers_pure fun calm _ => (holds calm).congr fun _ => by simp
  | cons id ids ih =>
    intro service found already since holds
    unfold collectGranted
    refine answers_bind since (granted_answers faithful since id) ?_
    intro result after next later told
    have still : Undisturbed origin after → found.Exactly already :=
      fun calm => holds (calm.before since.later later)
    match result with
    | .error fault => exact answers_pure fun _ impossible => by cases impossible
    | .ok none =>
      refine (ih next still).weaken next ?_
      intro calm collected complete ended
      refine (complete ended).congr fun other => or_congr_right ?_
      have nothing := told calm other
      simp [nothing]
    | .ok (some permission) =>
      have more : Undisturbed origin after → (found.insert permission).Exactly
          fun other => already other ∨ other = permission :=
        fun calm => (still calm).insert permission
      refine (ih next more).weaken next ?_
      intro calm collected complete ended
      refine (complete ended).congr fun other => ?_
      have only : origin.Yields id other ↔ other = permission :=
        ⟨fun yielded => yields_unique yielded (told calm), fun same => same ▸ told calm⟩
      simp [only, or_assoc]

def VisitTold (origin : Service) (id : String) : Visit → Prop
  | .missing => origin.store.role? id = none
  | .known permissions => permissions.value.Exactly (origin.Confers id)
  | .entered role => origin.store.role? id = some role
  | .failed _ => True

theorem rememberMissing_answers (since : Since origin service) {id : String}
    (missing : Undisturbed origin service → origin.store.role? id = none) :
    (changeResolver (·.rememberMissing origin.resolver.epoch id)).Answers origin service
      fun _ => True := by
  refine answers_modify ?_ (later_rememberMissing service _ id) trivial
  refine since.sound.rememberMissing fun epoch steady => ?_
  have calm := since.calm epoch steady
  rw [calm.role? since.later]
  exact missing calm

theorem knownRole_answers (since : Since origin service) (id : String) :
    (onResolver (·.knownRole id)).Answers origin service fun known => ∀ permissions,
      known = some permissions → permissions.value.Exactly (origin.Confers id) := by
  refine answers_onResolver since (Resolver.knownRole_fades id) ?_
  intro calm permissions known
  rw [← calm.confers since.later]
  exact (since.coherent calm).roles _ (Resolver.mem_of_knownRole known)

theorem knownMissing_answers (since : Since origin service) (id : String) :
    (onResolver (·.knownMissing id)).Answers origin service fun known =>
      known = true → origin.store.role? id = none := by
  refine answers_onResolver since (Resolver.knownMissing_fades id) ?_
  intro calm known
  rw [← calm.role? since.later]
  exact (since.coherent calm).missing id (Resolver.mem_of_knownMissing known)

theorem visit_answers (faithful : reads.Faithful) (since : Since origin service) (id : String) :
    (visit reads origin.resolver.epoch id).Answers origin service (VisitTold origin id) := by
  unfold visit
  refine answers_bind since (knownMissing_answers since id) ?_
  intro known after since _ told
  cases known with
  | true => exact answers_pure fun calm => told calm rfl
  | false =>
    refine answers_bind since (faithful.role_answers since id) ?_
    intro result read sinceRead _ told
    cases result with
    | error fault =>
      show Answers (if fault.isNotFound = true then _ else _) origin read _
      split
      · rename_i missing
        refine answers_bind sinceRead
          (rememberMissing_answers sinceRead fun calm => told calm missing) ?_
        intro _ final _ passed _
        exact answers_pure fun calm => told (calm.before sinceRead.later passed) missing
      · exact answers_pure fun _ => trivial
    | ok role =>
      refine answers_bind sinceRead (knownRole_answers sinceRead id) ?_
      intro known final _ passed held
      cases known with
      | some permissions => exact answers_pure fun calm => held calm permissions rfl
      | none => exact answers_pure fun calm => told (calm.before sinceRead.later passed)

namespace Walk

-- A visited role is covered when all that it confers was found, or when its own permissions were and
-- every role in it has its turn.
def Covers (walk : Walk) (origin : Service) (id : String) : Prop :=
  (∀ permission, origin.Confers id permission → walk.found.contains permission = true) ∨
    ∀ role, origin.store.role? id = some role →
      (∀ privilege ∈ role.privileges, ∀ permission, origin.Yields privilege permission →
        walk.found.contains permission = true) ∧
      ∀ inner ∈ role.roles, inner ∈ walk.pending ∨ inner ∈ walk.visited

structure Account (walk : Walk) (origin : Service) (seed : String) : Prop where
  begun : seed ∈ walk.pending ∨ seed ∈ walk.visited
  reached : ∀ id ∈ walk.pending, origin.store.Reaches seed id
  sound : ∀ permission ∈ walk.found.members, origin.Confers seed permission
  covered : ∀ id ∈ walk.visited, walk.Covers origin id

variable {walk next : Walk} {id seed : String}

theorem Covers.grow (covers : walk.Covers origin id)
    (found : ∀ permission, walk.found.contains permission = true →
      next.found.contains permission = true)
    (places : ∀ other, other ∈ walk.pending ∨ other ∈ walk.visited →
      other ∈ next.pending ∨ other ∈ next.visited) : next.Covers origin id := by
  rcases covers with all | own
  · exact .inl fun permission conferred => found _ (all permission conferred)
  · refine .inr fun role exists_ => ⟨?_, ?_⟩
    · intro privilege member permission yielded
      exact found _ ((own role exists_).1 privilege member permission yielded)
    · intro inner member
      exact places inner ((own role exists_).2 inner member)

theorem startingAt_account (origin : Service) (seed : String) :
    (startingAt seed).Account origin seed where
  begun := .inl List.mem_cons_self
  reached id member := by rw [List.mem_singleton.mp member]; exact .refl
  sound _ member := absurd member List.not_mem_nil
  covered _ member := absurd member List.not_mem_nil

theorem Account.covers_reached (account : walk.Account origin seed) (ended : walk.pending = [])
    {last privilege : String} {role : Role} {permission : Permission}
    (isRole : origin.store.role? last = some role) (member : privilege ∈ role.privileges)
    (yielded : origin.Yields privilege permission) (path : origin.store.Reaches id last)
    (visited : id ∈ walk.visited) : walk.found.contains permission = true := by
  induction path using Relation.ReflTransGen.head_induction_on with
  | refl =>
    rcases account.covered last visited with all | each
    · exact all permission (confers_self isRole member yielded)
    · exact (each role isRole).1 privilege member permission yielded
  | head step rest ih =>
    rename_i outer inner
    obtain ⟨outerRole, isOuter, contained⟩ := step
    rcases account.covered outer visited with all | each
    · exact all permission ⟨last, role, privilege, .head ⟨outerRole, isOuter, contained⟩ rest,
        isRole, member, yielded⟩
    · rcases (each outerRole isOuter).2 inner contained with waiting | seen
      · rw [ended] at waiting; cases waiting
      · exact ih seen

theorem Account.finished (account : walk.Account origin seed) (ended : walk.pending = []) :
    walk.found.Exactly (origin.Confers seed) := by
  refine ⟨account.sound, ?_⟩
  rintro permission ⟨last, role, privilege, path, isRole, member, yielded⟩
  have seen : seed ∈ walk.visited := by
    rcases account.begun with waiting | seen
    · rw [ended] at waiting; cases waiting
    · exact seen
  exact account.covers_reached ended isRole member yielded path seen

theorem Account.again {pending : List String} (account : walk.Account origin seed)
    (first : walk.pending = id :: pending) (seen : id ∈ walk.visited) :
    { walk with pending }.Account origin seed := by
  have places : ∀ other, other ∈ walk.pending ∨ other ∈ walk.visited →
      other ∈ pending ∨ other ∈ walk.visited := by
    rintro other (waiting | visited)
    · rw [first] at waiting
      rcases List.mem_cons.mp waiting with rfl | later
      · exact .inr seen
      · exact .inl later
    · exact .inr visited
  refine ⟨places seed account.begun, ?_, account.sound, ?_⟩
  · intro other waiting
    exact account.reached other (by rw [first]; exact List.mem_cons_of_mem _ waiting)
  · intro other visited
    exact (account.covered other visited).grow (fun _ h => h) places

theorem Account.advance {pending : List String} (account : walk.Account origin seed)
    (first : walk.pending = id :: pending) (visited : next.visited = id :: walk.visited)
    (kept : ∀ other ∈ pending, other ∈ next.pending)
    (reached : ∀ other ∈ next.pending, other ∈ pending ∨ origin.store.Contains id other)
    (sound : ∀ permission ∈ next.found.members,
      permission ∈ walk.found.members ∨ origin.Confers id permission)
    (found : ∀ permission, walk.found.contains permission = true →
      next.found.contains permission = true)
    (covers : next.Covers origin id) : next.Account origin seed := by
  have reachedFirst : origin.store.Reaches seed id :=
    account.reached id (by rw [first]; exact List.mem_cons_self)
  have places : ∀ other, other ∈ walk.pending ∨ other ∈ walk.visited →
      other ∈ next.pending ∨ other ∈ next.visited := by
    rw [first, visited]
    rintro other (waiting | before)
    · rcases List.mem_cons.mp waiting with rfl | later
      · exact .inr List.mem_cons_self
      · exact .inl (kept other later)
    · exact .inr (List.mem_cons_of_mem _ before)
  refine ⟨places seed account.begun, ?_, ?_, ?_⟩
  · intro other waiting
    rcases reached other waiting with before | contained
    · exact account.reached other (by rw [first]; exact List.mem_cons_of_mem _ before)
    · exact reachedFirst.tail contained
  · intro permission member
    rcases sound permission member with before | conferred
    · exact account.sound permission before
    · exact confers_reached reachedFirst conferred
  · intro other member
    rw [visited] at member
    rcases List.mem_cons.mp member with rfl | before
    · exact covers
    · exact (account.covered other before).grow found places

variable {pending : List String}

theorem Account.absent (account : walk.Account origin seed) (first : walk.pending = id :: pending)
    (missing : origin.store.role? id = none) :
    { walk with pending, visited := id :: walk.visited }.Account origin seed := by
  refine account.advance first rfl (fun _ h => h) (fun _ h => .inl h) (fun _ h => .inl h)
    (fun _ h => h) (.inr ?_)
  intro role isRole
  rw [missing] at isRole
  cases isRole

theorem Account.known {held : Holdings} (account : walk.Account origin seed)
    (first : walk.pending = id :: pending) (holds : held.Exactly (origin.Confers id)) :
    { walk with pending, visited := id :: walk.visited, found := walk.found.merge held }.Account
      origin seed := by
  refine account.advance first rfl (fun _ h => h) (fun _ h => .inl h) ?_ ?_ (.inl ?_)
  · intro permission member
    rcases Holdings.mem_merge member with new | old
    · exact .inr (holds.sound permission new)
    · exact .inl old
  · intro permission present
    exact Holdings.contains_merge.mpr (.inl present)
  · intro permission conferred
    exact Holdings.contains_merge.mpr (.inr (holds.complete permission conferred))

theorem Account.entered {role : Role} {found : Holdings} (account : walk.Account origin seed)
    (first : walk.pending = id :: pending) (isRole : origin.store.role? id = some role)
    (collected : found.Exactly fun permission => permission ∈ walk.found.members ∨
      ∃ privilege ∈ role.privileges.names, origin.Yields privilege permission) :
    let entered := { walk with pending, visited := id :: walk.visited }
    { entered with pending := entered.enter role, found }.Account origin seed := by
  refine account.advance first rfl ?_ ?_ ?_ ?_ (.inr ?_)
  · intro other waiting
    exact List.mem_append_left _ waiting
  · intro other waiting
    rcases List.mem_append.mp waiting with before | contained
    · exact .inl before
    · exact .inr ⟨role, isRole, (List.mem_filter.mp contained).1⟩
  · intro permission member
    rcases collected.sound permission member with old | ⟨privilege, own, yielded⟩
    · exact .inl old
    · exact .inr (confers_self isRole own yielded)
  · intro permission present
    obtain ⟨member, isMember, same⟩ := Holdings.contains_iff.mp present
    exact Holdings.contains_congr same (collected.complete member (.inl isMember))
  · intro other isOther
    cases isRole.symm.trans isOther
    refine ⟨?_, ?_⟩
    · intro privilege own permission yielded
      exact collected.complete permission (.inr ⟨privilege, own, yielded⟩)
    · intro inner contained
      by_cases seen : inner ∈ id :: walk.visited
      · exact .inr seen
      · exact .inl (List.mem_append_right _ (List.mem_filter.mpr ⟨contained, by simpa using seen⟩))

end Walk
end RepositoryAccess
