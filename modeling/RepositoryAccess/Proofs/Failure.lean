import RepositoryAccess.Proofs.Blockage
import RepositoryAccess.Proofs.Freshness

namespace RepositoryAccess
open RepositoryAccess.Text RepositoryAccess.Directory
open Service Act

section Alike

variable {waiting : List Interruption} {service : Service} {perform : Step → Act Answer}

theorem walkOn_alike (epoch budget : Nat) : ∀ {service : Service} {walk : Walk},
    service.Awaits waiting → (walkOn (interruptedReads perform) epoch budget walk).Alike
      (Service.Awaits waiting) (walkOn .alone epoch budget walk) service := by
  induction budget with
  | zero => intro service walk _; exact alike_same
  | succ budget ih =>
    intro service walk awaits
    rw [walkOn_succ, walkOn_succ]
    refine alike_bind awaits (turn_alike awaits epoch walk) fun turned after awaits => ?_
    cases turned with
    | stop collected => exact alike_same
    | on next => exact ih awaits

theorem collect_alike (awaits : service.Awaits waiting) (epoch : Nat) (seed : String) :
    (collect (interruptedReads perform) epoch seed).Alike (Service.Awaits waiting)
      (collect .alone epoch seed) service :=
  alike_same_bind awaits fun _ _ awaits => walkOn_alike epoch _ awaits

theorem underLock_alike {run other : Act Collected}
    (alike : ∀ {service : Service}, service.Awaits waiting →
      run.Alike (Service.Awaits waiting) other service) (lock : Lock) :
    ∀ {service : Service} {last : Collected}, service.Awaits waiting →
      (underLock run lock last).Alike (Service.Awaits waiting) (underLock other lock last) service := by
  induction lock with
  | grant | deny _ | relay => intro service last _; exact alike_same
  | run succeeded failed good bad =>
    intro service last awaits
    refine alike_bind awaits (alike awaits) fun last after awaits => ?_
    cases last.2 with
    | none => exact good awaits
    | some fault => exact bad awaits

theorem lockedRun_alike (awaits : service.Awaits waiting) (epoch : Nat) (seed : String) :
    (lockedRun (collect (interruptedReads perform) epoch seed)).Alike (Service.Awaits waiting)
      (lockedRun (collect .alone epoch seed)) service := by
  refine alike_same_bind awaits fun _ _ awaits => alike_same_bind awaits fun _ _ awaits => ?_
  exact underLock_alike (fun awaits => collect_alike awaits epoch seed) _ awaits

theorem resolve_alike (awaits : service.Awaits waiting) (id : String) :
    (resolve (interruptedReads perform) id).Alike (Service.Awaits waiting)
      (resolve .alone id) service := by
  refine alike_same_bind awaits fun known after awaits => ?_
  cases known with
  | some permissions => exact alike_same
  | none =>
    refine alike_same_bind awaits fun _ _ awaits => ?_
    exact alike_bind awaits (lockedRun_alike awaits _ id) fun _ _ _ => alike_same

end Alike

namespace Directory

-- The lock may end a section with this fault of its own.
def Lock.Denies : Lock → StoreFault → Prop
  | .grant, _ | .relay, _ => False
  | .deny told, fault => told = fault
  | .run succeeded failed, fault => succeeded.Denies fault ∨ failed.Denies fault

-- How a section ends in which these reads were made: it is granted if nothing was refused and the lock
-- serves, and otherwise ends with what a read was refused with or with a fault of the lock's own.
inductive Store.Settles {α : Type} (store : Store) (lock : Lock) (made : List StoreUse) :
    Except StoreFault α → Prop
  | granted {value : α} : lock.serves = true → store.Tells made none → Settles store lock made (.ok value)
  | refused {fault : StoreFault} : store.Tells made (some fault) → Settles store lock made (.error fault)
  | denied {fault : StoreFault} : lock.Denies fault →
      (lock.serves = false ∨ ∃ told, store.Tells made (some told)) →
      Settles store lock made (.error fault)

variable {α : Type} {store : Store} {lock succeeded failed : Lock} {made more : List StoreUse}
  {result : Except StoreFault α}

theorem Store.Tells.mono {fault : StoreFault} (told : store.Tells made (some fault))
    (kept : made ⊆ more) : store.Tells more (some fault) := by
  obtain ⟨kind, id, member, refused⟩ := told
  exact ⟨kind, id, kept member, refused⟩

theorem Store.Tells.absurd {fault : StoreFault} (told : store.Tells made (some fault))
    (nothing : store.Tells made none) : False := by
  obtain ⟨kind, id, member, refused⟩ := told
  rw [nothing kind id member] at refused
  cases refused

theorem Store.Settles.after_success (settles : store.Settles succeeded made result) :
    store.Settles (.run succeeded failed) made result := by
  cases settles with
  | granted serves nothing => exact .granted serves nothing
  | refused told => exact .refused told
  | denied denies why => exact .denied (.inl denies) why

theorem Store.Settles.after_failure {fault : StoreFault} (settles : store.Settles failed made result)
    (told : store.Tells made (some fault)) : store.Settles (.run succeeded failed) made result := by
  cases settles with
  | granted _ nothing => exact (told.absurd nothing).elim
  | refused told => exact .refused told
  | denied denies _ => exact .denied (.inr denies) (.inr ⟨fault, told⟩)

theorem Store.Settles.fails_iff (settles : store.Settles lock made result) :
    (∃ fault, result = .error fault) ↔
      lock.serves = false ∨ ∃ told, store.Tells made (some told) := by
  cases settles with
  | granted serves nothing =>
    refine ⟨fun ⟨_, impossible⟩ => (nomatch impossible), fun why => ?_⟩
    rcases why with unserved | ⟨told, tells⟩
    · rw [serves] at unserved
      cases unserved
    · exact (tells.absurd nothing).elim
  | refused told => exact ⟨fun _ => .inr ⟨_, told⟩, fun _ => ⟨_, rfl⟩⟩
  | denied _ why => exact ⟨fun _ => why, fun _ => ⟨_, rfl⟩⟩

end Directory

variable {origin service after : Service} {epoch : Nat} {id : String}

theorem collect_alone {collected : Collected} (truthful : service.Truthful)
    (ran : (collect .alone epoch id).run service = (collected, after)) :
    ∃ made, service.Learns made after ∧ service.store.Tells made collected.2 ∧
      (service.Blocked id → collected.2 ≠ none) ∧ (collected.2 ≠ none → after.Blocked id) := by
  obtain ⟨rounds, search⟩ := alone_searches epoch id service
  rw [ran] at search
  obtain ⟨made, learned, told, _⟩ := search.learns
  refine ⟨made, learned, told, ?_, ?_⟩
  · intro blocked
    obtain ⟨last, path, stops⟩ := blocked
    refine search.blocked truthful ⟨.inl List.mem_cons_self, ?_⟩ path stops List.not_mem_nil
    exact fun _ visited => absurd visited List.not_mem_nil
  · intro incomplete
    obtain ⟨fault, failed⟩ := Option.ne_none_iff_exists'.mp incomplete
    refine search.blocks (fun first member => ?_) failed
    rw [List.mem_singleton.mp member]

theorem underLock_alone (lock : Lock) : ∀ {service : Service} {last : Collected} {told : Option Bool}
    {made : List StoreUse} {result : Except StoreFault Holdings}, origin.Learns made service →
      service.Truthful → lock.HonestAfter told → (∀ ended, told = some ended → last.ended = ended) →
      origin.store.Tells made last.2 → (last.2 ≠ none → service.Blocked id) →
      (underLock (collect .alone epoch id) lock last).run service = (result, after) →
      ∃ more, origin.Learns more after ∧ made ⊆ more ∧ origin.store.Settles lock more result := by
  induction lock with
  | grant =>
    intro service last told made result learned _ honest told_last tells _ ran
    cases ran
    rw [Option.isNone_iff_eq_none.mp (told_last true honest)] at tells
    exact ⟨made, learned, List.Subset.refl made, .granted rfl tells⟩
  | deny fault =>
    intro service last told made result learned _ _ _ _ _ ran
    cases ran
    exact ⟨made, learned, List.Subset.refl made, .denied rfl (.inl rfl)⟩
  | relay =>
    intro service last told made result learned _ _ _ tells _ ran
    refine ⟨made, ?_⟩
    cases ended : last.2 with
    | none =>
      simp only [underLock, ended] at ran
      cases ran
      exact ⟨learned, List.Subset.refl made, .granted rfl (ended ▸ tells)⟩
    | some fault =>
      simp only [underLock, ended] at ran
      cases ran
      exact ⟨learned, List.Subset.refl made, .refused (ended ▸ tells)⟩
  | run succeeded failed good bad =>
    intro service last told made result learned truthful honest _ tells blocked ran
    unfold underLock at ran
    rw [run_bind] at ran
    cases collected : (collect .alone epoch id).run service with
    | mk next between =>
      rw [collected] at ran
      obtain ⟨new, learnedNew, tellsNew, blockedBefore, blockedAfter⟩ := collect_alone truthful collected
      rw [learned.tells] at tellsNew
      have whole := learned.trans learnedNew
      have still := learnedNew.truthful truthful
      have kept : made ⊆ new ++ made := List.subset_append_right new made
      obtain ⟨found, fault⟩ := next
      cases fault with
      | none =>
        have nothing : last.2 = none := by
          by_contra earlier
          exact blockedBefore (blocked earlier) rfl
        rw [nothing] at tells
        obtain ⟨more, learnedMore, keptMore, settles⟩ := good whole still honest.1
          (fun _ => Option.some.inj) (tells.append tellsNew) blockedAfter ran
        exact ⟨more, learnedMore, List.Subset.trans kept keptMore, settles.after_success⟩
      | some fault =>
        have refused : origin.store.Tells (new ++ made) (some fault) :=
          tellsNew.mono (List.subset_append_left new made)
        obtain ⟨more, learnedMore, keptMore, settles⟩ := bad whole still honest.2
          (fun _ => Option.some.inj) refused blockedAfter ran
        exact ⟨more, learnedMore, List.Subset.trans kept keptMore, settles.after_failure (refused.mono keptMore)⟩

theorem lockedRun_alone {result : Except StoreFault Holdings} (truthful : service.Truthful)
    (ran : (lockedRun (collect .alone epoch id)).run service = (result, after)) :
    ∃ made, service.Learns made after ∧ service.store.Settles service.store.lock made result := by
  have opened := note_learns service .opened
  have nothing : service.store.Tells [.opened] none := by
    intro kind id member
    cases List.mem_singleton.mp member
  obtain ⟨made, learned, _, settles⟩ := underLock_alone service.store.lock opened
    (opened.truthful truthful) truthful.tame.lock (fun _ impossible => nomatch impossible) nothing
    (fun failed => absurd rfl failed) ran
  exact ⟨made, learned, settles⟩

-- A resolution of a role that is not stored, if nothing else happens: what it does to the store are the
-- reads of its section, and if it fails it ends with the section.
theorem resolve_alone {result : Except StoreFault (Numbered Holdings)} (truthful : service.Truthful)
    (unstored : service.resolver.roles.lookup id = none)
    (ran : (resolve .alone id).run service = (result, after)) :
    ∃ made, after.store.uses = made ++ service.store.uses ∧
      service.store.Settles service.store.lock made result ∧
      ∀ fault, result = .error fault → service.Learns made after := by
  have looked : (onResolver (·.knownRole id)).run service = (none, service.askedRole id) :=
    Prod.ext ((Cache.Guarded.get_lookup _ id).trans unstored) rfl
  have asked := askedRole_learns service id
  unfold resolve at ran
  rw [run_bind, looked] at ran
  change (lockedRun (collect .alone (service.askedRole id).resolver.epoch id) >>= _).run
    (service.askedRole id) = _ at ran
  rw [run_bind] at ran
  cases locked : (lockedRun (collect .alone (service.askedRole id).resolver.epoch id)).run
      (service.askedRole id) with
  | mk told between =>
    rw [locked] at ran
    obtain ⟨made, learned, settles⟩ := lockedRun_alone (asked.truthful truthful) locked
    have whole : service.Learns made between := by simpa using asked.trans learned
    refine ⟨made, ?_⟩
    cases told with
    | error fault =>
      cases ran
      refine ⟨whole.uses, ?_, fun _ _ => whole⟩
      cases settles with
      | refused told => exact .refused told
      | denied denies why => exact .denied denies why
    | ok found =>
      cases ran
      refine ⟨whole.uses, ?_, fun _ impossible => nomatch impossible⟩
      cases settles with
      | granted serves nothing => exact .granted serves nothing

namespace Service

def Untroubled (service moment : Service) : Prop :=
  moment.version = service.version ∧ moment.store.Readable

instance (service moment : Service) : Decidable (service.Untroubled moment) :=
  inferInstanceAs (Decidable (_ ∧ _))

theorem Sound.restored {store : Store} (sound : service.Sound)
    (contents : store.SameContents service.store) (tame : store.Tame) :
    Sound { service with store } := by
  have fades : service.Fades { service with store } :=
    { Fades.refl service with contents, tame := fun _ => tame }
  exact fades.sound sound

end Service

theorem resolve_exactly {reads : Reads} (faithful : reads.Faithful) (sound : service.Sound)
    (steady : service.Steady) (readable : service.store.Readable)
    (untroubled : ∀ moment ∈ (resolve reads id).moments service, service.Untroubled moment) :
    ∃ held after, (resolve reads id).run service = (.ok held, after) ∧
      held.value.Exactly (service.Confers id) := by
  have start := Since.start sound
  have rests : Rests service service := ⟨sound, ⟨steady, rfl⟩, readable⟩
  have answers := resolve_answers faithful start id
  have rested : ∀ moment ∈ (resolve reads id).moments service, Rests service moment := by
    intro moment passed
    obtain ⟨same, readable⟩ := untroubled moment passed
    exact ⟨answers.1 moment passed, ⟨steady, same⟩, readable⟩
  obtain ⟨held, ran⟩ := resolve_serves faithful start rests id rested
  have told := answers.2.2 (holds_last rests rested).calm
  rw [ran] at told
  exact ⟨held, _, Prod.ext ran rfl, told⟩

theorem Service.Learns.resolve_alike {reads : Reads} (faithful : reads.Faithful) {before : Service}
    {made : List StoreUse} (learned : before.Learns made after) (sound : before.Sound)
    (soundAfter : after.Sound) (steady : before.Steady) {store : Store}
    (contents : store.SameContents before.store) (tame : store.Tame) (readable : store.Readable) :
    let again : Service := { after with store }
    let first : Service := { before with store }
    (∀ later ∈ (resolve reads id).moments again, again.Untroubled later) →
    (∀ later ∈ (resolve reads id).moments first, first.Untroubled later) →
    ∃ held rest held' rest', (resolve reads id).run again = (.ok held, rest) ∧
      (resolve reads id).run first = (.ok held', rest') ∧
      ∀ permission, held.value.contains permission = held'.value.contains permission := by
  intro again first quietAgain quietFirst
  have soundAgain : again.Sound := soundAfter.restored (contents.trans learned.contents.symm) tame
  have soundFirst : first.Sound := sound.restored contents tame
  obtain ⟨held, rest, ranAgain, exactly⟩ :=
    resolve_exactly faithful soundAgain (learned.steady steady) readable quietAgain
  obtain ⟨held', rest', ranFirst, exactly'⟩ :=
    resolve_exactly faithful soundFirst steady readable quietFirst
  have same : again.Confers = first.Confers := confers_congr (.refl store) learned.descriptors
  rw [same] at exactly
  exact ⟨held, rest, held', rest', ranAgain, ranFirst, exactly.contains_eq exactly'⟩

-- A resolution during which nothing else happens fails exactly if the lock does not serve or a read is
-- refused.  Then it tells the fault of the read or of the lock, whatever it remembered is right, and once
-- the store can be read again all roles are resolved as if it had not been tried.
theorem failed_resolution_leaves_no_trace {moment : Service} (occurs : moment.Occurs)
    (steady : moment.Steady) (depth : Nat) (id : String)
    (unstored : moment.resolver.roles.lookup id = none) :
    let reads := interruptedReads (performWithin depth)
    (∀ later ∈ (resolve reads id).moments moment, later.interruptions = moment.interruptions) →
    ∃ result after made, (resolve reads id).run moment = (result, after) ∧
      after.store.uses = made ++ moment.store.uses ∧
      ((∃ fault, result = .error fault) ↔ moment.store.lock.serves = false ∨ ∃ fault kind name,
        .read kind name ∈ made ∧ moment.store.refusal? kind name = some fault) ∧
      ∀ fault, result = .error fault →
        (moment.store.lock.Denies fault ∨
          ∃ kind name, .read kind name ∈ made ∧ moment.store.refusal? kind name = some fault) ∧
        (performWithin (depth + 1) (.resolve id)).run moment =
          (.fault (.configuration fault.message), after) ∧
        moment.Learns made after ∧ after.Coherent ∧
        after.resolver.roles.entries = moment.resolver.roles.entries ∧
        after.resolver.latest = moment.resolver.latest ∧
        after.resolver.epoch = moment.resolver.epoch ∧
        after.resolver.generation = moment.resolver.generation ∧
        ∀ store role, store.SameContents moment.store → store.Tame → store.Readable →
          let again : Service := { after with store }
          let first : Service := { moment with store }
          (∀ later ∈ (resolve reads role).moments again, again.Untroubled later) →
          (∀ later ∈ (resolve reads role).moments first, first.Untroubled later) →
          ∃ held rest held' rest', (resolve reads role).run again = (.ok held, rest) ∧
            (resolve reads role).run first = (.ok held', rest') ∧
            ∀ permission, held.value.contains permission = held'.value.contains permission := by
  intro reads quiet
  have faithful := readsWithin_faithful depth
  have sound := occurs.sound
  cases ran : (resolve reads id).run moment with
  | mk result after =>
    have awaits : moment.Awaits moment.interruptions := rfl
    have alone := resolve_alike awaits id quiet
    have truthful : moment.Truthful := ⟨sound.tame, (sound.coherent steady).missing⟩
    obtain ⟨made, uses, settles, learns⟩ := resolve_alone truthful unstored (alone.symm.trans ran)
    refine ⟨result, after, made, rfl, uses, settles.fails_iff, ?_⟩
    intro fault failed
    subst failed
    have learned := learns fault rfl
    have soundAfter : after.Sound := by
      have kept := holds_last sound (resolve_answers faithful (.start sound) id).1
      rw [ran] at kept
      exact kept
    refine ⟨?_, ?_, learned, soundAfter.coherent (learned.steady steady), ?_, ?_, learned.epoch, ?_, ?_⟩
    · cases settles with
      | refused told => exact .inr told
      | denied denies _ => exact .inl denies
    · show (resolve reads id >>= fun result => pure (Answer.ofGranted result)).run moment = _
      rw [run_bind, ran]
      rfl
    · rw [learned.elsewhere]
    · rw [learned.elsewhere]
    · rw [learned.elsewhere]
    · intro store role contents tame readable again first
      exact learned.resolve_alike faithful sound soundAfter steady contents tame readable

-- The privilege of the inner role cannot be read, and a section that fails is run once more.
def obstructed : Service :=
  let failing := (performWithin 1 (.failReads ⟨.privilege, "write", .unavailable "down"⟩)).run circling
  ((performWithin 1 (.useLock .retrying)).run failing.2).2

theorem obstructed_occurs : obstructed.Occurs := by
  have honest : Lock.retrying.Honest := by simp [Lock.Honest, Lock.retrying, Lock.once, Lock.HonestAfter]
  have failing : Reached ((performWithin 1
      (.failReads ⟨.privilege, "write", .unavailable "down"⟩)).run circling).2 :=
    .step 1 (.begins circling_begins) rfl
  have reached : obstructed.Reached := .step 1 failing honest
  exact reached.occurs

theorem obstructed_resolution_leaves_no_trace :
    let reads := interruptedReads (performWithin 1)
    obstructed.Occurs ∧ obstructed.Steady ∧ obstructed.resolver.roles.lookup "reader" = none ∧
    (∀ later ∈ (resolve reads "reader").moments obstructed,
      later.interruptions = obstructed.interruptions) ∧
    ∃ after, (resolve reads "reader").run obstructed = (.error (.unavailable "down"), after) ∧
      after.resolver.privileges.entries.map (·.1) = ["read"] ∧ after.Coherent ∧
      ∃ held rest held' rest',
        (resolve reads "reader").run { after with store := circle } = (.ok held, rest) ∧
        (resolve reads "reader").run { obstructed with store := circle } = (.ok held', rest') ∧
        held.value.texts = ["target:read", "target:write,update"] ∧
        ∀ permission, held.value.contains permission = held'.value.contains permission := by
  intro reads
  have steady : obstructed.Steady := by decide +kernel
  have unstored : obstructed.resolver.roles.lookup "reader" = none := by decide +kernel
  have quiet : ∀ later ∈ (resolve reads "reader").moments obstructed, later.interruptions = [] := by
    decide +kernel
  obtain ⟨result, after, made, ran, _, _, traceless⟩ :=
    failed_resolution_leaves_no_trace obstructed_occurs steady 1 "reader" unstored quiet
  have told : ((resolve reads "reader").run obstructed).1 = .error (.unavailable "down") := by
    decide +kernel
  have learned : ((resolve reads "reader").run obstructed).2.resolver.privileges.entries.map (·.1) =
      ["read"] := by decide +kernel
  have contents : circle.SameContents obstructed.store := by decide +kernel
  have tame : circle.Tame := by
    refine ⟨fun _ failing => absurd failing List.not_mem_nil, ?_⟩
    simp [circle, Lock.Honest, Lock.once, Lock.HonestAfter]
  have undisturbed : ∀ later ∈ (resolve reads "reader").moments
      { ((resolve reads "reader").run obstructed).2 with store := circle },
      Untroubled { ((resolve reads "reader").run obstructed).2 with store := circle } later := by
    decide +kernel
  have texts : ((resolve reads "reader").run
      { ((resolve reads "reader").run obstructed).2 with store := circle }).1.toOption.map
        (·.value.texts) = some ["target:read", "target:write,update"] := by decide +kernel
  rw [ran] at told learned undisturbed texts
  cases told
  obtain ⟨_, _, _, agrees, _, _, _, _, again⟩ := traceless _ rfl
  obtain ⟨held, rest, held', rest', ranAgain, ranFirst, same⟩ :=
    again circle "reader" contents tame (by decide +kernel) undisturbed (by decide +kernel)
  rw [ranAgain] at texts
  exact ⟨obstructed_occurs, steady, unstored, quiet, after, ran, learned, agrees, held, rest, held', rest',
    ranAgain, ranFirst, Option.some.inj texts, same⟩

end RepositoryAccess
