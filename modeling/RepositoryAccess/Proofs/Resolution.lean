import RepositoryAccess.Proofs.Walk

namespace RepositoryAccess
open RepositoryAccess.Text RepositoryAccess.Directory
open Service Act Reads.Faithful

variable {reads : Reads} {origin service : Service}

def Collected.Right (origin : Service) (id : String) (collected : Collected) : Prop :=
  collected.2 = none → collected.1.Exactly (origin.Confers id)

theorem walkOn_answers (faithful : reads.Faithful) (seed : String) (budget : Nat) :
    ∀ {service : Service} {walk : Walk}, Since origin service →
      (Undisturbed origin service → walk.Account origin seed) →
      (walkOn reads origin.resolver.epoch budget walk).Answers origin service
        (Collected.Right origin seed) := by
  induction budget with
  | zero => intro service walk _ _; exact answers_pure fun _ impossible => by cases impossible
  | succ budget ih =>
    intro service walk since account
    cases first : walk.pending with
    | nil =>
      simp only [walkOn, first]
      exact answers_pure fun calm _ => (account calm).finished first
    | cons id pending =>
      simp only [walkOn, first]
      split
      · rename_i seen
        exact ih since fun calm => (account calm).again first seen
      · refine answers_bind since (visit_answers faithful since id) ?_
        intro result after next later told
        have still : Undisturbed origin after → walk.Account origin seed :=
          fun calm => account (calm.before since.later later)
        cases result with
        | missing => exact ih next fun calm => (still calm).absent first (told calm)
        | known permissions => exact ih next fun calm => (still calm).known first (told calm)
        | failed fault => exact answers_pure fun _ impossible => by cases impossible
        | entered role =>
          have held : Undisturbed origin after →
              walk.found.Exactly (· ∈ walk.found.members) :=
            fun _ => ⟨fun _ h => h, fun _ => Holdings.contains_of_mem⟩
          refine answers_bind next (collectGranted_answers faithful role.privileges.names next held) ?_
          rintro ⟨found, fault⟩ last final later' collected
          cases fault with
          | some fault => exact answers_pure fun _ impossible => by cases impossible
          | none =>
            refine ih final fun calm => ?_
            have before := calm.before next.later later'
            exact (still before).entered first (told before) (collected calm rfl)

theorem collect_answers (faithful : reads.Faithful) (since : Since origin service) (id : String) :
    (collect reads origin.resolver.epoch id).Answers origin service (Collected.Right origin id) :=
  answers_get (walkOn_answers faithful id _ since fun _ => Walk.startingAt_account origin id)

def Collected.ended (collected : Collected) : Bool := collected.2.isNone

def HoldingsTold (origin : Service) (id : String) : Except StoreFault Holdings → Prop
  | .ok found => found.Exactly (origin.Confers id)
  | .error _ => True

-- What the lock is told of the last run is how it ended, and a run it is told of was right.
theorem underLock_answers {run : Act Collected} {id : String}
    (runs : ∀ {service : Service}, Since origin service →
      run.Answers origin service (Collected.Right origin id)) (lock : Lock) :
    ∀ {service : Service} {last : Collected} {told : Option Bool}, Since origin service →
      lock.HonestAfter told → (∀ ended, told = some ended → last.ended = ended) →
      (told ≠ none → Undisturbed origin service → last.Right origin id) →
      (underLock run lock last).Answers origin service (HoldingsTold origin id) := by
  induction lock with
  | grant =>
    intro service last told _ honest told_last right
    have ended := told_last true honest
    exact answers_pure fun calm =>
      right (by rw [honest]; exact Option.some_ne_none true) calm (Option.isNone_iff_eq_none.mp ended)
  | deny fault => intro service last told _ _ _ _; exact answers_pure fun _ => trivial
  | relay =>
    intro service last told _ honest _ right
    cases ended : last.2 with
    | none => simp only [underLock, ended]; exact answers_pure fun calm => right honest calm ended
    | some fault => simp only [underLock, ended]; exact answers_pure fun _ => trivial
  | run succeeded failed good bad =>
    intro service last told since honest _ _
    refine answers_bind since (runs since) ?_
    rintro ⟨found, fault⟩ after next _ right
    have told_last : ∀ {ended}, Collected.ended (found, fault) = ended →
        ∀ other, some ended = some other → Collected.ended (found, fault) = other :=
      fun same other equal => same.trans (Option.some.inj equal)
    cases fault with
    | none => exact good next honest.1 (told_last rfl) fun _ => right
    | some fault => exact bad next honest.2 (told_last rfl) fun _ => right

theorem note_fades (service : Service) (use : StoreUse) :
    service.Fades { service with store := service.store.note use } :=
  { Fades.refl service with
    contents := ⟨rfl, rfl⟩
    tame := fun tame => ⟨tame.failures, tame.lock⟩ }

theorem lockedRun_answers (faithful : reads.Faithful) (since : Since origin service) (id : String) :
    (lockedRun (collect reads origin.resolver.epoch id)).Answers origin service
      (HoldingsTold origin id) := by
  have noted := note_fades service .opened
  have next := since.next noted.later (noted.sound since.sound)
  refine answers_modify_bind next.sound noted.later ?_
  exact answers_get (underLock_answers (fun since => collect_answers faithful since id) _ next
    next.sound.tame.lock (fun _ impossible => by cases impossible) fun first => absurd rfl first)

def ResolveTold (origin : Service) (id : String) :
    Except StoreFault (Numbered Holdings) → Prop
  | .ok held => held.value.Exactly (origin.Confers id)
  | .error _ => True

theorem shareSet_answers (since : Since origin service) (found : Holdings) :
    (shareSet found).Answers origin service fun shared => shared.value = found :=
  answers_modifyGet since { Fades.refl service with } fun _ => rfl

theorem rememberRole_answers (since : Since origin service) {id : String} {held : Numbered Holdings}
    (right : Undisturbed origin service → held.value.Exactly (origin.Confers id)) :
    (changeResolver (·.rememberRole origin.resolver.epoch id held)).Answers origin service
      fun _ => True := by
  refine answers_modify ?_ (later_rememberRole service _ id held) trivial
  refine since.sound.rememberRole fun epoch steady => ?_
  have calm := since.calm epoch steady
  rw [calm.confers since.later]
  exact right calm

theorem resolve_answers (faithful : reads.Faithful) (since : Since origin service) (id : String) :
    (resolve reads id).Answers origin service (ResolveTold origin id) := by
  unfold resolve
  refine answers_bind since (knownRole_answers since id) ?_
  intro known after next _ held
  cases known with
  | some permissions => exact answers_pure fun calm => held calm permissions rfl
  | none =>
    refine answers_get (Answers.sinceOrigin next (?_ : Answers _ after after (ResolveTold after id)) ?_)
    · have start := Since.start next.sound
      refine answers_bind start (lockedRun_answers faithful start id) ?_
      intro result ran sinceRan _ told
      cases result with
      | error fault => exact answers_pure fun _ => trivial
      | ok found =>
        refine answers_bind sinceRan (shareSet_answers sinceRan found) ?_
        intro shared sharing sinceShared later same
        have right : Undisturbed after sharing → shared.value.Exactly (after.Confers id) := by
          intro calm
          rw [same calm]
          exact told (calm.before sinceRan.later later)
        refine answers_bind sinceShared (rememberRole_answers sinceShared right) ?_
        intro _ remembered sinceRemembered later' _
        have settled := Fades.ofResolver (Resolver.settle_fades remembered.resolver id)
        refine answers_modify_bind (settled.sound sinceRemembered.sound) settled.later ?_
        exact answers_pure fun calm =>
          right (calm.before sinceShared.later (later'.trans settled.later))
    · intro calm result told
      cases result with
      | error fault => trivial
      | ok held =>
        show held.value.Exactly (origin.Confers id)
        rw [← calm.confers next.later]
        exact told

def MergeTold (origin : Service) (already : Permission → Prop) (roles : List String) :
    Except StoreFault Holdings → Prop
  | .ok found => found.Exactly fun permission =>
      already permission ∨ ∃ role ∈ roles, origin.Confers role permission
  | .error _ => True

theorem mergeRoles_answers (faithful : reads.Faithful) (roles : List String) :
    ∀ {service : Service} {found : Holdings} {already : Permission → Prop}, Since origin service →
      (Undisturbed origin service → found.Exactly already) →
      (mergeRoles reads roles found).Answers origin service (MergeTold origin already roles) := by
  induction roles with
  | nil =>
    intro service found already _ holds
    exact answers_pure fun calm => (holds calm).congr fun _ => by simp
  | cons role roles ih =>
    intro service found already since holds
    refine answers_bind since (resolve_answers faithful since role) ?_
    intro result after next later told
    cases result with
    | error fault => exact answers_pure fun _ => trivial
    | ok held =>
      have more := fun calm : Undisturbed origin after =>
        (holds (calm.before since.later later)).merge (told calm)
      refine (ih next more).weaken next ?_
      intro _ result told
      cases result with
      | error fault => trivial
      | ok all => exact Holdings.Exactly.congr told fun permission => by simp [or_assoc]

end RepositoryAccess
