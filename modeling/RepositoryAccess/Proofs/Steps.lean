import RepositoryAccess.Proofs.RealmSets

namespace RepositoryAccess
open RepositoryAccess.Text RepositoryAccess.Directory RepositoryAccess.Events
open Service Act

variable {α β : Type} {reads : Reads} {service after : Service} {course : Act α}

-- The course passes through sound states only and comes to an end after its beginning.
def Act.Sustains (course : Act α) (service : Service) : Prop :=
  course.Keeps Sound service fun _ after => Later service after

namespace Act

theorem Answers.sustains {origin : Service} {right : α → Prop}
    (answered : course.Answers origin service right) : course.Sustains service :=
  Keeps.weaken answered fun _ _ known => known.1

theorem sustains_pure (result : α) : (pure result : Act α).Sustains service :=
  keeps_pure (.refl _)

theorem sustains_bind {next : α → Act β} (sound : service.Sound) (first : course.Sustains service)
    (continued : ∀ result after, after.Sound → Later service after →
      (next result).Sustains after) : (course >>= next).Sustains service :=
  keeps_bind sound first fun result after soundAfter later =>
    (continued result after soundAfter later).weaken fun _ _ => later.trans

theorem sustains_get {next : Service → Act β} (continued : (next service).Sustains service) :
    (get >>= next : Act β).Sustains service := continued

theorem sustains_modify {change : Service → Service} (sound : (change service).Sound)
    (later : Later service (change service)) : (modify change : Act PUnit).Sustains service :=
  keeps_modify sound later

theorem sustains_fades {change : Service → α × Service} (sound : service.Sound)
    (faded : service.Fades (change service).2) : (modifyGet change : Act α).Sustains service :=
  keeps_modifyGet (faded.sound sound) faded.later

theorem sustains_modifyGet_bind {change : Service → α × Service} {next : α → Act β}
    (sound : (change service).2.Sound) (later : Later service (change service).2)
    (continued : (next (change service).1).Sustains (change service).2) :
    (modifyGet change >>= next : Act β).Sustains service := by
  have changed : (modifyGet change : Act α).Keeps Sound service fun _ _ => True :=
    keeps_modifyGet sound trivial
  exact keeps_then changed.1 (Keeps.weaken continued fun _ _ => later.trans)

theorem sustains_then {result : β} (sound : service.Sound) (first : course.Sustains service) :
    (do let _ ← course; return result : Act β).Sustains service :=
  sustains_bind sound first fun _ _ _ _ => sustains_pure _

end Act
namespace Service

theorem Sound.change (sound : service.Sound) {f : Store → Store} (tame : (f service.store).Tame) :
    (service.change f).Sound ∧ Later service (service.change f) := by
  by_cases same : (f service.store).SameContents service.store
  · have faded : service.Fades { service with store := f service.store } :=
      { Fades.refl service with contents := same, tame := fun _ => tame }
    rw [show service.change f = { service with store := f service.store } from if_pos same]
    exact ⟨faded.sound sound, faded.later⟩
  · have bounded := sound.emptied
    -- A changed store is not steady, so that nothing stored has to agree with it.
    have unsteady : ¬ service.emptied = service.version + 1 := by omega
    rw [show service.change f =
      { service with store := f service.store, version := service.version + 1 } from if_neg same]
    refine ⟨?_, ?_⟩
    · exact { sound with
        tame := tame
        emptied := Nat.le_succ_of_le bounded
        coherent := fun steady => absurd steady unsteady
        current := fun steady => absurd steady unsteady }
    · exact { Later.refl service with
        version := Nat.le_succ _
        contents := fun same => absurd same (Nat.succ_ne_self _) }

theorem Sound.invalidate (sound : service.Sound) :
    service.invalidate.Sound ∧ Later service service.invalidate := by
  refine ⟨?_, ?_⟩
  · exact { sound with
      emptied := Nat.le_refl _
      coherent := fun _ => ⟨fun _ member => absurd member List.not_mem_nil,
        fun _ member => absurd member List.not_mem_nil, fun _ member => absurd member List.not_mem_nil⟩
      seen := fun realm member => Nat.le_succ_of_le (sound.seen realm member)
      current := fun _ realm member epoch =>
        absurd (epoch ▸ sound.seen realm member) (Nat.not_succ_le_self _) }
  · exact { Later.refl service with
      epoch := Nat.le_succ _
      emptied := sound.emptied
      sameEpoch := fun same => absurd same (Nat.succ_ne_self _) }

def noteGeneration (service : Service) : Service :=
  { service with resolver := { service.resolver with generation := service.store.generation } }

theorem noteGeneration_fades (service : Service) : service.Fades service.noteGeneration :=
  Fades.ofResolver { Resolver.Fades.refl service.resolver with }

theorem meetGeneration_cases (service : Service) :
    service.store.generation ≠ service.resolver.generation ∧
        service.meetGeneration = (true, service.noteGeneration.invalidate) ∨
      service.store.generation = service.resolver.generation ∧
        service.meetGeneration = (false, service.noteGeneration) := by
  by_cases same : service.store.generation = service.resolver.generation
  · refine .inr ⟨same, ?_⟩
    simp [Service.meetGeneration, Resolver.meetGeneration, same, noteGeneration]
  · refine .inl ⟨same, ?_⟩
    simp [Service.meetGeneration, Resolver.meetGeneration, same, noteGeneration, Service.invalidate,
      Resolver.invalidate]

theorem Sound.meetGeneration (sound : service.Sound) :
    service.meetGeneration.2.Sound ∧ Later service service.meetGeneration.2 := by
  have noted := noteGeneration_fades service
  rcases meetGeneration_cases service with ⟨_, changed⟩ | ⟨_, same⟩
  · rw [changed]
    obtain ⟨emptied, later⟩ := (noted.sound sound).invalidate
    exact ⟨emptied, noted.later.trans later⟩
  · rw [same]
    exact ⟨noted.sound sound, noted.later⟩

theorem interruption_fades (service : Service) (kind : ReadKind) (id : String) :
    service.Fades (service.interruption kind id).2 := by
  unfold interruption
  dsimp only
  split
  · exact .refl _
  · exact { Fades.refl service with waiting := fun _ => List.mem_of_mem_eraseP }

theorem interruption_tame (sound : service.Sound) (kind : ReadKind) (id : String) :
    Step.AllTame (service.interruption kind id).1 := by
  unfold interruption
  dsimp only
  split
  · trivial
  · rename_i waiting found
    exact sound.waiting waiting (List.mem_of_find?_eq_some found)

end Service

-- A way of performing steps that keeps services sound, provided the steps are tame.
def Steadfast (perform : Step → Act Answer) : Prop :=
  ∀ (step : Step) (service : Service), step.Tame → service.Sound → (perform step).Sustains service

theorem performAside_sustains {perform : Step → Act Answer} (steadfast : Steadfast perform)
    (steps : List Step) : ∀ {service : Service}, Step.AllTame steps → service.Sound →
      (performAside perform steps).Sustains service := by
  induction steps with
  | nil => intro service _ _; exact sustains_pure _
  | cons step steps ih =>
    intro service tame sound
    refine sustains_bind sound (steadfast step service tame.1 sound) ?_
    intro answer after soundAfter _
    have faded : after.Fades { after with asides := after.asides ++ [answer] } :=
      { Fades.refl after with }
    exact sustains_bind soundAfter (sustains_modify (faded.sound soundAfter) faded.later)
      fun _ _ sound _ => ih tame.2 sound

theorem interrupted_sustains {perform : Step → Act Answer} (steadfast : Steadfast perform)
    (sound : service.Sound) (kind : ReadKind) (id : String) :
    (interrupted perform kind id).Sustains service := by
  have faded := interruption_fades service kind id
  exact sustains_modifyGet_bind (faded.sound sound) faded.later
    (performAside_sustains steadfast _ (interruption_tame sound kind id) (faded.sound sound))

-- The result of a read is decided before anything can interrupt it.
theorem interrupted_result {perform : Step → Act Answer} (steadfast : Steadfast perform)
    (sound : service.Sound) (kind : ReadKind) (id : String) (result : α) :
    (do
      modify fun service => { service with store := service.store.note (.read kind id) }
      interrupted perform kind id
      return result : Act α).Keeps Sound service fun returned after =>
        Later service after ∧ returned = result := by
  have noted := note_fades service (.read kind id)
  have rest := interrupted_sustains steadfast (noted.sound sound) kind id
  have noting : (modify fun service => { service with
      store := service.store.note (.read kind id) } : Act PUnit).Keeps Sound service fun _ after =>
        after = { service with store := service.store.note (.read kind id) } :=
    keeps_modify (noted.sound sound) rfl
  refine keeps_bind sound noting ?_
  rintro _ _ soundNoted rfl
  refine keeps_bind soundNoted rest fun _ after _ later => ?_
  exact keeps_pure ⟨noted.later.trans later, rfl⟩

theorem interruptedReads_faithful {perform : Step → Act Answer} (steadfast : Steadfast perform) :
    (interruptedReads perform).Faithful where
  role service id sound := interrupted_result steadfast sound .role id (service.store.readRole id)
  privilege service id sound :=
    interrupted_result steadfast sound .privilege id (service.store.readPrivilege id)

theorem sustains_elsewhere {change : Service → Service} (sound : service.Sound)
    (faded : service.Fades (change service)) : (modify change : Act PUnit).Sustains service :=
  sustains_modify (faded.sound sound) faded.later

theorem onResolver_sustains {f : Resolver → α × Resolver} (sound : service.Sound)
    (faded : service.resolver.Fades (f service.resolver).2) : (onResolver f).Sustains service :=
  sustains_fades sound (Fades.ofResolver faded)

theorem change_sustains (sound : service.Sound) {f : Store → Store}
    (tame : (f service.store).Tame) :
    (modify (·.change f) : Act PUnit).Sustains service :=
  sustains_modify (sound.change tame).1 (sound.change tame).2

theorem invalidate_sustains (sound : service.Sound) :
    (modify (·.invalidate) : Act PUnit).Sustains service :=
  sustains_modify sound.invalidate.1 sound.invalidate.2

theorem shutdown_sustains (sound : service.Sound) : shutdown.Sustains service := by
  obtain ⟨emptied, later⟩ := sound.invalidate
  have faded : service.invalidate.Fades { service.invalidate with background := none } :=
    { Fades.refl service.invalidate with }
  exact sustains_modify (faded.sound emptied) (later.trans faded.later)

theorem react_sustains (sound : service.Sound) (reaction : Reaction) :
    (react reaction).Sustains service := by
  cases reaction with
  | invalidate => exact invalidate_sustains sound
  | shutdown => exact shutdown_sustains sound

theorem reactAll_sustains (reactions : List Reaction) :
    ∀ {service : Service}, service.Sound → (reactAll reactions).Sustains service := by
  induction reactions with
  | nil => intro service _; exact sustains_pure _
  | cons reaction reactions ih =>
    intro service sound
    exact sustains_bind sound (react_sustains sound reaction) fun _ _ sound _ => ih sound

theorem giveTurn_sustains (sound : service.Sound) : giveTurn.Sustains service := by
  refine sustains_elsewhere sound ?_
  split
  · exact { Fades.refl service with }
  · exact .refl _

theorem checkDirty_sustains (faithful : reads.Faithful) (sound : service.Sound) :
    (checkDirty reads).Sustains service := by
  have ending : ∀ (readable : Bool) (after : Service), after.Sound →
      (if readable then modifyGet (·.meetGeneration) else return false : Act Bool).Sustains after := by
    intro readable after sound
    split
    · exact keeps_modifyGet sound.meetGeneration.1 sound.meetGeneration.2
    · exact sustains_pure _
  unfold checkDirty
  refine sustains_get ?_
  cases service.resolver.latest with
  | none => exact ending true service sound
  | some id =>
    have read : (reads.role id).Sustains service :=
      (faithful.role service id sound).weaken fun _ _ known => known.1
    refine sustains_bind sound read fun result after soundAfter _ => ?_
    cases result with
    | ok role => exact ending true after soundAfter
    | error fault => exact ending fault.isNotFound after soundAfter

theorem tick_sustains (faithful : reads.Faithful) (sound : service.Sound) :
    (tick reads).Sustains service := by
  refine sustains_get ?_
  show Sustains (if _ then _ else _) service
  split
  · exact sustains_then sound (checkDirty_sustains faithful sound)
  · exact sustains_pure _

theorem ticks_sustains (faithful : reads.Faithful) (count : Nat) :
    ∀ {service : Service}, service.Sound → (ticks reads count).Sustains service := by
  induction count with
  | zero => intro service _; exact sustains_pure _
  | succ count ih =>
    intro service sound
    exact sustains_bind sound (tick_sustains faithful sound) fun _ _ sound _ => ih sound

theorem pass_sustains (faithful : reads.Faithful) (sound : service.Sound) (milliseconds : Nat) :
    (pass reads milliseconds).Sustains service := by
  refine sustains_bind sound (giveTurn_sustains sound) fun _ after sound _ => ?_
  refine sustains_get (sustains_get ?_)
  refine sustains_bind sound (ticks_sustains faithful _ sound) fun _ after sound _ => ?_
  have faded := after.resolver.wait_fades milliseconds
  refine sustains_bind sound (sustains_elsewhere sound (.ofResolver faded)) fun _ last sound _ => ?_
  exact sustains_elsewhere sound { Fades.refl last with }

theorem listen_sustains (sound : service.Sound) (capacity : Nat) (events : List Event) :
    (listen capacity events).Sustains service :=
  sustains_bind sound (giveTurn_sustains sound) fun _ _ sound _ => reactAll_sustains _ sound

theorem cacheNamed_sustains (sound : service.Sound) (name : String) :
    (cacheNamed name).Sustains service :=
  sustains_fades sound { Fades.refl service with }

theorem updateCache_sustains (sound : service.Sound) (number : Nat)
    (f : RequestCache → RequestCache) : (updateCache number f).Sustains service :=
  sustains_bind sound (sustains_elsewhere sound { Fades.refl service with }) fun _ _ _ _ =>
    sustains_get (sustains_pure _)

theorem shareEntitlement_sustains (sound : service.Sound) (entitlement : Entitlement) :
    (shareEntitlement entitlement).Sustains service :=
  sustains_fades sound { Fades.refl service with }

theorem shareOutcome_sustains (sound : service.Sound) (result : Except Fault Entitlement) :
    (shareOutcome result).Sustains service := by
  cases result with
  | ok entitlement =>
    exact sustains_bind sound (shareEntitlement_sustains sound entitlement) fun _ _ _ _ =>
      sustains_pure _
  | error fault => exact sustains_pure _

theorem entitle_sustains (sound : service.Sound) (handle : String) (principals : Option Principals)
    (cache : Nat) : (entitle handle principals cache).Sustains service := by
  unfold entitle
  refine sustains_get (sustains_get ?_)
  split
  · exact sustains_pure _
  · refine sustains_bind sound (sustains_fades sound { Fades.refl service with }) ?_
    intro result after sound _
    refine sustains_bind sound (shareOutcome_sustains sound result) fun _ last sound _ => ?_
    exact sustains_then sound (sustains_elsewhere sound { Fades.refl last with })

theorem check_sustains (faithful : reads.Faithful) (sound : service.Sound) (handle : String)
    (principals : Option Principals) (text : String) (cache : Nat) :
    (check reads handle principals text cache).Sustains service := by
  unfold check
  refine sustains_get ?_
  split
  · exact sustains_pure _
  · refine sustains_bind sound (entitle_sustains sound handle principals cache) ?_
    intro outcome after sound _
    cases outcome with
    | error fault => exact sustains_pure _
    | ok entitlement =>
      refine sustains_bind sound (onResolver_sustains sound (Resolver.create_fades _ text)) ?_
      intro made made_ sound _
      cases made with
      | error malformed => exact sustains_pure _
      | ok asked =>
        refine sustains_bind sound (permitted_answers faithful (.start sound) handle asked _).sustains ?_
        intro result last sound _
        cases result with
        | error fault => exact sustains_pure _
        | ok decision => exact sustains_then sound (sustains_elsewhere sound { Fades.refl last with })

theorem interrupt_sustains (sound : service.Sound) (kind : ReadKind) (id : String)
    {steps : List Step} (tame : Step.AllTame steps) :
    (modify fun service => { service with
      interruptions := service.interruptions ++ [⟨kind, id, steps⟩] } : Act PUnit).Sustains service := by
  refine sustains_modify ?_ { Later.refl service with }
  refine { sound with
    coherent := fun steady => { sound.coherent steady with }
    waiting := fun interruption member => ?_ }
  rcases List.mem_append.mp member with old | new
  · exact sound.waiting interruption old
  · rw [List.mem_singleton.mp new]
    exact tame

theorem performWith_sustains (faithful : reads.Faithful) : Steadfast (performWith reads) := by
  intro step service tame sound
  have kept := sound.tame
  cases step with
  | putRole | dropRole | putPrivilege | dropPrivilege =>
    refine sustains_then sound (change_sustains sound ?_)
    unfold Store.advance
    split <;> exact ⟨kept.failures, kept.lock⟩
  | setGeneration => exact sustains_then sound (change_sustains sound ⟨kept.failures, kept.lock⟩)
  | breakRole => exact sustains_then sound (change_sustains sound ⟨kept.failures, kept.lock⟩)
  | failReads failure =>
    refine sustains_then sound (change_sustains sound ⟨?_, kept.lock⟩)
    intro told member
    rcases List.mem_cons.mp member with rfl | old
    · exact tame
    · exact kept.failures told (List.mem_filter.mp old).1
  | heal =>
    exact sustains_then sound (change_sustains sound ⟨fun _ member => absurd member List.not_mem_nil,
      kept.lock⟩)
  | useLock lock => exact sustains_then sound (change_sustains sound ⟨kept.failures, tame⟩)
  | interrupt kind id steps => exact sustains_then sound (interrupt_sustains sound kind id tame)
  | putUser | dropUser | putMapping | setActive =>
    exact sustains_then sound (sustains_elsewhere sound { Fades.refl service with })
  | resolve role =>
    have resolved := resolve_answers faithful (.start sound) role
    exact sustains_bind sound resolved.sustains fun _ _ _ _ => sustains_pure _
  | permits role text =>
    have resolved := resolve_answers faithful (.start sound) role
    refine sustains_bind sound resolved.sustains fun result _ sound _ => ?_
    cases result with
    | error fault => exact sustains_pure _
    | ok held =>
      refine sustains_bind sound (onResolver_sustains sound (Resolver.create_fades _ text)) ?_
      intro made _ _ _
      cases made with
      | error malformed => exact sustains_pure _
      | ok asked => exact sustains_pure _
  | create text =>
    refine sustains_bind sound (onResolver_sustains sound (Resolver.create_fades _ text)) ?_
    intro made _ _ _
    cases made with
    | error malformed => exact sustains_pure _
    | ok asked => exact sustains_pure _
  | clearMint =>
    exact sustains_then sound (sustains_elsewhere sound (Fades.ofResolver Resolver.clearMint_fades))
  | invalidate =>
    exact sustains_bind sound (invalidate_sustains sound) fun _ _ _ _ => sustains_get (sustains_pure _)
  | checkDirty =>
    exact sustains_bind sound (checkDirty_sustains faithful sound) fun _ _ _ _ => sustains_pure _
  | notify event =>
    exact sustains_bind sound (react_sustains sound event.reaction) fun _ _ _ _ =>
      sustains_get (sustains_pure _)
  | start =>
    refine sustains_bind sound (sustains_elsewhere sound ?_) fun _ _ _ _ =>
      sustains_get (sustains_pure _)
    split
    · exact .refl _
    · exact { Fades.refl service with }
  | running => exact sustains_get (sustains_pure _)
  | pass milliseconds =>
    exact sustains_bind sound (pass_sustains faithful sound milliseconds) fun _ _ _ _ =>
      sustains_get (sustains_pure _)
  | shutdown =>
    exact sustains_bind sound (shutdown_sustains sound) fun _ _ _ _ => sustains_get (sustains_pure _)
  | listen capacity events =>
    exact sustains_bind sound (listen_sustains sound capacity events) fun _ _ _ _ =>
      sustains_get (sustains_pure _)
  | describe realm principal => exact sustains_get (sustains_pure _)
  | entitle realm principals cache =>
    refine sustains_bind sound (cacheNamed_sustains sound cache) fun number _ sound _ => ?_
    exact sustains_bind sound (entitle_sustains sound realm principals number) fun _ _ _ _ =>
      sustains_pure _
  | permissions realm entitlement =>
    have entitled := entitledPermissions_answers faithful (.start sound) realm entitlement
    exact sustains_bind sound entitled.sustains fun _ _ _ _ => sustains_pure _
  | permitted realm text entitlement =>
    cases parsed : Permission.parse text with
    | error malformed => simp only [performWith, parsed]; exact sustains_pure _
    | ok asked =>
      simp only [performWith, parsed]
      have decided := permitted_answers faithful (.start sound) realm asked entitlement
      exact sustains_bind sound decided.sustains fun _ _ _ _ => sustains_pure _
  | permittedAll realm texts entitlement =>
    cases parsed : texts.mapM Permission.parse with
    | error malformed => simp only [performWith, parsed]; exact sustains_pure _
    | ok asked =>
      simp only [performWith, parsed]
      have decided := permittedAll_answers faithful (.start sound) realm asked entitlement
      refine sustains_bind sound decided.sustains fun result _ _ _ => ?_
      cases result with
      | error fault => exact sustains_pure _
      | ok decisions => exact sustains_pure _
  | check realm principals text cache =>
    refine sustains_bind sound (cacheNamed_sustains sound cache) fun number _ sound _ => ?_
    refine sustains_bind sound (check_sustains faithful sound realm principals text number)
      fun result _ _ _ => ?_
    cases result with
    | error fault => exact sustains_pure _
    | ok decision => exact sustains_pure _
  | subject cache authenticated request => exact sustains_fades sound { Fades.refl service with }
  | decision cache text =>
    exact sustains_get (sustains_bind sound (cacheNamed_sustains sound cache) fun _ _ _ _ =>
      sustains_pure _)
  | recordDecision cache text granted =>
    refine sustains_bind sound (cacheNamed_sustains sound cache) fun number _ sound _ => ?_
    exact sustains_bind sound (updateCache_sustains sound number _) fun _ _ _ _ => sustains_pure _
  | authenticate cache principals =>
    refine sustains_bind sound (cacheNamed_sustains sound cache) fun number _ sound _ => ?_
    exact sustains_then sound (updateCache_sustains sound number _)
  | authenticated cache =>
    refine sustains_get (sustains_bind sound (cacheNamed_sustains sound cache) fun _ _ _ _ => ?_)
    split <;> exact sustains_pure _
  | outcome cache realm =>
    refine sustains_get (sustains_bind sound (cacheNamed_sustains sound cache) fun _ _ _ _ => ?_)
    refine sustains_get ?_
    split <;> exact sustains_pure _
  | recordOutcome cache realm result =>
    refine sustains_bind sound (shareOutcome_sustains sound result) fun outcome _ sound _ => ?_
    refine sustains_get (sustains_bind sound (cacheNamed_sustains sound cache) ?_)
    intro number _ sound _
    exact sustains_then sound (updateCache_sustains sound number _)

theorem performWithin_steadfast (depth : Nat) : Steadfast (performWithin depth) := by
  induction depth with
  | zero => intro step service _ _; exact sustains_pure _
  | succ depth ih => exact performWith_sustains (interruptedReads_faithful ih)

end RepositoryAccess
