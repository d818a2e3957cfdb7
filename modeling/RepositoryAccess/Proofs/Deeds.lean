import Mathlib.Data.List.Chain
import RepositoryAccess.Proofs.Course
import RepositoryAccess.Proofs.Bystanding

namespace RepositoryAccess
open RepositoryAccess.Text RepositoryAccess.Directory RepositoryAccess.Events

inductive Service.Deed (service : Service) : Service → Prop
  | use {resolver : Resolver} : service.resolver.Use resolver →
      service.Deed { service with resolver }
  | note (use : StoreUse) : service.Deed { service with store := service.store.note use }
  | change (f : Store → Store) : service.Deed (service.change f)
  | invalidate : service.Deed service.invalidate
  | shutdown : service.Deed { service.invalidate with background := none }
  | meetGeneration : service.Deed service.meetGeneration.2
  | meetEpoch (handle : String) :
      service.Deed (service.modifyRealm handle (·.meetEpoch service.resolver.epoch))
  | lookUp (handle : String) (roles : NameSet) : service.Deed (service.modifyRealm handle fun realm =>
      { realm with roleSets := ((service.realm handle).roleSets.get roles).2 })
  | remember (handle : String) {roles : NameSet} (held : Numbered Holdings) : roles.isEmpty = false →
      service.Deed (service.modifyRealm handle (·.remember roles held))
  | elsewhere (managers : List Manager) (active : List String) (requests : Requests)
      (interruptions : List Interruption) (clock : Nat) (background : Option Background)
      (sets entitlements : Numbering) (questions : List (String × Question)) (asides : List Answer) :
      service.Deed { service with
        managers, active, requests, interruptions, clock, background, sets, entitlements, questions, asides }

open Service

namespace Act

variable {α β : Type} {course : Act α} {service : Service}

-- From every service the course gets on by deeds alone.
def Orderly (course : Act α) : Prop :=
  ∀ service, (service :: course.moments service).IsChain Deed

theorem chain_bind {move : Service → Service → Prop} {next : α → Act β}
    (first : (service :: course.moments service).IsChain move)
    (rest : ((course.run service).2 :: (next (course.run service).1).moments
      (course.run service).2).IsChain move) :
    (service :: (course >>= next).moments service).IsChain move := by
  induction course generalizing service with
  | done result => exact rest
  | look body ih => exact ih service first rest
  | put changed body ih =>
    obtain ⟨moved, later⟩ := List.isChain_cons_cons.mp first
    exact List.isChain_cons_cons.mpr ⟨moved, ih later rest⟩

theorem orderly_pure (result : α) : (pure result : Act α).Orderly :=
  fun service => List.isChain_singleton service

theorem orderly_bind {next : α → Act β} (first : course.Orderly)
    (continued : ∀ result, (next result).Orderly) : (course >>= next).Orderly :=
  fun service => chain_bind (first service) (continued _ _)

theorem orderly_get {next : Service → Act β} (continued : ∀ service, (next service).Orderly) :
    (get >>= next : Act β).Orderly := fun service => continued service service

theorem orderly_modifyGet {change : Service → α × Service}
    (deed : ∀ service : Service, service.Deed (change service).2) :
    (modifyGet change : Act α).Orderly :=
  fun service => List.isChain_cons_cons.mpr ⟨deed service, List.isChain_singleton _⟩

theorem orderly_modify {change : Service → Service}
    (deed : ∀ service : Service, service.Deed (change service)) :
    (modify change : Act PUnit).Orderly := orderly_modifyGet deed

-- What no deed takes away holds all along, whatever else is known of one state and the next.
theorem Orderly.holds {move : Service → Service → Prop} {property : Service → Prop}
    (orderly : course.Orderly) (moved : (service :: course.moments service).IsChain move)
    (kept : ∀ before after : Service, before.Deed after → move before after → property before →
      property after) (first : property service) :
    ∀ moment ∈ service :: course.moments service, property moment := by
  have deeds := orderly service
  generalize course.moments service = rest at moved deeds ⊢
  induction rest generalizing service with
  | nil =>
    intro moment passed
    rw [List.mem_singleton.mp passed]
    exact first
  | cons next rest ih =>
    obtain ⟨deed, deeds⟩ := List.isChain_cons_cons.mp deeds
    obtain ⟨move, moved⟩ := List.isChain_cons_cons.mp moved
    intro moment passed
    rcases List.mem_cons.mp passed with rfl | after
    · exact first
    · exact ih (kept _ _ deed move first) moved deeds moment after

theorem Orderly.run_keeps {property : Service → Prop} (orderly : course.Orderly)
    (kept : ∀ before after : Service, property before → before.Deed after → property after)
    (first : property service) : property (course.run service).2 :=
  orderly.holds (orderly service) (fun before after deed _ held => kept before after held deed) first _
    (run_mem course service)

end Act

open Act

variable {α : Type} {reads : Reads}

theorem orderly_discipline : Discipline Orderly where
  pure := orderly_pure
  bind := orderly_bind
  get _ _ := orderly_get
  use use := orderly_modifyGet fun service => .use (use service.resolver)
  alter use := orderly_modify fun service => .use (use service.resolver)
  note use := orderly_modify fun _ => .note use
  share _ := orderly_modifyGet fun _ => .elsewhere _ _ _ _ _ _ _ _ _ _

theorem elsewhere_orderly {change : Service → α × Service}
    (same : ∀ service : Service, service.Elsewhere (change service).2) : (modifyGet change : Act α).Orderly := by
  refine orderly_modifyGet fun service => ?_
  rw [same]
  exact .elsewhere _ _ _ _ _ _ _ _ _ _

theorem orderly_bystanding : Bystanding Orderly where
  pure := orderly_pure
  bind := orderly_bind
  get := orderly_get
  elsewhere := elsewhere_orderly
  interrupt _ _ _ _ := orderly_modify fun _ => .elsewhere _ _ _ _ _ _ _ _ _ _
  change _ := orderly_modify fun _ => .change _
  create text := orderly_discipline.use fun _ => .create text
  clearMint := orderly_discipline.alter fun _ => .clearMint

theorem findSet_orderly (handle : String) (roles : NameSet) : (findSet handle roles).Orderly :=
  fun _ => .cons_cons (.meetEpoch handle) (.cons_cons (.lookUp handle roles) (.singleton _))

theorem orderly_deciding (follow : reads.Follow Orderly) (handle : String) :
    Deciding reads handle Orderly where
  toSequencing := orderly_discipline.toSequencing
  resolve := orderly_discipline.resolve follow
  create text := orderly_discipline.use fun _ => .create text
  share := orderly_discipline.share
  find := findSet_orderly handle
  remember some held := orderly_modify fun _ => .remember handle held some

theorem checkDirty_orderly (follow : reads.Follow Orderly) : (checkDirty reads).Orderly := by
  have ending : ∀ readable : Bool,
      (if readable then modifyGet (·.meetGeneration) else return false : Act Bool).Orderly := by
    intro readable
    split
    · exact orderly_modifyGet fun _ => .meetGeneration
    · exact orderly_pure _
  refine orderly_get fun service => ?_
  cases service.resolver.latest with
  | none => exact ending true
  | some id =>
    refine orderly_bind (follow.role id) fun result => ?_
    cases result with
    | ok role => exact ending true
    | error fault => exact ending fault.isNotFound

theorem entitledPermissions_orderly (follow : reads.Follow Orderly) (handle : String)
    (entitlement : Entitlement) : (entitledPermissions reads handle entitlement).Orderly :=
  (orderly_deciding follow handle).entitledPermissions entitlement

theorem permitted_orderly (follow : reads.Follow Orderly) (handle : String) (asked : Permission)
    (entitlement : Entitlement) : (permitted reads handle asked entitlement).Orderly :=
  (orderly_deciding follow handle).permitted asked entitlement

theorem permittedAll_orderly (follow : reads.Follow Orderly) (handle : String) (asked : List Permission)
    (entitlement : Entitlement) : (permittedAll reads handle asked entitlement).Orderly := by
  unfold permittedAll
  split
  · exact orderly_pure _
  · refine orderly_bind (entitledPermissions_orderly follow handle entitlement) fun result => ?_
    cases result <;> exact orderly_pure _

theorem check_orderly (follow : reads.Follow Orderly) (handle : String) (principals : Option Principals)
    (text : String) (cache : Nat) : (check reads handle principals text cache).Orderly := by
  refine orderly_get fun service => ?_
  split
  · exact orderly_pure _
  · refine orderly_bind (orderly_bystanding.entitle handle principals cache) fun outcome => ?_
    cases outcome with
    | error fault => exact orderly_pure _
    | ok entitlement =>
      refine orderly_bind (orderly_discipline.use fun _ => .create text) fun made => ?_
      cases made with
      | error malformed => exact orderly_pure _
      | ok asked =>
        refine orderly_bind (permitted_orderly follow handle asked _) fun result => ?_
        cases result with
        | error fault => exact orderly_pure _
        | ok decision => exact orderly_bind (elsewhere_orderly fun _ => rfl) fun _ => orderly_pure _

theorem interruption_elsewhere (service : Service) (kind : ReadKind) (id : String) :
    (service.interruption kind id).2 =
      { service with interruptions := (service.interruption kind id).2.interruptions } := by
  unfold Service.interruption
  dsimp only
  split <;> rfl

theorem interruptedReads_orderly {perform : Step → Act Answer}
    (orderly : ∀ step, (perform step).Orderly) : (interruptedReads perform).Follow Orderly := by
  have interrupted : ∀ kind id, (interrupted perform kind id).Orderly := fun kind id => by
    refine orderly_bind (orderly_modifyGet fun service => ?_) fun steps =>
      orderly_bystanding.performAside steps fun step _ => orderly step
    rw [interruption_elsewhere]
    exact .elsewhere _ _ _ _ _ _ _ _ _ _
  refine ⟨fun id => ?_, fun id => ?_⟩
  · exact orderly_get fun service => orderly_bind (orderly_modify fun _ => .note _) fun _ =>
      orderly_bind (interrupted .role id) fun _ => orderly_pure _
  · exact orderly_get fun service => orderly_bind (orderly_modify fun _ => .note _) fun _ =>
      orderly_bind (interrupted .privilege id) fun _ => orderly_pure _

theorem invalidate_orderly : (modify (·.invalidate) : Act PUnit).Orderly :=
  orderly_modify fun _ => .invalidate

theorem shutdown_orderly : shutdown.Orderly := orderly_modify fun _ => .shutdown

theorem react_orderly (reaction : Reaction) : (react reaction).Orderly := by
  cases reaction with
  | invalidate => exact invalidate_orderly
  | shutdown => exact shutdown_orderly

theorem reactAll_orderly (reactions : List Reaction) : (reactAll reactions).Orderly := by
  induction reactions with
  | nil => exact orderly_pure _
  | cons reaction reactions ih => exact orderly_bind (react_orderly reaction) fun _ => ih

theorem giveTurn_orderly : giveTurn.Orderly := by
  refine elsewhere_orderly fun service => ?_
  dsimp only
  split <;> rfl

theorem ticks_orderly (follow : reads.Follow Orderly) (count : Nat) : (ticks reads count).Orderly := by
  induction count with
  | zero => exact orderly_pure _
  | succ count ih =>
    refine orderly_bind (orderly_get fun service => ?_) fun _ => ih
    show Orderly (if _ then _ else _)
    split
    · exact orderly_bind (checkDirty_orderly follow) fun _ => orderly_pure _
    · exact orderly_pure _

theorem pass_orderly (follow : reads.Follow Orderly) (milliseconds : Nat) :
    (pass reads milliseconds).Orderly := by
  refine orderly_bind giveTurn_orderly fun _ => orderly_get fun _ => orderly_get fun _ => ?_
  refine orderly_bind (ticks_orderly follow _) fun _ => ?_
  exact orderly_bind (orderly_discipline.alter fun _ => .wait _) fun _ => elsewhere_orderly fun _ => rfl

theorem listen_orderly (capacity : Nat) (events : List Event) : (listen capacity events).Orderly :=
  orderly_bind giveTurn_orderly fun _ => reactAll_orderly _

theorem performWith_orderly (follow : reads.Follow Orderly) (step : Step) :
    (performWith reads step).Orderly := by
  cases step with
  | interrupt kind id steps =>
    exact orderly_bind (orderly_modify fun _ => .elsewhere _ _ _ _ _ _ _ _ _ _) fun _ => orderly_pure _
  | resolve role => exact orderly_bind (orderly_discipline.resolve follow role) fun _ => orderly_pure _
  | permits role text =>
    refine orderly_bind (orderly_discipline.resolve follow role) fun result => ?_
    cases result with
    | error fault => exact orderly_pure _
    | ok permissions =>
      refine orderly_bind (orderly_bystanding.create text) fun made => ?_
      cases made <;> exact orderly_pure _
  | invalidate => exact orderly_bind invalidate_orderly fun _ => orderly_get fun _ => orderly_pure _
  | checkDirty => exact orderly_bind (checkDirty_orderly follow) fun _ => orderly_pure _
  | notify event => exact orderly_bind (react_orderly _) fun _ => orderly_get fun _ => orderly_pure _
  | pass milliseconds =>
    exact orderly_bind (pass_orderly follow milliseconds) fun _ => orderly_get fun _ => orderly_pure _
  | shutdown => exact orderly_bind shutdown_orderly fun _ => orderly_get fun _ => orderly_pure _
  | listen capacity events =>
    exact orderly_bind (listen_orderly capacity events) fun _ => orderly_get fun _ => orderly_pure _
  | permissions realm entitlement =>
    exact orderly_bind (entitledPermissions_orderly follow realm entitlement) fun _ => orderly_pure _
  | permitted realm text entitlement =>
    cases parsed : Permission.parse text with
    | error malformed => simp only [performWith, parsed]; exact orderly_pure _
    | ok asked =>
      simp only [performWith, parsed]
      exact orderly_bind (permitted_orderly follow realm asked entitlement) fun _ => orderly_pure _
  | permittedAll realm texts entitlement =>
    cases parsed : texts.mapM Permission.parse with
    | error malformed => simp only [performWith, parsed]; exact orderly_pure _
    | ok asked =>
      simp only [performWith, parsed]
      refine orderly_bind (permittedAll_orderly follow realm asked entitlement) fun result => ?_
      cases result <;> exact orderly_pure _
  | check realm principals text cache =>
    refine orderly_bind (orderly_bystanding.cacheNamed cache) fun number => ?_
    refine orderly_bind (check_orderly follow realm principals text number) fun result => ?_
    cases result <;> exact orderly_pure _
  | _ => exact orderly_bystanding.performWith reads _ trivial

theorem performWithin_orderly (depth : Nat) : ∀ step, (performWithin depth step).Orderly := by
  induction depth with
  | zero => exact fun step => orderly_pure _
  | succ depth ih => exact performWith_orderly (interruptedReads_orderly ih)

theorem perform_orderly (step : Step) : (perform step).Orderly :=
  orderly_get fun _ => performWithin_orderly _ step

end RepositoryAccess
