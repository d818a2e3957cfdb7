import RepositoryAccess.Proofs.Checks

namespace RepositoryAccess
open RepositoryAccess.Text RepositoryAccess.Directory
open Service Act

section Unasking
variable {α β : Type} {course : Act α}

-- From here the course asks no manager, and whoever the users are and whichever realms are active has no
-- part in it.
structure Act.Unasking (course : Act α) (service : Service) : Prop where
  questions : (course.run service).2.questions = service.questions
  unswayed : ∀ managers active, course.run (service.among managers active) =
    ((course.run service).1, (course.run service).2.among managers active)

def Act.AsksNobody (course : Act α) : Prop := ∀ service : Service, service.interruptions = [] →
  course.Unasking service ∧ (course.run service).2.interruptions = []

theorem asksNobody_bind {next : α → Act β} (first : course.AsksNobody)
    (continued : ∀ result, (next result).AsksNobody) : (course >>= next).AsksNobody := by
  intro service quiet
  obtain ⟨early, still⟩ := first service quiet
  obtain ⟨late, last⟩ := continued _ _ still
  refine ⟨⟨?_, ?_⟩, ?_⟩
  · rw [run_bind]
    exact late.questions.trans early.questions
  · intro managers active
    rw [run_bind, run_bind, early.unswayed]
    exact late.unswayed managers active
  · rw [run_bind]
    exact last

theorem asksNobody_modifyGet {change : Service → α × Service}
    (questions : ∀ service, (change service).2.questions = service.questions)
    (interruptions : ∀ service, (change service).2.interruptions = service.interruptions)
    (unswayed : ∀ service managers active, change (service.among managers active) =
      ((change service).1, (change service).2.among managers active)) :
    (modifyGet change : Act α).AsksNobody :=
  fun service quiet => ⟨⟨questions service, unswayed service⟩, (interruptions service).trans quiet⟩

theorem asksNobody_discipline : Discipline AsksNobody where
  pure _ _ quiet := ⟨⟨rfl, fun _ _ => rfl⟩, quiet⟩
  bind := asksNobody_bind
  get := by
    intro β next _ blind continued service quiet
    obtain ⟨unasking, last⟩ := continued service service quiet
    refine ⟨⟨unasking.questions, ?_⟩, last⟩
    intro managers active
    show (next (service.among managers active)).run (service.among managers active) = _
    rw [blind]
    exact unasking.unswayed managers active
  use _ := asksNobody_modifyGet (fun _ => rfl) (fun _ => rfl) fun _ _ _ => rfl
  alter _ := asksNobody_modifyGet (fun _ => rfl) (fun _ => rfl) fun _ _ _ => rfl
  note _ := asksNobody_modifyGet (fun _ => rfl) (fun _ => rfl) fun _ _ _ => rfl
  share _ := asksNobody_modifyGet (fun _ => rfl) (fun _ => rfl) fun _ _ _ => rfl

variable (perform : Step → Act Answer)

theorem interrupted_asksNobody (kind : ReadKind) (id : String) : (interrupted perform kind id).AsksNobody := by
  intro service quiet
  have quietAmong (managers : List Manager) (active : List String) :
      (service.among managers active).interruptions = [] := quiet
  rw [interrupted_quiet perform quiet]
  refine ⟨⟨?_, ?_⟩, quiet⟩
  · rw [interrupted_quiet perform quiet]
  · intro managers active
    rw [interrupted_quiet perform quiet, interrupted_quiet perform (quietAmong managers active)]

theorem interruptedReads_asksNobody : (interruptedReads perform).Follow AsksNobody := by
  have noted (use : StoreUse) : AsksNobody (modify fun service =>
      { service with store := service.store.note use }) := asksNobody_discipline.note use
  refine ⟨fun id => ?_, fun id => ?_⟩
  · exact asksNobody_discipline.get (fun _ _ => rfl) (fun _ _ _ => rfl) fun _ =>
      asksNobody_bind (noted _) fun _ => asksNobody_bind (interrupted_asksNobody perform .role id) fun _ =>
        asksNobody_discipline.pure _
  · exact asksNobody_discipline.get (fun _ _ => rfl) (fun _ _ _ => rfl) fun _ =>
      asksNobody_bind (noted _) fun _ => asksNobody_bind (interrupted_asksNobody perform .privilege id) fun _ =>
        asksNobody_discipline.pure _

theorem judge_asksNobody (handle text : String) (found : Except Fault Entitlement) :
    (judge (interruptedReads perform) handle text found).AsksNobody :=
  asksNobody_discipline.judge (interruptedReads_asksNobody perform)
    (fun _ _ => asksNobody_modifyGet (fun _ => rfl) (fun _ => rfl) fun _ _ _ => rfl) text found

theorem keepDecision_asksNobody (cache : Nat) (text : String) (result : Except Fault Bool) :
    (keepDecision cache text result).AsksNobody := by
  cases result with
  | error fault => exact asksNobody_discipline.pure _
  | ok decision =>
    exact asksNobody_bind (asksNobody_modifyGet (fun _ => rfl) (fun _ => rfl) fun _ _ _ => rfl) fun _ =>
      asksNobody_discipline.pure _

end Unasking

inductive Inquiry
  | entitle (handle : String) (principals : Option Principals)
  | check (handle : String) (principals : Option Principals) (text : String)

namespace Inquiry

def handle : Inquiry → String
  | entitle handle _ | check handle _ _ => handle

def principals : Inquiry → Option Principals
  | entitle _ principals | check _ principals _ => principals

def entitles (cache : Nat) (service : Service) : Inquiry → Bool
  | entitle _ _ => true
  | check _ _ text => ((service.requests.cache cache).decision text).isNone

def leave (reads : Reads) (cache : Nat) (service : Service) : Inquiry → Service
  | entitle handle principals => ((RepositoryAccess.entitle handle principals cache).run service).2
  | check handle principals text => ((RepositoryAccess.check reads handle principals text cache).run service).2

end Inquiry

structure Made where
  inquiry : Inquiry
  moment : Service

namespace Made

def outcome (made : Made) (cache : Nat) : Outcome :=
  ((entitle made.inquiry.handle made.inquiry.principals cache).run made.moment).1

def asks (made : Made) (cache : Nat) (handle : String) : Bool :=
  made.inquiry.handle = handle && made.inquiry.entitles cache made.moment

end Made

def decideFrom (reads : Reads) (handle text : String) (cache : Nat) (outcome : Outcome) :
    Act (Except Fault Bool) := do
  let result ← judge reads handle text (outcome.map (·.value))
  keepDecision cache text result

variable {reads : Reads} {perform : Step → Act Answer} {service before middle after : Service}
  {handle text : String} {principals : Option Principals} {cache : Nat}

theorem check_from (undecided : (service.requests.cache cache).decision text = none) :
    (check reads handle principals text cache).run service =
      (entitle handle principals cache >>= decideFrom reads handle text cache).run service :=
  check_parts undecided

theorem decideFrom_asksNobody (perform : Step → Act Answer) (handle text : String) (cache : Nat)
    (outcome : Outcome) : (decideFrom (interruptedReads perform) handle text cache outcome).AsksNobody :=
  asksNobody_bind (judge_asksNobody perform handle text _) fun _ => keepDecision_asksNobody cache text _

namespace Service

-- Nothing waits to interrupt, the cache of the request is there, and realms are numbered as before.
structure Stays (cache : Nat) (before after : Service) : Prop where
  quiet : after.interruptions = []
  inRange : cache < after.requests.caches.length
  known : ∀ handle, before.Known handle → after.Known handle
  number : ∀ handle, before.Known handle → (after.realm handle).number = (before.realm handle).number

structure Spares (cache : Nat) (before after : Service) : Prop extends Stays cache before after where
  outcomes : ∀ number,
    (after.requests.cache cache).outcome number = (before.requests.cache cache).outcome number

theorem Stays.trans (early : before.Stays cache middle) (late : middle.Stays cache after) :
    before.Stays cache after where
  quiet := late.quiet
  inRange := late.inRange
  known handle known := late.known handle (early.known handle known)
  number handle known := (late.number handle (early.known handle known)).trans (early.number handle known)

theorem Stays.refl (quiet : service.interruptions = []) (inRange : cache < service.requests.caches.length) :
    service.Stays cache service := ⟨quiet, inRange, fun _ known => known, fun _ _ => rfl⟩

theorem Spares.trans (early : before.Spares cache middle) (late : middle.Spares cache after) :
    before.Spares cache after :=
  ⟨early.toStays.trans late.toStays, fun number => (late.outcomes number).trans (early.outcomes number)⟩

end Service

theorem judge_spares (quiet : service.interruptions = []) (inRange : cache < service.requests.caches.length)
    (found : Except Fault Entitlement) :
    service.Spares cache ((judge (interruptedReads perform) handle text found).run service).2 := by
  obtain ⟨routine, blind⟩ := judge_secluded perform handle text found service quiet
  have same : ((judge (interruptedReads perform) handle text found).run service).2.requests = service.requests :=
    congrArg (fun ended => ended.2.requests) (blind ⟨service.requests, service.questions, service.entitlements⟩)
  refine ⟨⟨routine.interruptions.trans quiet, ?_, fun _ => routine.known.mpr, ?_⟩, ?_⟩
  · rw [same]
    exact inRange
  · intro other _
    rw [routine.realm other]
  · intro number
    rw [same]

theorem keepDecision_spares (quiet : service.interruptions = [])
    (inRange : cache < service.requests.caches.length) (result : Except Fault Bool) :
    service.Spares cache ((keepDecision cache text result).run service).2 := by
  cases result with
  | error fault => exact ⟨.refl quiet inRange, fun _ => rfl⟩
  | ok decision =>
    refine ⟨⟨quiet, ?_, fun _ known => known, fun _ _ => rfl⟩, ?_⟩
    · show cache < (service.requests.update cache _).caches.length
      rw [Requests.update_length]
      exact inRange
    · intro number
      show ((service.requests.update cache (·.recordDecision text decision)).cache cache).outcome number = _
      rw [Requests.cache_update inRange]
      rfl

theorem decideFrom_spares (quiet : service.interruptions = [])
    (inRange : cache < service.requests.caches.length) (outcome : Outcome) :
    service.Spares cache ((decideFrom (interruptedReads perform) handle text cache outcome).run service).2 := by
  have judged := @judge_spares perform service handle text cache quiet inRange (outcome.map (·.value))
  unfold decideFrom
  rw [run_bind]
  exact judged.trans (keepDecision_spares judged.quiet judged.inRange _)

theorem entitle_stays (quiet : service.interruptions = []) (inRange : cache < service.requests.caches.length) :
    service.Stays cache ((entitle handle principals cache).run service).2 := by
  cases held : (service.requests.cache cache).outcome (service.realm handle).number with
  | some outcome =>
    rw [entitle_recorded held]
    exact .refl quiet inRange
  | none =>
    obtain ⟨outcome, aside, ran, _, requests⟩ := @entitle_anew service handle principals cache held
    rw [ran]
    refine ⟨quiet, ?_, fun _ known => known, fun _ _ => rfl⟩
    show cache < aside.requests.caches.length
    rw [requests, Requests.update_length]
    exact inRange

-- What a realm has found out before stays; otherwise what it finds out now is recorded under its number.
theorem entitle_outcome (inRange : cache < service.requests.caches.length) (number : Nat) :
    (((entitle handle principals cache).run service).2.requests.cache cache).outcome number =
      ((service.requests.cache cache).outcome number).or
        (if number = (service.realm handle).number then
          some ((entitle handle principals cache).run service).1 else none) := by
  cases held : (service.requests.cache cache).outcome (service.realm handle).number with
  | some outcome =>
    rw [entitle_recorded held]
    by_cases own : number = (service.realm handle).number
    · rw [own, held, Option.some_or]
    · rw [if_neg own, Option.or_none]
  | none =>
    obtain ⟨outcome, aside, ran, _, requests⟩ := @entitle_anew service handle principals cache held
    rw [ran]
    show (aside.requests.cache cache).outcome number = _
    rw [requests, Requests.cache_update inRange, RequestCache.outcome_recordOutcome]
    by_cases own : number = (service.realm handle).number
    · rw [if_pos own, if_pos own, own, held, Option.none_or]
    · rw [if_neg own, if_neg own, Option.or_none]

variable {inquiry : Inquiry}

theorem leave_check (quiet : service.interruptions = []) (inRange : cache < service.requests.caches.length)
    (undecided : (service.requests.cache cache).decision text = none) :
    ((entitle handle principals cache).run service).2.Spares cache
      ((check (interruptedReads perform) handle principals text cache).run service).2 := by
  have stays := @entitle_stays service handle principals cache quiet inRange
  rw [check_from undecided, run_bind]
  exact decideFrom_spares stays.quiet stays.inRange _

theorem leave_stays (quiet : service.interruptions = []) (inRange : cache < service.requests.caches.length) :
    service.Stays cache (inquiry.leave (interruptedReads perform) cache service) := by
  cases inquiry with
  | entitle handle principals => exact entitle_stays quiet inRange
  | check handle principals text =>
    cases decided : (service.requests.cache cache).decision text with
    | some decision =>
      show service.Stays cache ((check _ _ _ _ _).run service).2
      rw [check_decided decided]
      exact .refl quiet inRange
    | none => exact (entitle_stays quiet inRange).trans (leave_check quiet inRange decided).toStays

theorem leave_outcome (quiet : service.interruptions = []) (inRange : cache < service.requests.caches.length)
    (number : Nat) :
    ((inquiry.leave (interruptedReads perform) cache service).requests.cache cache).outcome number =
      ((service.requests.cache cache).outcome number).or
        (if inquiry.entitles cache service = true ∧ number = (service.realm inquiry.handle).number then
          some (Made.outcome ⟨inquiry, service⟩ cache) else none) := by
  cases inquiry with
  | entitle handle principals =>
    simp only [Inquiry.entitles, true_and]
    exact entitle_outcome inRange number
  | check handle principals text =>
    cases decided : (service.requests.cache cache).decision text with
    | some decision =>
      simp only [Inquiry.leave, check_decided decided, Inquiry.entitles, decided, Option.isNone_some,
        Bool.false_eq_true, false_and, if_false, Option.or_none]
    | none =>
      simp only [Inquiry.entitles, decided, Option.isNone_none, true_and]
      exact ((leave_check quiet inRange decided).outcomes number).trans (entitle_outcome inRange number)

end RepositoryAccess
