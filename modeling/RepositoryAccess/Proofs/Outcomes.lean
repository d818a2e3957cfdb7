import RepositoryAccess.Proofs.Inquiries
import RepositoryAccess.Proofs.RequestMemory

namespace RepositoryAccess
open RepositoryAccess.Text RepositoryAccess.Directory
open Service Act

-- Realms are asked one after the other.  In between anything may change but what realms have found out.
inductive Service.Proceeds (reads : Reads) (cache : Nat) (start : Service) : List Made → Service → Prop
  | begin : Proceeds reads cache start [] start
  | inquire {history : List Made} {service : Service} (inquiry : Inquiry) :
      Proceeds reads cache start history service → start.Known inquiry.handle →
      Proceeds reads cache start (history ++ [⟨inquiry, service⟩]) (inquiry.leave reads cache service)
  | between {history : List Made} {service after : Service} :
      Proceeds reads cache start history service → service.Spares cache after →
      Proceeds reads cache start history after

-- The inquiry in which a realm was first asked what the principals are entitled to.
def firstAsked (cache : Nat) (history : List Made) (handle : String) : Option Made :=
  history.find? (·.asks cache handle)

-- What the realm has said: what was recorded for it at the start, or else what it said when first asked.
def Service.said (start : Service) (cache : Nat) (history : List Made) (handle : String) : Option Outcome :=
  ((start.requests.cache cache).outcome (start.realm handle).number).or
    ((firstAsked cache history handle).map (·.outcome cache))

-- What the realm said is what was recorded for it at the start, or what it found out by itself when asked.
def Made.Own (made : Made) (cache : Nat) (start : Service) : Prop :=
  match (start.requests.cache cache).outcome (start.realm made.inquiry.handle).number with
  | some recorded => made.outcome cache = recorded
  | none => (made.outcome cache).map (·.value) = made.moment.found made.inquiry.handle made.inquiry.principals

-- The realm keeps to what it said, without asking anybody.  If it failed to say what the principals are
-- entitled to, it decides nothing that was not decided before.
structure Service.Abides (reads : Reads) (cache : Nat) (handle : String) (outcome : Outcome)
    (now : Service) : Prop where
  entitles : ∀ principals, (entitle handle principals cache).run now = (outcome, now)
  checks : ∀ principals text, (check reads handle principals text cache).Unasking now
  fails : ∀ fault, outcome = .error fault → ∀ principals text,
    (check reads handle principals text cache).run now =
      (((now.requests.cache cache).decision text).elim (.error fault) .ok, now)

-- A check of a decided text asks nobody.  Any other asks only while the realm says what the principals are
-- entitled to.
structure Service.AsksByEntitling (reads : Reads) (cache : Nat) (handle : String) (now : Service) : Prop where
  decided : ∀ principals text decision, (now.requests.cache cache).decision text = some decision →
    (check reads handle principals text cache).Unasking now ∧
      (check reads handle principals text cache).run now = (.ok decision, now)
  undecided : ∀ principals text, (now.requests.cache cache).decision text = none →
    (check reads handle principals text cache).run now =
      (entitle handle principals cache >>= decideFrom reads handle text cache).run now
  afterwards : ∀ text outcome, (decideFrom reads handle text cache outcome).AsksNobody

structure Service.Minds (cache : Nat) (start : Service) (history : List Made) (service : Service) : Prop where
  stays : start.Stays cache service
  recorded : ∀ handle, start.Known handle →
    (service.requests.cache cache).outcome (start.realm handle).number = start.said cache history handle
  own : ∀ handle made, start.Known handle → firstAsked cache history handle = some made → made.Own cache start

variable {perform : Step → Act Answer} {cache : Nat} {start service after now : Service} {history : List Made}
  {inquiry : Inquiry} {handle : String} {made : Made}

theorem firstAsked_append (cache : Nat) (history : List Made) (made : Made) (handle : String) :
    firstAsked cache (history ++ [made]) handle =
      (firstAsked cache history handle).or (if made.asks cache handle then some made else none) := by
  rw [firstAsked, List.find?_append, List.find?_singleton]
  rfl

theorem spares_among (quiet : service.interruptions = []) (inRange : cache < service.requests.caches.length)
    (managers : List Manager) (active : List String) : service.Spares cache (service.among managers active) :=
  ⟨⟨quiet, inRange, fun _ known => known, fun _ _ => rfl⟩, fun _ => rfl⟩

namespace Service.Minds

theorem begin (quiet : start.interruptions = []) (inRange : cache < start.requests.caches.length) :
    start.Minds cache [] start where
  stays := .refl quiet inRange
  recorded _ _ := by rw [said, firstAsked, List.find?_nil, Option.map_none, Option.or_none]
  own _ _ _ nobody := nomatch nobody

theorem between (minds : start.Minds cache history service) (spares : service.Spares cache after) :
    start.Minds cache history after where
  stays := minds.stays.trans spares.toStays
  recorded handle known := (spares.outcomes _).trans (minds.recorded handle known)
  own := minds.own

theorem own_anew (minds : start.Minds cache history service) (known : start.Known inquiry.handle)
    (nobody : firstAsked cache history inquiry.handle = none) : Made.Own ⟨inquiry, service⟩ cache start := by
  have recorded := minds.recorded inquiry.handle known
  rw [said, nobody, Option.map_none, Option.or_none, ← minds.stays.number _ known] at recorded
  unfold Made.Own Made.outcome
  dsimp only
  rw [← minds.stays.number _ known, ← recorded]
  cases held : (service.requests.cache cache).outcome (service.realm inquiry.handle).number with
  | some outcome => exact congrArg Prod.fst (entitle_recorded held)
  | none =>
    obtain ⟨outcome, aside, ran, found, _⟩ := @entitle_anew service inquiry.handle inquiry.principals cache held
    rw [ran]
    exact found

theorem inquire (minds : start.Minds cache history service) (apart : start.Apart)
    (known : start.Known inquiry.handle) :
    start.Minds cache (history ++ [⟨inquiry, service⟩])
      (inquiry.leave (interruptedReads perform) cache service) := by
  have stays := minds.stays
  refine ⟨stays.trans (leave_stays stays.quiet stays.inRange), ?_, ?_⟩
  · intro other knownOther
    have same : (start.realm other).number = (start.realm inquiry.handle).number ↔ inquiry.handle = other :=
      ⟨fun same => (apart _ _ knownOther known same).symm, fun same => by rw [same]⟩
    rw [leave_outcome stays.quiet stays.inRange, minds.recorded other knownOther, said, said,
      firstAsked_append, Option.map_or, Option.or_assoc, stays.number _ known]
    congr 2
    simp only [same]
    unfold Made.asks
    by_cases asked : inquiry.handle = other
    · by_cases entitles : inquiry.entitles cache service = true <;> simp [asked, entitles]
    · simp [asked]
  · intro other first knownOther isFirst
    rw [firstAsked_append] at isFirst
    cases before : firstAsked cache history other with
    | some earlier =>
      rw [before, Option.some_or] at isFirst
      exact minds.own other first knownOther (before.trans isFirst)
    | none =>
      rw [before, Option.none_or] at isFirst
      split at isFirst
      · rename_i asks
        cases isFirst
        have same : inquiry.handle = other := (by simpa [Made.asks] using asks : _ ∧ _).1
        exact minds.own_anew known (same ▸ before)
      · cases isFirst

end Service.Minds

theorem Service.Proceeds.minds (proceeds : start.Proceeds (interruptedReads perform) cache history now)
    (apart : start.Apart) (quiet : start.interruptions = []) (inRange : cache < start.requests.caches.length) :
    start.Minds cache history now := by
  induction proceeds with
  | begin => exact .begin quiet inRange
  | inquire inquiry _ known ih => exact ih.inquire apart known
  | between _ spares ih => exact ih.between spares

theorem check_decided_unasking {decision : Bool} (principals : Option Principals) {text : String}
    (decided : (now.requests.cache cache).decision text = some decision) :
    (check reads handle principals text cache).Unasking now := by
  have ran := @check_decided reads now handle text principals cache decision decided
  refine ⟨by rw [ran], ?_⟩
  intro managers active
  rw [ran]
  exact check_decided decided

theorem abides_of_recorded {outcome : Outcome} (quiet : now.interruptions = [])
    (held : (now.requests.cache cache).outcome (now.realm handle).number = some outcome) :
    now.Abides (interruptedReads perform) cache handle outcome := by
  have entitles : ∀ principals, (entitle handle principals cache).run now = (outcome, now) :=
    fun principals => entitle_recorded held
  refine ⟨entitles, ?_, ?_⟩
  · intro principals text
    cases decided : (now.requests.cache cache).decision text with
    | some decision => exact check_decided_unasking principals decided
    | none =>
      obtain ⟨unasking, _⟩ := decideFrom_asksNobody perform handle text cache outcome now quiet
      have ran : (check (interruptedReads perform) handle principals text cache).run now =
          (decideFrom (interruptedReads perform) handle text cache outcome).run now := by
        rw [check_from decided, run_bind, entitles]
      refine ⟨by rw [ran]; exact unasking.questions, ?_⟩
      intro managers active
      have heldAmong : ((now.among managers active).requests.cache cache).outcome
        ((now.among managers active).realm handle).number = some outcome := held
      have undecided : ((now.among managers active).requests.cache cache).decision text = none := decided
      rw [ran, ← unasking.unswayed, check_from undecided, run_bind, entitle_recorded heldAmong]
  · intro fault failed principals text
    cases decided : (now.requests.cache cache).decision text with
    | some decision => exact check_decided decided
    | none =>
      rw [check_from decided, run_bind, entitles, failed]
      rfl

theorem asksByEntitling (perform : Step → Act Answer) (cache : Nat) (handle : String) (now : Service) :
    now.AsksByEntitling (interruptedReads perform) cache handle where
  decided principals _ _ decided := ⟨check_decided_unasking principals decided, check_decided decided⟩
  undecided _ _ undecided := check_from undecided
  afterwards text outcome := decideFrom_asksNobody perform handle text cache outcome

theorem realm_keeps_to_its_first_outcome (depth : Nat) (quiet : start.interruptions = [])
    (distinct : (start.realms.map (·.number)).Nodup) (inRange : cache < start.requests.caches.length)
    (proceeds : start.Proceeds (interruptedReads (performWithin depth)) cache history now)
    (known : start.Known handle) :
    let reads := interruptedReads (performWithin depth)
    now.AsksByEntitling reads cache handle ∧
      (∀ made, firstAsked cache history handle = some made → made.Own cache start) ∧
      ∀ outcome, start.said cache history handle = some outcome → now.Abides reads cache handle outcome := by
  intro reads
  have minds := proceeds.minds (apart_of_nodup distinct) quiet inRange
  refine ⟨asksByEntitling _ cache handle now, fun made => minds.own handle made known, ?_⟩
  intro outcome said
  apply abides_of_recorded minds.stays.quiet
  rw [minds.stays.number handle known, minds.recorded handle known, said]

def stranger : Principals := ⟨"ann", .ofList ["ldap"]⟩

def admitting : Manager := ⟨"users", defaultSource, some "ldap", false, [.new "ann" defaultSource ["reader"]], []⟩

-- Once the source is active the realm would find a role, but it has said already that it does not know the user.
theorem refusal_outlasts_admission :
    let reads := interruptedReads (performWithin 1)
    let refused := ((check reads "realm" (some stranger) "target:read" 0).run sharing).2
    let admitted := refused.among [admitting] ["ldap"]
    ∃ fault entitlement, admitted.found "realm" (some stranger) = .ok entitlement ∧
      (entitle "realm" (some stranger) 0).run admitted = (.error fault, admitted) ∧
      (check reads "realm" (some stranger) "target:read" 0).run admitted = (.error fault, admitted) := by
  intro reads refused admitted
  have known : sharing.Known "realm" := by decide +kernel
  have inRange : 0 < sharing.requests.caches.length := by decide +kernel
  have refusing : sharing.Proceeds reads 0 [⟨.check "realm" (some stranger) "target:read", sharing⟩] refused :=
    .inquire (.check "realm" (some stranger) "target:read") .begin known
  have proceeds : sharing.Proceeds reads 0 [⟨.check "realm" (some stranger) "target:read", sharing⟩] admitted :=
    .between refusing (spares_among (by decide +kernel) (by decide +kernel) _ _)
  obtain ⟨fault, said⟩ : ∃ fault, sharing.said 0
      [⟨.check "realm" (some stranger) "target:read", sharing⟩] "realm" = some (.error fault) :=
    ⟨_, rfl⟩
  obtain ⟨_, _, abides⟩ := realm_keeps_to_its_first_outcome 1 rfl (by decide +kernel) inRange proceeds
    known
  have undecided : (admitted.requests.cache 0).decision "target:read" = none := by decide +kernel
  have kept := abides _ said
  refine ⟨fault, _, rfl, kept.entitles _, ?_⟩
  rw [kept.fails fault rfl, undecided]
  rfl

end RepositoryAccess
