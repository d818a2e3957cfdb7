import Mathlib.Data.List.Nodup
import RepositoryAccess.Proofs.Checks

namespace RepositoryAccess
open RepositoryAccess.Text RepositoryAccess.Directory
open Service Act

structure Call where
  handle : String
  text : String

-- What a check comes to, and what it would come to at the same moment with an empty request cache.
structure Told where
  call : Call
  outcome : Except Fault Bool
  alone : Except Fault Bool

def Told.decides (told : Told) (text : String) : Bool := told.call.text = text && told.outcome.isOk

def tell (reads : Reads) (principals : Option Principals) (cache : Nat) (call : Call)
    (service : Service) : Told where
  call
  outcome := ((check reads call.handle principals call.text cache).run service).1
  alone := ((check reads call.handle principals call.text cache).run (service.forgetting cache)).1

def consult (reads : Reads) (principals : Option Principals) (cache : Nat) :
    List Call → Service → List Told
  | [], _ => []
  | call :: calls, service =>
    tell reads principals cache call service :: consult reads principals cache calls
      ((check reads call.handle principals call.text cache).run service).2

variable (perform : Step → Act Answer) {service : Service} {handle text : String}
  {principals : Option Principals} {cache : Nat}

namespace Service

def Apart (service : Service) : Prop := ∀ left right, service.Known left → service.Known right →
  (service.realm left).number = (service.realm right).number → left = right

theorem known_realm (known : service.Known handle) :
    service.realm handle ∈ service.realms ∧ (service.realm handle).handle = handle := by
  rcases realm_cases service handle with found | ⟨_, absent⟩
  · exact found
  · obtain ⟨realm, isRealm, named⟩ := List.mem_map.mp known
    exact absurd named (absent realm isRealm)

theorem apart_of_nodup (distinct : (service.realms.map (·.number)).Nodup) : service.Apart := by
  intro left right knownLeft knownRight same
  obtain ⟨isLeft, named⟩ := known_realm knownLeft
  obtain ⟨isRight, named'⟩ := known_realm knownRight
  rw [← named, ← named', List.inj_on_of_nodup_map distinct isLeft isRight same]

theorem Routine.apart {own : String → Prop} {before after : Service}
    (routine : Routine own before after) (apart : before.Apart) : after.Apart := by
  intro left right knownLeft knownRight same
  rw [routine.realm left, routine.realm right] at same
  exact apart left right (routine.known.mp knownLeft) (routine.known.mp knownRight) same

structure Stands (service : Service) (principals : Option Principals) (call : Call)
    (outcome : Except Fault Bool) : Prop where
  known : service.Known call.handle
  again : ∃ roles permissions asked, service.found call.handle principals = .ok (.ofRoles roles) ∧
    Permission.parse call.text = .ok asked ∧ outcome = .ok (permissions.permits asked) ∧
      service.Recalls call.handle roles permissions

variable {call : Call} {outcome : Except Fault Bool}

theorem Stands.alone (stands : service.Stands principals call outcome) (sound : service.Sound)
    (quiet : service.interruptions = []) :
    ((judge (interruptedReads perform) call.handle call.text
      (service.found call.handle principals)).run service).1 = outcome := by
  obtain ⟨known, roles, permissions, asked, found, parsed, rfl, recalls⟩ := stands
  obtain ⟨after, ran, _⟩ := recalls.judge perform sound quiet known call.text
  rw [found, ran, parsed]

theorem Stands.judged (stands : service.Stands principals call outcome) (sound : service.Sound)
    (quiet : service.interruptions = []) (handle text : String) :
    ((judge (interruptedReads perform) handle text (service.found handle principals)).run
      service).2.Stands principals call outcome := by
  obtain ⟨known, roles, permissions, asked, found, parsed, decided, recalls⟩ := stands
  have routine := (judge_secluded perform handle text (service.found handle principals) service quiet).1
  refine ⟨routine.known.mpr known, roles, permissions, asked, (routine.found _ _).trans found, parsed,
    decided, ?_⟩
  by_cases same : call.handle = handle
  · subst same
    obtain ⟨after, ran, again⟩ := recalls.judge perform sound quiet known text
    rw [found, ran]
    exact again
  · exact recalls.routine routine same

theorem stands_decided (sound : service.Sound) (quiet : service.interruptions = [])
    (known : service.Known call.handle) {decision : Bool} {after : Service}
    (judged : (judge (interruptedReads perform) call.handle call.text
      (service.found call.handle principals)).run service = (.ok decision, after)) :
    after.Stands principals call (.ok decision) := by
  have routine := (judge_secluded perform call.handle call.text (service.found call.handle principals)
    service quiet).1
  rw [judged] at routine
  cases found : service.found call.handle principals with
  | error fault => rw [found] at judged; cases judged
  | ok entitlement =>
    have ofRoles := Realm.find_ofRoles (found_iff.mp found)
    rw [found, ofRoles] at judged
    obtain ⟨permissions, asked, parsed, rfl, recalls⟩ := judge_recalls perform sound quiet known judged
    exact ⟨routine.known.mpr known, _, permissions, asked,
      (routine.found _ _).trans (found.trans (congrArg Except.ok ofRoles)), parsed, rfl, recalls⟩

end Service

theorem decides_iff {told : Told} : told.decides text = true ↔
    told.call.text = text ∧ ∃ decision, told.outcome = .ok decision := by
  unfold Told.decides
  rw [Bool.and_eq_true, decide_eq_true_iff]
  refine and_congr_right fun _ => ?_
  cases told.outcome <;> simp [Except.isOk, Except.toBool]

def firstDecider (history : List Told) (text : String) : Option Told :=
  history.find? (·.decides text)

def Told.decider (told : Told) (history : List Told) : Told :=
  (firstDecider history told.call.text).getD told

-- The outcome is what the realm that decides would come to if the request remembered nothing.
def Told.Explained (told : Told) (history : List Told) : Prop :=
  told.outcome = (told.decider history).alone ∧
    ((told.decider history).call.handle = told.call.handle → told.outcome = told.alone)

section History
variable {history : List Told} {told earlier : Told}

theorem decides_of_first (first : firstDecider history text = some told) :
    told.call.text = text ∧ ∃ decision, told.outcome = .ok decision := by
  unfold firstDecider at first
  have decides : told.decides text = true := by simpa using List.find?_some first
  exact decides_iff.mp decides

theorem decider_first (first : firstDecider history told.call.text = some earlier) :
    told.decider history = earlier := by
  unfold Told.decider
  rw [first]
  rfl

theorem decider_nobody (nobody : firstDecider history told.call.text = none) :
    told.decider history = told := by
  unfold Told.decider
  rw [nobody]
  rfl

theorem firstDecider_again (first : firstDecider history told.call.text = some earlier)
    (text : String) : firstDecider (history ++ [told]) text = firstDecider history text := by
  unfold firstDecider at *
  rw [List.find?_append]
  by_cases decides : told.decides text = true
  · obtain ⟨rfl, _⟩ := decides_iff.mp decides
    rw [first]
    rfl
  · rw [List.find?_singleton, if_neg decides, Option.or_none]

theorem firstDecider_new (nobody : firstDecider history told.call.text = none) (text : String) :
    firstDecider (history ++ [told]) text =
      if told.decides text then some told else firstDecider history text := by
  unfold firstDecider at *
  rw [List.find?_append, List.find?_singleton]
  by_cases decides : told.decides text = true
  · obtain ⟨rfl, _⟩ := decides_iff.mp decides
    rw [nobody, if_pos decides]
    rfl
  · rw [if_neg decides, if_neg decides, Option.or_none]

theorem decision_new (nobody : firstDecider history told.call.text = none) (text : String) :
    (firstDecider (history ++ [told]) text).bind (·.outcome.toOption) =
      if text = told.call.text then told.outcome.toOption
      else (firstDecider history text).bind (·.outcome.toOption) := by
  rw [firstDecider_new nobody]
  by_cases same : text = told.call.text
  · rw [if_pos same, same, nobody]
    cases decided : told.outcome with
    | error fault =>
      have failed : ¬ told.decides told.call.text = true := by simp [decides_iff, decided]
      rw [if_neg failed]
      rfl
    | ok decision =>
      rw [if_pos (decides_iff.mpr ⟨rfl, decision, decided⟩), Option.bind_some, decided]
  · have other : ¬ told.decides text = true := fun decides => same (decides_iff.mp decides).1.symm
    rw [if_neg same, if_neg other]

end History

-- What is remembered in the middle of a request, after the checks of `history`.
structure Service.Remembers (service : Service) (principals : Option Principals) (cache : Nat)
    (history : List Told) : Prop where
  sound : service.Sound
  quiet : service.interruptions = []
  apart : service.Apart
  inRange : cache < service.requests.caches.length
  recorded : ∀ handle, service.Known handle → service.Recorded principals cache handle
  decisions : ∀ text, (service.requests.cache cache).decision text =
    (firstDecider history text).bind (·.outcome.toOption)
  stands : ∀ text told, firstDecider history text = some told →
    told.outcome = told.alone ∧ service.Stands principals told.call told.outcome

namespace Service.Remembers

variable {history : List Told} {call : Call} {earlier : Told}

theorem again (remembers : service.Remembers principals cache history)
    (first : firstDecider history call.text = some earlier) :
    let told := tell (interruptedReads perform) principals cache call service
    let after := ((check (interruptedReads perform) call.handle principals call.text cache).run service).2
    after.Remembers principals cache (history ++ [told]) ∧
      (∀ handle, service.Known handle → after.Known handle) ∧ told.Explained history := by
  intro told after
  obtain ⟨named, decision, outcome⟩ := decides_of_first first
  obtain ⟨same, stands⟩ := remembers.stands call.text earlier first
  have decided : (service.requests.cache cache).decision call.text = some decision := by
    rw [remembers.decisions, first, Option.bind_some, outcome]
    rfl
  have ran : (check (interruptedReads perform) call.handle principals call.text cache).run service =
    (.ok decision, service) := check_decided decided
  have told_outcome : told.outcome = earlier.outcome := (congrArg Prod.fst ran).trans outcome.symm
  have unchanged : after = service := congrArg Prod.snd ran
  have asBefore : ∀ text, firstDecider (history ++ [told]) text = firstDecider history text :=
    firstDecider_again first
  rw [unchanged]
  refine ⟨?_, fun _ => id, ?_⟩
  · exact { remembers with
      decisions := fun text => by rw [asBefore]; exact remembers.decisions text
      stands := fun text => by rw [asBefore]; exact remembers.stands text }
  · unfold Told.Explained
    rw [show told.decider history = earlier from decider_first first]
    refine ⟨told_outcome.trans same, fun own => ?_⟩
    have alone := stands.alone perform remembers.sound remembers.quiet
    rw [show earlier.call.handle = call.handle from own, named] at alone
    exact told_outcome.trans (alone.symm.trans
      (check_alone perform remembers.quiet remembers.inRange call.handle call.text principals).symm)

theorem anew (remembers : service.Remembers principals cache history)
    (faithful : (interruptedReads perform).Faithful) (known : service.Known call.handle)
    (nobody : firstDecider history call.text = none) :
    let told := tell (interruptedReads perform) principals cache call service
    let after := ((check (interruptedReads perform) call.handle principals call.text cache).run service).2
    after.Remembers principals cache (history ++ [told]) ∧
      (∀ handle, service.Known handle → after.Known handle) ∧ told.Explained history := by
  intro told after
  let judged := (judge (interruptedReads perform) call.handle call.text
    (service.found call.handle principals)).run service
  have undecided : (service.requests.cache cache).decision call.text = none := by
    rw [remembers.decisions, nobody, Option.bind_none]
  have quiet := remembers.quiet
  obtain ⟨aside, ran, learned⟩ := check_undecided perform quiet remembers.inRange undecided
    (remembers.recorded call.handle known)
  have outcome : told.outcome = judged.1 := (congrArg Prod.fst ran :)
  have last : after = judged.2.beside aside := (congrArg Prod.snd ran :)
  have alone : told.outcome = told.alone := outcome.trans
    (check_alone perform quiet remembers.inRange call.handle call.text principals).symm
  have routine : Routine (· = call.handle) service after := by
    rw [last]
    exact { (judge_secluded perform call.handle call.text _ service quiet).1 with }
  have stand : ∀ {other result}, judged.2.Stands principals other result →
      after.Stands principals other result := by
    rw [last]
    exact fun stands => ⟨stands.known, stands.again⟩
  have requests : after.requests = aside.requests := congrArg Service.requests last
  have explained : told.Explained history := by
    unfold Told.Explained
    rw [show told.decider history = told from decider_nobody nobody]
    exact ⟨alone, fun _ => alone⟩
  refine ⟨?_, fun _ => routine.known.mpr, explained⟩
  exact {
    sound := holds_last remembers.sound
      (check_sustains faithful remembers.sound call.handle principals call.text cache).1
    quiet := routine.interruptions.trans quiet
    apart := routine.apart remembers.apart
    inRange := by rw [requests, learned.length]; exact remembers.inRange
    recorded := by
      intro handle knownAfter outcome held
      rw [requests, routine.realm handle] at held
      rw [routine.found]
      have before := routine.known.mp knownAfter
      rcases learned.outcome _ _ held with old | ⟨same, found⟩
      · exact remembers.recorded handle before outcome old
      · rw [remembers.apart handle call.handle before known same]
        exact found
    decisions := by
      intro text
      have decided : judged.1.toOption = told.outcome.toOption := congrArg _ outcome.symm
      rw [requests, learned.decision, remembers.decisions]
      refine Eq.trans ?_ (decision_new nobody text).symm
      rw [← decided]
      rfl
    stands := by
      intro text other first
      rw [firstDecider_new nobody] at first
      split at first
      · rename_i decides
        obtain ⟨rfl⟩ := first
        obtain ⟨_, decision, decided⟩ := decides_iff.mp decides
        refine ⟨alone, ?_⟩
        rw [decided]
        exact stand (stands_decided perform remembers.sound quiet known
          (Prod.ext (outcome.symm.trans decided) rfl))
      · obtain ⟨same, stands⟩ := remembers.stands text other first
        exact ⟨same, stand (stands.judged perform remembers.sound quiet call.handle call.text)⟩ }

theorem step (remembers : service.Remembers principals cache history)
    (faithful : (interruptedReads perform).Faithful) (known : service.Known call.handle) :
    let told := tell (interruptedReads perform) principals cache call service
    let after := ((check (interruptedReads perform) call.handle principals call.text cache).run service).2
    after.Remembers principals cache (history ++ [told]) ∧
      (∀ handle, service.Known handle → after.Known handle) ∧ told.Explained history := by
  cases first : firstDecider history call.text with
  | none => exact remembers.anew perform faithful known first
  | some earlier => exact remembers.again perform first

theorem start (sound : service.Sound) (quiet : service.interruptions = [])
    (distinct : (service.realms.map (·.number)).Nodup)
    (inRange : cache < service.requests.caches.length)
    (fresh : (service.requests.cache cache).Fresh) : service.Remembers principals cache [] where
  sound := sound
  quiet := quiet
  apart := apart_of_nodup distinct
  inRange := inRange
  recorded := by
    intro handle known outcome held
    rw [RequestCache.outcome, fresh.2] at held
    cases held
  decisions := by
    intro text
    rw [RequestCache.decision, fresh.1]
    rfl
  stands := nofun

theorem consult (faithful : (interruptedReads perform).Faithful) (calls : List Call) :
    ∀ {service : Service} {history : List Told}, service.Remembers principals cache history →
      (∀ call ∈ calls, service.Known call.handle) → ∀ before told after,
      consult (interruptedReads perform) principals cache calls service = before ++ told :: after →
      told.Explained (history ++ before) := by
  induction calls with
  | nil =>
    intro service history _ _ before told after consulted
    exact absurd consulted.symm (by simp [RepositoryAccess.consult])
  | cons call calls ih =>
    intro service history remembers known before told after consulted
    obtain ⟨next, still, explained⟩ :=
      remembers.step perform faithful (known call List.mem_cons_self)
    cases before with
    | nil =>
      obtain ⟨rfl, _⟩ := List.cons.inj consulted
      rw [List.append_nil]
      exact explained
    | cons first before =>
      obtain ⟨rfl, rest⟩ := List.cons.inj consulted
      have later := ih next (fun other member => still _ (known other (List.mem_cons_of_mem _ member)))
        before told after rest
      rw [List.append_assoc] at later
      exact later

end Service.Remembers

theorem request_repeats_first_decision {moment : Service} (occurs : moment.Occurs)
    (quiet : moment.interruptions = []) (distinct : (moment.realms.map (·.number)).Nodup)
    (depth : Nat) (principals : Option Principals) {cache : Nat}
    (inRange : cache < moment.requests.caches.length) (fresh : (moment.requests.cache cache).Fresh)
    {calls : List Call} (known : ∀ call ∈ calls, moment.Known call.handle) (before : List Told)
    (told : Told) (after : List Told)
    (consulted : consult (interruptedReads (performWithin depth)) principals cache calls moment =
      before ++ told :: after) :
    told.outcome = (told.decider before).alone ∧
      ((told.decider before).call.handle = told.call.handle → told.outcome = told.alone) :=
  Service.Remembers.consult _ (readsWithin_faithful depth) calls
    (.start occurs.sound quiet distinct inRange fresh) known before told after consulted

def sharing : Service :=
  { circling.addRealm {} "other" "authorizing" "guests" [] with
    managers := circling.managers ++
      [⟨"guests", defaultSource, none, false, [.new "ann" defaultSource []], []⟩]
    requests := (Requests.byName {} "request").2 }

def ann : Principals := ⟨"ann", .ofList ["authorizing"]⟩

def asked : List Call := [⟨"realm", "target:read"⟩, ⟨"other", "target:read"⟩, ⟨"realm", "target:read"⟩]

theorem sharing_occurs : sharing.Occurs := by
  have begins : sharing.Begins :=
    { circling_begins.addRealm {} "other" "authorizing" "guests" [] with }
  exact (Reached.begins begins).occurs

-- What the second realm says the first one has decided, and the first one repeats itself.
theorem sharing_explained : ∃ first second third,
    consult (interruptedReads (performWithin 1)) (some ann) 0 asked sharing = [first, second, third] ∧
      second.outcome = .ok true ∧ second.outcome = first.alone ∧ second.alone = .ok false ∧
        third.outcome = third.alone := by
  have known : ∀ call ∈ asked, sharing.Known call.handle := by decide +kernel
  have distinct : (sharing.realms.map (·.number)).Nodup := by decide +kernel
  have inRange : 0 < sharing.requests.caches.length := by decide +kernel
  have fresh : (sharing.requests.cache 0).Fresh := by decide +kernel
  obtain ⟨first, second, third, consulted⟩ : ∃ first second third,
      consult (interruptedReads (performWithin 1)) (some ann) 0 asked sharing =
        [first, second, third] := ⟨_, _, _, rfl⟩
  have told : (consult (interruptedReads (performWithin 1)) (some ann) 0 asked sharing).map
      (fun told => (told.call.handle, told.call.text, told.outcome, told.alone)) =
        [("realm", "target:read", .ok true, .ok true), ("other", "target:read", .ok true, .ok false),
          ("realm", "target:read", .ok true, .ok true)] := by decide +kernel
  simp only [consulted, List.map_cons, List.map_nil, List.cons.injEq, Prod.mk.injEq, and_true] at told
  obtain ⟨⟨named, text, granted, _⟩, ⟨_, text', granted', refused⟩, named', text'', _, _⟩ := told
  have decides : ∀ rest asks, asks = "target:read" → firstDecider (first :: rest) asks = some first := by
    intro rest asks same
    exact List.find?_cons_of_pos (decides_iff.mpr ⟨text.trans same.symm, true, granted⟩)
  obtain ⟨shared, _⟩ := request_repeats_first_decision sharing_occurs rfl distinct 1 (some ann) inRange
    fresh known [first] second [third] consulted
  obtain ⟨_, own⟩ := request_repeats_first_decision sharing_occurs rfl distinct 1 (some ann) inRange
    fresh known [first, second] third [] consulted
  rw [decider_first (decides _ _ text')] at shared
  rw [decider_first (decides _ _ text'')] at own
  exact ⟨first, second, third, consulted, granted', shared, refused, own (named.trans named'.symm)⟩

theorem shared_decision_differs : ¬ ∀ moment : Service, moment.Occurs → moment.Steady →
    moment.store.Readable → moment.interruptions = [] → (moment.realms.map (·.number)).Nodup →
    ∀ (principals : Option Principals) (cache : Nat), cache < moment.requests.caches.length →
    (moment.requests.cache cache).Fresh → ∀ calls : List Call,
    (∀ call ∈ calls, moment.Known call.handle) →
    ∀ told ∈ consult (interruptedReads (performWithin 1)) principals cache calls moment,
      told.outcome = told.alone := by
  intro claim
  have alike := claim sharing sharing_occurs (by decide +kernel) (by decide +kernel) rfl
    (by decide +kernel) (some ann) 0 (by decide +kernel) (by decide +kernel) asked (by decide +kernel)
  revert alike
  decide +kernel

end RepositoryAccess
