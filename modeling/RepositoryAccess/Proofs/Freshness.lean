import RepositoryAccess.Proofs.Steps

namespace RepositoryAccess
open RepositoryAccess.Text RepositoryAccess.Directory
open Service Act

namespace Service

-- The resolver and the realms are as they were made; the store is any that may be put in front of them.
structure Begins (service : Service) : Prop where
  resolver : ∃ descriptors settings,
    service.resolver = .new descriptors settings service.store.generation
  tame : service.store.Tame
  quiet : service.interruptions = []
  steady : service.Steady
  realms : ∀ realm ∈ service.realms, realm.roleSets.entries = [] ∧ realm.seenEpoch = 0

-- Services between the steps of a run.  However deep interruptions may be nested in a step, the run
-- goes on from where the step ends.
inductive Reached : Service → Prop
  | begins {service : Service} : service.Begins → Reached service
  | step {service : Service} {step : Step} (depth : Nat) : Reached service → step.Tame →
      Reached ((performWithin depth step).run service).2

-- Services as they are found at some moment of a run, be it in the middle of a step.
def Occurs (moment : Service) : Prop :=
  ∃ (service : Service) (depth : Nat) (step : Step), service.Reached ∧ step.Tame ∧
    moment ∈ service :: (performWithin depth step).moments service

variable {service moment : Service}

theorem new_begins (settings : Settings) (descriptors : List Descriptor) {store : Store}
    (tame : store.Tame) : (Service.new settings descriptors store).Begins where
  resolver := ⟨descriptors, settings, rfl⟩
  tame := tame
  quiet := rfl
  steady := rfl
  realms _ member := absurd member List.not_mem_nil

theorem Begins.addRealm (begins : service.Begins) (settings : Settings)
    (handle name manager : String) (managers : List String) :
    (service.addRealm settings handle name manager managers).Begins where
  resolver := begins.resolver
  tame := begins.tame
  quiet := begins.quiet
  steady := begins.steady
  realms realm member := by
    rcases List.mem_append.mp member with old | new
    · exact begins.realms realm old
    · obtain ⟨descriptors, settings, made⟩ := begins.resolver
      rw [List.mem_singleton.mp new]
      exact ⟨rfl, by rw [made]; rfl⟩

theorem Begins.sound (begins : service.Begins) : service.Sound := by
  obtain ⟨descriptors, settings, made⟩ := begins.resolver
  have roles : service.resolver.roles.entries = [] := by rw [made]; rfl
  have privileges : service.resolver.privileges.entries = [] := by rw [made]; rfl
  have missing : service.resolver.missing.keys = [] := by rw [made]; rfl
  have minted : service.resolver.mint.cache.entries = [] := by rw [made]; rfl
  refine ⟨begins.tame, ?_, ?_, Nat.le_of_eq begins.steady, fun _ => ⟨?_, ?_, ?_⟩, ?_, ?_⟩
  · rw [begins.quiet]; exact fun _ member => absurd member List.not_mem_nil
  · intro entry member; rw [minted] at member; cases member
  · rw [roles]; exact fun _ member => absurd member List.not_mem_nil
  · rw [privileges]; exact fun _ member => absurd member List.not_mem_nil
  · rw [missing]; exact fun _ member => absurd member List.not_mem_nil
  · intro realm member
    rw [(begins.realms realm member).2]
    exact Nat.zero_le _
  · intro _ realm member _ entry held
    rw [(begins.realms realm member).1] at held
    cases held

theorem Reached.sound (reached : service.Reached) : service.Sound := by
  induction reached with
  | begins begins => exact begins.sound
  | step depth _ tame ih => exact holds_last ih (performWithin_steadfast depth _ _ tame ih).1

theorem Occurs.sound (occurs : moment.Occurs) : moment.Sound := by
  obtain ⟨service, depth, step, reached, tame, passed⟩ := occurs
  rcases List.mem_cons.mp passed with rfl | later
  · exact reached.sound
  · exact (performWithin_steadfast depth step service tame reached.sound).1 moment later

theorem Reached.occurs (reached : service.Reached) : service.Occurs :=
  ⟨service, 0, .running, reached, trivial, List.mem_cons_self⟩

end Service

theorem readsWithin_faithful (depth : Nat) : (interruptedReads (performWithin depth)).Faithful :=
  interruptedReads_faithful (performWithin_steadfast depth)

theorem caches_coherent_while_steady {moment : Service} (occurs : moment.Occurs)
    (steady : moment.Steady) : moment.Coherent :=
  occurs.sound.coherent steady

def circle : Store where
  roles := [.new "reader" ["read"] ["writer"], .new "writer" ["write"] ["reader"]]
  privileges := [
    .new "read" "method" [("permission", "target"), ("method", "read")],
    .new "write" "method" [("permission", "target"), ("method", "write,update")]]

def circling : Service :=
  { (Service.new {} Descriptor.builtIn circle).addRealm {} "realm" "authorizing" "users" ["users"] with
    managers := [⟨"users", defaultSource, none, false, [.new "ann" defaultSource ["reader"]], []⟩] }

-- What happens while the one role is resolved and the other is read: a privilege goes, and the caches
-- are emptied and filled again.
def overtaking : Step :=
  .interrupt .role "writer" [.dropPrivilege "write" false, .invalidate, .resolve "writer"]

def circled : Service :=
  ((performWithin 3 (.resolve "reader")).run ((performWithin 3 overtaking).run circling).2).2

theorem circling_begins : circling.Begins := by
  have tame : circle.Tame := by
    refine ⟨fun _ told => absurd told List.not_mem_nil, ?_⟩
    simp [circle, Lock.Honest, Lock.once, Lock.HonestAfter]
  exact { (new_begins {} Descriptor.builtIn tame).addRealm {} "realm" "authorizing" "users" ["users"] with }

theorem circled_occurs : circled.Occurs := by
  have overtaken : Reached ((performWithin 3 overtaking).run circling).2 :=
    .step 3 (.begins circling_begins) ⟨trivial, trivial, trivial, trivial⟩
  have resolved : circled.Reached := .step 3 overtaken trivial
  exact resolved.occurs

theorem circled_coherent : circled.Occurs ∧ circled.Steady ∧
    circled.resolver.roles.entries.map (·.1) = ["writer"] ∧ circled.Coherent := by
  have steady : circled.Steady := by decide +kernel
  exact ⟨circled_occurs, steady, by decide +kernel, caches_coherent_while_steady circled_occurs steady⟩

theorem entitled_permissions_fresh {moment : Service} (occurs : moment.Occurs) (depth : Nat)
    (handle : String) (entitlement : Entitlement) (steady : moment.Steady) :
    let reads := interruptedReads (performWithin depth)
    (∀ held after, (entitledPermissions reads handle entitlement).run moment = (.ok held, after) →
      after.version = moment.version → held.value.Exactly (after.Entitles entitlement)) ∧
    (∀ asked decision after,
      (permitted reads handle asked entitlement).run moment = (.ok decision, after) →
      after.version = moment.version → after.Decides entitlement asked decision) ∧
    ∀ asked decisions after,
      (permittedAll reads handle asked entitlement).run moment = (.ok decisions, after) →
      after.version = moment.version →
      List.Forall₂ (after.Decides entitlement) asked decisions := by
  intro reads
  have faithful := readsWithin_faithful depth
  have since := Since.start occurs.sound
  refine ⟨?_, ?_, ?_⟩
  · intro held after ran same
    have calm : Undisturbed moment after := ⟨steady, same⟩
    obtain ⟨later, told⟩ := (entitledPermissions_answers faithful since handle entitlement).ran ran
    rw [calm.entitles later]
    exact told calm
  · intro asked decision after ran same
    have calm : Undisturbed moment after := ⟨steady, same⟩
    obtain ⟨later, told⟩ := (permitted_answers faithful since handle asked entitlement).ran ran
    rw [calm.decides later]
    exact told calm
  · intro asked decisions after ran same
    have calm : Undisturbed moment after := ⟨steady, same⟩
    obtain ⟨later, told⟩ := (permittedAll_answers faithful since handle asked entitlement).ran ran
    rw [calm.decides later]
    exact told calm

theorem circled_entitles :
    let reads := interruptedReads (performWithin 1)
    let reader := Entitlement.ofRoles (.ofList ["reader"])
    let asked := [Permission.constant "target:read", .constant "target:write"]
    circled.Occurs ∧ circled.Steady ∧
    (∃ held after, (entitledPermissions reads "realm" reader).run circled = (.ok held, after) ∧
      after.version = circled.version ∧ held.value.Exactly (after.Entitles reader)) ∧
    (∃ after, (permitted reads "realm" (.constant "target:read") reader).run circled =
      (.ok true, after) ∧ after.version = circled.version ∧
        after.Decides reader (.constant "target:read") true) ∧
    ∃ after, (permittedAll reads "realm" asked reader).run circled = (.ok [true, false], after) ∧
      after.version = circled.version ∧ List.Forall₂ (after.Decides reader) asked [true, false] := by
  intro reads reader asked
  have steady : circled.Steady := by decide +kernel
  obtain ⟨held, decided, decidedAll⟩ :=
    entitled_permissions_fresh circled_occurs 1 "realm" reader steady
  have granted : ((entitledPermissions reads "realm" reader).run circled).1 =
      .ok ⟨3, ⟨[.constant "target:read"]⟩⟩ := by decide +kernel
  have one : ((permitted reads "realm" (.constant "target:read") reader).run circled).1 = .ok true := by
    decide +kernel
  have all : ((permittedAll reads "realm" asked reader).run circled).1 = .ok [true, false] := by
    decide +kernel
  refine ⟨circled_occurs, steady, ⟨_, _, Prod.ext granted rfl, by decide +kernel, ?_⟩,
    ⟨_, Prod.ext one rfl, by decide +kernel, ?_⟩, ⟨_, Prod.ext all rfl, by decide +kernel, ?_⟩⟩
  · exact held _ _ (Prod.ext granted rfl) (by decide +kernel)
  · exact decided _ _ _ (Prod.ext one rfl) (by decide +kernel)
  · exact decidedAll _ _ _ (Prod.ext all rfl) (by decide +kernel)

end RepositoryAccess
