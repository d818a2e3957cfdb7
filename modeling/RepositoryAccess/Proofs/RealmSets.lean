import Mathlib.Data.List.Forall2
import RepositoryAccess.Proofs.Resolution

namespace RepositoryAccess
open RepositoryAccess.Text RepositoryAccess.Directory
open Service Act Reads.Faithful

namespace Service

def Entitles (service : Service) (entitlement : Entitlement) (permission : Permission) : Prop :=
  (∃ text ∈ entitlement.texts, Permission.parse text = .ok permission) ∨
    permission ∈ entitlement.permissions ∨ service.ConfersAny entitlement.roles permission

theorem Undisturbed.entitles {first last : Service} (calm : Undisturbed first last)
    (later : Later first last) : last.Entitles = first.Entitles := by
  funext entitlement permission
  unfold Entitles
  rw [calm.confersAny later]

theorem entitles_ofRoles {entitlement : Entitlement} (plain : ¬ entitlement.isExplicit = true)
    (service : Service) (permission : Permission) :
    service.Entitles entitlement permission ↔ service.ConfersAny entitlement.roles permission := by
  simp only [Entitlement.isExplicit, NameSet.isEmpty, Bool.or_eq_true, Bool.not_eq_true',
    List.isEmpty_eq_false_iff, not_or, ne_eq, Classical.not_not] at plain
  simp [Entitles, NameSet.mem_iff, plain.1, plain.2]

variable {service : Service} {handle : String} {f : Realm → Realm}

theorem mem_modifyRealm {realm : Realm} (member : realm ∈ (service.modifyRealm handle f).realms) :
    (∃ before ∈ service.realms, before.handle = handle ∧ realm = f before) ∨
      realm ∈ service.realms ∧ realm.handle ≠ handle := by
  obtain ⟨before, isRealm, rfl⟩ := List.mem_map.mp member
  split
  · rename_i same
    exact .inl ⟨before, isRealm, same, rfl⟩
  · rename_i other
    exact .inr ⟨isRealm, other⟩

theorem later_modifyRealm (service : Service) (handle : String) (f : Realm → Realm) :
    Later service (service.modifyRealm handle f) where
  epoch := Nat.le_refl _
  version := Nat.le_refl _
  emptied := Nat.le_refl _
  sameEpoch _ := rfl
  contents _ := .refl _
  descriptors := rfl

theorem Sound.modifyRealm (sound : service.Sound)
    (seen : ∀ realm ∈ service.realms, realm.handle = handle →
      (f realm).seenEpoch ≤ service.resolver.epoch)
    (current : service.Steady → ∀ realm ∈ service.realms, realm.handle = handle →
      (f realm).seenEpoch = service.resolver.epoch → service.Current (f realm)) :
    (service.modifyRealm handle f).Sound :=
  { sound with
    coherent := fun steady => { sound.coherent steady with }
    seen := by
      intro realm member
      rcases mem_modifyRealm member with ⟨before, isRealm, same, rfl⟩ | ⟨isRealm, _⟩
      · exact seen before isRealm same
      · exact sound.seen realm isRealm
    current := by
      intro steady realm member epoch
      rcases mem_modifyRealm member with ⟨before, isRealm, same, rfl⟩ | ⟨isRealm, _⟩
      · exact current steady before isRealm same epoch
      · exact sound.current steady realm isRealm epoch }

-- Every realm with this handle has seen the present epoch.
def Met (service : Service) (handle : String) : Prop :=
  ∀ realm ∈ service.realms, realm.handle = handle → realm.seenEpoch = service.resolver.epoch

theorem realm_cases (service : Service) (handle : String) :
    (service.realm handle ∈ service.realms ∧ (service.realm handle).handle = handle) ∨
      service.realm handle = default ∧ ∀ realm ∈ service.realms, realm.handle ≠ handle := by
  unfold realm
  cases found : service.realms.find? (·.handle = handle) with
  | some realm =>
    exact .inl ⟨List.mem_of_find?_eq_some found, by simpa using List.find?_some found⟩
  | none => exact .inr ⟨rfl, by simpa using found⟩

theorem Sound.realm_current (sound : service.Sound) (met : service.Met handle)
    (steady : service.Steady) : service.Current (service.realm handle) := by
  rcases realm_cases service handle with ⟨isRealm, same⟩ | ⟨nothing, _⟩
  · exact sound.current steady _ isRealm (met _ isRealm same)
  · rw [nothing]
    exact fun entry member => absurd member List.not_mem_nil

theorem meetEpoch_seen (realm : Realm) (epoch : Nat) : (realm.meetEpoch epoch).seenEpoch = epoch := by
  unfold Realm.meetEpoch
  split
  · rfl
  · rename_i same
    exact Decidable.not_not.mp same

theorem Sound.meetEpoch (sound : service.Sound) (handle : String) :
    (service.modifyRealm handle (·.meetEpoch service.resolver.epoch)).Sound := by
  refine sound.modifyRealm (fun realm _ _ => Nat.le_of_eq (meetEpoch_seen realm _)) ?_
  intro steady realm isRealm _ _
  unfold Realm.meetEpoch
  split
  · exact fun entry member => absurd member List.not_mem_nil
  · rename_i same
    exact sound.current steady realm isRealm (Decidable.not_not.mp same)

theorem meetEpoch_met (service : Service) (handle : String) :
    (service.modifyRealm handle (·.meetEpoch service.resolver.epoch)).Met handle := by
  intro realm member same
  rcases mem_modifyRealm member with ⟨before, _, _, rfl⟩ | ⟨_, other⟩
  · exact meetEpoch_seen before _
  · exact absurd same other

theorem Sound.lookUp (sound : service.Sound) (met : service.Met handle) (roles : NameSet) :
    (service.modifyRealm handle fun realm =>
      { realm with roleSets := ((service.realm handle).roleSets.get roles).2 }).Sound := by
  refine sound.modifyRealm (fun realm isRealm _ => sound.seen realm isRealm) ?_
  intro steady realm isRealm same _ entry member
  refine sound.realm_current met steady entry ?_
  rw [← Cache.Guarded.get_entries _ roles]
  exact member

theorem Sound.rememberSet (sound : service.Sound) (handle : String) {roles : NameSet}
    {held : Numbered Holdings} (right : service.Steady → held.value.Exactly (service.ConfersAny roles)) :
    (service.modifyRealm handle (·.remember roles held)).Sound := by
  refine sound.modifyRealm (fun realm isRealm _ => sound.seen realm isRealm) ?_
  intro steady realm isRealm _ epoch entry member
  rcases Cache.Guarded.mem_insertWeighted member with rfl | old
  · exact right steady
  · exact sound.current steady realm isRealm epoch entry old

end Service

variable {reads : Reads} {origin service : Service}

def SetTold (origin : Service) (roles : NameSet) : Except StoreFault (Numbered Holdings) → Prop
  | .ok held => held.value.Exactly (origin.ConfersAny roles)
  | .error _ => True

theorem rolePermissions_own (faithful : reads.Faithful) (sound : service.Sound) (handle : String)
    (roles : NameSet) :
    (rolePermissions reads handle roles).Answers service service (SetTold service roles) := by
  unfold rolePermissions
  have met := meetEpoch_met service handle
  have caughtUp := later_modifyRealm service handle (·.meetEpoch service.resolver.epoch)
  have since := (Since.start sound).next caughtUp (sound.meetEpoch handle)
  refine answers_get (answers_modify_bind since.sound caughtUp (answers_get ?_))
  generalize service.modifyRealm handle (·.meetEpoch service.resolver.epoch) = caught at *
  have lookedUp := since.sound.lookUp met roles
  have held : ∀ permissions, ((caught.realm handle).roleSets.get roles).1 = some permissions →
      (roles, permissions) ∈ (caught.realm handle).roleSets.entries := by
    intro permissions known
    rw [Cache.Guarded.get_lookup] at known
    exact Cache.Guarded.mem_of_lookup known
  cases looked : (caught.realm handle).roleSets.get roles with
  | mk known roleSets =>
    rw [looked] at lookedUp held
    have later := later_modifyRealm caught handle fun realm => { realm with roleSets }
    have sinceLooked := since.next later lookedUp
    refine answers_modify_bind lookedUp later ?_
    cases known with
    | some permissions =>
      refine answers_pure fun calm => ?_
      have before := calm.before since.later later
      show permissions.value.Exactly (service.ConfersAny roles)
      rw [← before.confersAny since.later]
      exact since.sound.realm_current met (before.steady since.later since.sound.emptied) _
        (held permissions rfl)
    | none =>
      refine answers_bind sinceLooked
        (mergeRoles_answers faithful roles.names sinceLooked fun _ => Holdings.empty_exactly) ?_
      intro result merged sinceMerged _ told
      cases result with
      | error fault => exact answers_pure fun _ => trivial
      | ok found =>
        refine answers_bind sinceMerged (shareSet_answers sinceMerged found) ?_
        intro shared final sinceFinal later same
        have right : Undisturbed service final →
            shared.value.Exactly (service.ConfersAny roles) := by
          intro calm
          rw [same calm]
          exact (told (calm.before sinceMerged.later later)).congr fun _ => by
            simp only [false_or]; rfl
        refine answers_get ?_
        show Answers (if final.resolver.epoch = service.resolver.epoch then _ else _) _ _ _
        split
        · rename_i epoch
          refine answers_modify_bind (sinceFinal.sound.rememberSet handle fun steady => ?_)
            (later_modifyRealm _ _ _) (answers_pure fun calm => ?_)
          · have calm := sinceFinal.calm epoch steady
            rw [calm.confersAny sinceFinal.later]
            exact right calm
          · exact right (calm.before sinceFinal.later (later_modifyRealm _ _ _))
        · exact answers_pure right

theorem rolePermissions_answers (faithful : reads.Faithful) (since : Since origin service)
    (handle : String) (roles : NameSet) :
    (rolePermissions reads handle roles).Answers origin service (SetTold origin roles) := by
  refine Answers.sinceOrigin since (rolePermissions_own faithful since.sound handle roles) ?_
  intro calm result told
  cases result with
  | error fault => trivial
  | ok held =>
    show held.value.Exactly (origin.ConfersAny roles)
    rw [← calm.confersAny since.later]
    exact told

theorem create_answers (since : Since origin service) (text : String) :
    (onResolver (·.create text)).Answers origin service fun made => made = Permission.parse text :=
  answers_onResolver since (Resolver.create_fades _ text) fun _ =>
    Resolver.create_parses since.sound.minted text

theorem insertTexts_answers (texts : List String) :
    ∀ {service : Service} {found : Holdings} {already : Permission → Prop}, Since origin service →
      (Undisturbed origin service → found.Exactly already) →
      (insertTexts texts found).Answers origin service fun found => found.Exactly fun permission =>
        already permission ∨ ∃ text ∈ texts, Permission.parse text = .ok permission := by
  induction texts with
  | nil =>
    intro service found already _ holds
    exact answers_pure fun calm => (holds calm).congr fun _ => by simp
  | cons text texts ih =>
    intro service found already since holds
    refine answers_bind since (create_answers since text) ?_
    intro made after next later reads
    have still : Undisturbed origin after → found.Exactly already :=
      fun calm => holds (calm.before since.later later)
    cases made with
    | error malformed =>
      refine (ih next still).weaken next fun calm result told => told.congr fun permission => ?_
      simp [← reads calm]
    | ok permission =>
      have more : Undisturbed origin after → (found.insert permission).Exactly
          fun other => already other ∨ other = permission :=
        fun calm => (still calm).insert permission
      refine (ih next more).weaken next fun calm result told => told.congr fun other => ?_
      simp [← reads calm, or_assoc, eq_comm]

def EntitledTold (origin : Service) (entitlement : Entitlement) :
    Except StoreFault Holdings → Prop
  | .ok found => found.Exactly (origin.Entitles entitlement)
  | .error _ => True

theorem explicitPermissions_answers (faithful : reads.Faithful) (since : Since origin service)
    (entitlement : Entitlement) :
    (explicitPermissions reads entitlement).Answers origin service
      (EntitledTold origin entitlement) := by
  unfold explicitPermissions
  refine answers_bind since (insertTexts_answers _ since fun _ => Holdings.empty_exactly) ?_
  intro texts after next later told
  refine answers_bind next
    (mergeRoles_answers faithful entitlement.roles.names next fun _ => Holdings.empty_exactly) ?_
  intro result merged sinceMerged later' told'
  cases result with
  | error fault => exact answers_pure fun _ => trivial
  | ok fromRoles =>
    refine answers_pure fun calm => ?_
    have own := (told (calm.before next.later later')).insertAll entitlement.permissions
    refine (own.merge (told' calm)).congr fun permission => ?_
    simp only [false_or, or_assoc]
    rfl

def PermissionsTold (origin : Service) (entitlement : Entitlement) :
    Except StoreFault (Numbered Holdings) → Prop
  | .ok held => held.value.Exactly (origin.Entitles entitlement)
  | .error _ => True

theorem entitledPermissions_answers (faithful : reads.Faithful) (since : Since origin service)
    (handle : String) (entitlement : Entitlement) :
    (entitledPermissions reads handle entitlement).Answers origin service
      (PermissionsTold origin entitlement) := by
  unfold entitledPermissions
  split
  · refine answers_bind since (explicitPermissions_answers faithful since entitlement) ?_
    intro result after next later told
    cases result with
    | error fault => exact answers_pure fun _ => trivial
    | ok found =>
      refine answers_bind next (shareSet_answers next found) ?_
      intro shared last _ later' same
      refine answers_pure fun calm => ?_
      show shared.value.Exactly _
      rw [same calm]
      exact told (calm.before next.later later')
  · rename_i plain
    have ofRoles : origin.Entitles entitlement = origin.ConfersAny entitlement.roles := by
      funext permission
      exact propext (entitles_ofRoles plain origin permission)
    split
    · rename_i none_
      refine answers_bind since (shareSet_answers since .empty) ?_
      intro shared last next _ same
      refine answers_pure fun calm => ?_
      show shared.value.Exactly _
      rw [same calm, ofRoles]
      refine Holdings.empty_exactly.congr fun permission => ⟨False.elim, ?_⟩
      rintro ⟨role, member, _⟩
      rw [NameSet.mem_iff, List.isEmpty_iff.mp none_] at member
      cases member
    · refine (rolePermissions_answers faithful since handle entitlement.roles).weaken since ?_
      intro _ result told
      cases result with
      | error fault => trivial
      | ok held =>
        show held.value.Exactly _
        rw [ofRoles]
        exact told

-- A decision grants what is asked just when something that the entitlement comes to implies it.
def Service.Decides (service : Service) (entitlement : Entitlement) (asked : Permission)
    (decision : Bool) : Prop :=
  decision = true ↔ ∃ held, service.Entitles entitlement held ∧ held.implies asked = true

theorem Service.Undisturbed.decides {first last : Service} (calm : Undisturbed first last)
    (later : Later first last) : last.Decides = first.Decides := by
  funext entitlement asked decision
  unfold Service.Decides
  rw [calm.entitles later]

def DecisionTold (origin : Service) (entitlement : Entitlement) (asked : Permission) :
    Except StoreFault Bool → Prop
  | .ok decision => origin.Decides entitlement asked decision
  | .error _ => True

theorem permitted_answers (faithful : reads.Faithful) (since : Since origin service)
    (handle : String) (asked : Permission) (entitlement : Entitlement) :
    (permitted reads handle asked entitlement).Answers origin service
      (DecisionTold origin entitlement asked) := by
  refine answers_bind since (entitledPermissions_answers faithful since handle entitlement) ?_
  intro result after _ _ told
  cases result with
  | error fault => exact answers_pure fun _ => trivial
  | ok held => exact answers_pure fun calm => (told calm).permits asked

def DecisionsTold (origin : Service) (entitlement : Entitlement) (asked : List Permission) :
    Except StoreFault (List Bool) → Prop
  | .ok decisions => List.Forall₂ (origin.Decides entitlement) asked decisions
  | .error _ => True

theorem permittedAll_answers (faithful : reads.Faithful) (since : Since origin service)
    (handle : String) (asked : List Permission) (entitlement : Entitlement) :
    (permittedAll reads handle asked entitlement).Answers origin service
      (DecisionsTold origin entitlement asked) := by
  unfold permittedAll
  split
  · rename_i nothing
    rw [List.isEmpty_iff.mp nothing]
    exact answers_pure fun _ => .nil
  · refine answers_bind since (entitledPermissions_answers faithful since handle entitlement) ?_
    intro result after _ _ told
    cases result with
    | error fault => exact answers_pure fun _ => trivial
    | ok held =>
      refine answers_pure fun calm => ?_
      exact List.forall₂_map_right_iff.mpr (List.forall₂_same.mpr fun one _ => (told calm).permits one)

end RepositoryAccess
