import RepositoryAccess.Proofs.Coherence

namespace RepositoryAccess
open RepositoryAccess.Text RepositoryAccess.Directory

namespace Permission.Mint

variable {mint : Mint}

theorem create_reads (faithful : mint.Faithful) (text : String) :
    (mint.create text).1.map (·.permission) = parse text := by
  unfold create
  cases got : mint.cache.get text with
  | mk found cache =>
    have looked : mint.cache.lookup text = found := by rw [← Cache.Guarded.get_lookup, got]
    cases found with
    | some known =>
      have parsed := faithful _ (Cache.Guarded.mem_of_lookup looked)
      exact parsed.symm
    | none => cases read : parse text <;> rfl

theorem create_faithful (faithful : mint.Faithful) (text : String) :
    (mint.create text).2.Faithful := by
  unfold create
  cases got : mint.cache.get text with
  | mk found cache =>
    have entries : cache.entries = mint.cache.entries := by
      rw [← Cache.Guarded.get_entries mint.cache text, got]
    have old : ∀ entry ∈ cache.entries, parse entry.1 = .ok entry.2.permission := by
      rw [entries]; exact faithful
    cases found with
    | some known => exact old
    | none =>
      cases read : parse text with
      | error malformed => exact old
      | ok permission =>
        intro entry member
        rcases Cache.Guarded.mem_insert member with rfl | before
        · exact read
        · exact old entry before

theorem clear_faithful : mint.clear.Faithful := fun _ member => absurd member List.not_mem_nil

end Permission.Mint

structure Resolver.Fades (before after : Resolver) : Prop where
  epoch : after.epoch = before.epoch
  descriptors : after.descriptors = before.descriptors
  roles : ∀ entry ∈ after.roles.entries, entry ∈ before.roles.entries
  privileges : ∀ entry ∈ after.privileges.entries, entry ∈ before.privileges.entries
  missing : ∀ id ∈ after.missing.keys, id ∈ before.missing.keys
  minted : before.mint.Faithful → after.mint.Faithful

namespace Resolver

variable {resolver : Resolver}

theorem Fades.refl (resolver : Resolver) : resolver.Fades resolver :=
  ⟨rfl, rfl, fun _ h => h, fun _ h => h, fun _ h => h, id⟩

theorem knownRole_fades (id : String) : resolver.Fades (resolver.knownRole id).2 :=
  { Fades.refl resolver with
    roles := fun _ member => Cache.Guarded.get_entries resolver.roles id ▸ member }

theorem mem_of_knownRole {id : String} {held : Numbered Holdings}
    (known : (resolver.knownRole id).1 = some held) : (id, held) ∈ resolver.roles.entries :=
  Cache.Guarded.mem_of_lookup (by rw [← Cache.Guarded.get_lookup]; exact known)

theorem knownPrivilege_fades (id : String) : resolver.Fades (resolver.knownPrivilege id).2 :=
  { Fades.refl resolver with
    privileges := fun _ member => Cache.Guarded.get_entries resolver.privileges id ▸ member }

theorem mem_of_knownPrivilege {id : String} {permission : Permission}
    (known : (resolver.knownPrivilege id).1 = some permission) :
    (id, permission) ∈ resolver.privileges.entries :=
  Cache.Guarded.mem_of_lookup (by rw [← Cache.Guarded.get_lookup]; exact known)

theorem knownMissing_fades (id : String) : resolver.Fades (resolver.knownMissing id).2 :=
  { Fades.refl resolver with missing := fun _ member => Cache.Recent.mem_contains member }

theorem mem_of_knownMissing {id : String} (known : (resolver.knownMissing id).1 = true) :
    id ∈ resolver.missing.keys := Cache.Recent.mem_of_contains known

theorem settle_fades (resolver : Resolver) (id : String) : resolver.Fades (resolver.settle id) :=
  { Fades.refl resolver with }

theorem create_fades (resolver : Resolver) (text : String) :
    resolver.Fades (resolver.create text).2 :=
  { Fades.refl resolver with
    minted := fun faithful => Permission.Mint.create_faithful faithful text }

theorem create_parses (faithful : resolver.mint.Faithful) (text : String) :
    (resolver.create text).1 = Permission.parse text :=
  Permission.Mint.create_reads faithful text

theorem grant_cases (faithful : resolver.mint.Faithful) (epoch : Nat) (id : String)
    (privilege : Privilege) :
    (∃ text permission faded, grantText resolver.descriptors privilege = some text ∧
      Permission.parse text = .ok permission ∧ resolver.Fades faded ∧
        resolver.grant epoch id privilege =
          (some permission, faded.rememberPrivilege epoch id permission)) ∨
    ((∀ text permission, grantText resolver.descriptors privilege = some text →
        Permission.parse text ≠ .ok permission) ∧
      ∃ faded, resolver.Fades faded ∧ resolver.grant epoch id privilege = (none, faded)) := by
  cases granted : grantText resolver.descriptors privilege with
  | none =>
    refine .inr ⟨fun _ _ stood => ?_, resolver, .refl _, by simp [grant, granted]⟩
    cases stood
  | some text =>
    have parses := create_parses faithful text
    have faded := create_fades resolver text
    cases created : resolver.create text with
    | mk made next =>
      rw [created] at parses faded
      cases made with
      | ok permission =>
        exact .inl ⟨text, permission, next, rfl, parses.symm, faded, by simp [grant, granted, created]⟩
      | error malformed =>
        refine .inr ⟨fun _ _ stood parsed => ?_, next, faded, by simp [grant, granted, created]⟩
        cases stood
        cases parses.trans parsed

theorem moment_fades (resolver : Resolver) (moment : Nat) : resolver.Fades { resolver with moment } :=
  { Fades.refl resolver with }

theorem wait_fades (resolver : Resolver) (milliseconds : Nat) : resolver.Fades (resolver.wait milliseconds) :=
  moment_fades resolver _

theorem clearMint_fades : resolver.Fades resolver.clearMint :=
  { Fades.refl resolver with minted := fun _ => Permission.Mint.clear_faithful }

end Resolver

namespace Service

-- The later service has learned nothing, and its store holds what it held.
structure Fades (before after : Service) : Prop where
  contents : after.store.SameContents before.store
  tame : before.store.Tame → after.store.Tame
  resolver : before.resolver.Fades after.resolver
  version : after.version = before.version
  emptied : after.emptied = before.emptied
  realms : after.realms = before.realms
  waiting : ∀ interruption ∈ after.interruptions, interruption ∈ before.interruptions

variable {service before after : Service}

theorem Fades.refl (service : Service) : service.Fades service :=
  ⟨.refl _, id, .refl _, rfl, rfl, rfl, fun _ h => h⟩

theorem Fades.ofResolver {resolver : Resolver} (faded : service.resolver.Fades resolver) :
    service.Fades { service with resolver } := { Fades.refl service with resolver := faded }

theorem Fades.later (faded : before.Fades after) : Later before after where
  epoch := Nat.le_of_eq faded.resolver.epoch.symm
  version := Nat.le_of_eq faded.version.symm
  emptied := Nat.le_of_eq faded.emptied.symm
  sameEpoch _ := faded.emptied
  contents _ := faded.contents
  descriptors := faded.resolver.descriptors

theorem Fades.steady (faded : before.Fades after) : after.Steady ↔ before.Steady := by
  unfold Steady
  rw [faded.emptied, faded.version]

theorem Fades.confers (faded : before.Fades after) : after.Confers = before.Confers :=
  confers_congr faded.contents faded.resolver.descriptors

theorem Fades.coherent (faded : before.Fades after) (coherent : before.Coherent) :
    after.Coherent where
  roles entry member := by
    rw [faded.confers]
    exact coherent.roles entry (faded.resolver.roles entry member)
  privileges entry member := by
    rw [yields_congr faded.contents faded.resolver.descriptors]
    exact coherent.privileges entry (faded.resolver.privileges entry member)
  missing id member := by
    rw [faded.contents.role?]
    exact coherent.missing id (faded.resolver.missing id member)

theorem current_congr (same : after.Confers = before.Confers) {realm : Realm}
    (current : before.Current realm) : after.Current realm := by
  unfold Current ConfersAny
  rw [same]
  exact current

theorem Fades.sound (faded : before.Fades after) (sound : before.Sound) : after.Sound where
  tame := faded.tame sound.tame
  waiting interruption member := sound.waiting interruption (faded.waiting interruption member)
  minted := faded.resolver.minted sound.minted
  emptied := by rw [faded.emptied, faded.version]; exact sound.emptied
  coherent steady := faded.coherent (sound.coherent (faded.steady.mp steady))
  seen realm member := by
    rw [faded.resolver.epoch]
    exact sound.seen realm (faded.realms ▸ member)
  current steady realm member epoch := by
    rw [faded.resolver.epoch] at epoch
    exact current_congr faded.confers
      (sound.current (faded.steady.mp steady) realm (faded.realms ▸ member) epoch)

-- What is remembered under an epoch has to be right only while the epoch lasts.
theorem Sound.rememberRole (sound : service.Sound) {epoch : Nat} {id : String}
    {held : Numbered Holdings}
    (right : service.resolver.epoch = epoch → service.Steady →
      held.value.Exactly (service.Confers id)) :
    Sound { service with resolver := service.resolver.rememberRole epoch id held } := by
  unfold Resolver.rememberRole
  split
  · rename_i same
    refine { sound with coherent := fun steady => ?_ }
    have coherent := sound.coherent steady
    refine { coherent with roles := fun entry member => ?_ }
    rcases Cache.Guarded.mem_insert member with rfl | old
    · exact right same steady
    · exact coherent.roles entry old
  · exact sound

theorem Sound.rememberPrivilege (sound : service.Sound) {epoch : Nat} {id : String}
    {permission : Permission}
    (right : service.resolver.epoch = epoch → service.Steady → service.Yields id permission) :
    Sound { service with resolver := service.resolver.rememberPrivilege epoch id permission } := by
  unfold Resolver.rememberPrivilege
  split
  · rename_i same
    refine { sound with coherent := fun steady => ?_ }
    have coherent := sound.coherent steady
    refine { coherent with privileges := fun entry member => ?_ }
    rcases Cache.Guarded.mem_insert member with rfl | old
    · exact right same steady
    · exact coherent.privileges entry old
  · exact sound

theorem Sound.rememberMissing (sound : service.Sound) {epoch : Nat} {id : String}
    (right : service.resolver.epoch = epoch → service.Steady → service.store.role? id = none) :
    Sound { service with resolver := service.resolver.rememberMissing epoch id } := by
  unfold Resolver.rememberMissing
  split
  · rename_i same
    refine { sound with coherent := fun steady => ?_ }
    have coherent := sound.coherent steady
    refine { coherent with missing := fun other member => ?_ }
    rcases Cache.Recent.mem_insert member with rfl | old
    · exact right same steady
    · exact coherent.missing other old
  · exact sound

theorem later_ofResolver {resolver : Resolver} (epoch : resolver.epoch = service.resolver.epoch)
    (descriptors : resolver.descriptors = service.resolver.descriptors) :
    Later service { service with resolver } where
  epoch := Nat.le_of_eq epoch.symm
  version := Nat.le_refl _
  emptied := Nat.le_refl _
  sameEpoch _ := rfl
  contents _ := .refl _
  descriptors := descriptors

theorem later_rememberRole (service : Service) (epoch : Nat) (id : String)
    (held : Numbered Holdings) :
    Later service { service with resolver := service.resolver.rememberRole epoch id held } := by
  unfold Resolver.rememberRole
  split
  · exact later_ofResolver rfl rfl
  · exact .refl _

theorem later_rememberPrivilege (service : Service) (epoch : Nat) (id : String)
    (permission : Permission) :
    Later service
      { service with resolver := service.resolver.rememberPrivilege epoch id permission } := by
  unfold Resolver.rememberPrivilege
  split
  · exact later_ofResolver rfl rfl
  · exact .refl _

theorem later_rememberMissing (service : Service) (epoch : Nat) (id : String) :
    Later service { service with resolver := service.resolver.rememberMissing epoch id } := by
  unfold Resolver.rememberMissing
  split
  · exact later_ofResolver rfl rfl
  · exact .refl _

end Service
end RepositoryAccess
