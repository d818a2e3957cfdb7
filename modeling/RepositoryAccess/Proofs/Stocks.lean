import RepositoryAccess.Proofs.Freshness
import RepositoryAccess.Proofs.Deeds
import RepositoryAccess.Proofs.Guarding
import RepositoryAccess.Proofs.RequestMemory

namespace RepositoryAccess
open RepositoryAccess.Text RepositoryAccess.Directory RepositoryAccess.Cache
open Cache.Guarded Service Act

namespace Cache.Guarded
variable {Key Value : Type} [DecidableEq Key]

structure HeldByCount (highWater : Nat) (history : List (Use Key Value)) (cache : Guarded Key Value) : Prop where
  mark : cache.highWater = highWater
  size : cache.size ≤ highWater + 1
  get : ∀ key, (cache.get key).1 = (lastOf key ((new highWater).recent history)).map (·.value)
  resets : cache.tally.resets = (new highWater).tripCount history
  next : ∀ key value, cache.Guards (cache.insert key value) cache.size key value

structure HeldByWeight (highWater : Nat) (history : List (Use Key Value)) (cache : Guarded Key Value) : Prop where
  mark : cache.highWater = highWater
  weight : cache.weight = sumOf (·.weight) ((new highWater).recent history)
  unwrapped : sumOf (·.weight) ((new highWater).recent history) < wordSpan
  size : cache.size ≤ highWater + 1
  held : cache.heldWeight ((new highWater).recent history) ≤
    highWater + lastWeight ((new highWater).recent history)
  get : ∀ key, (cache.get key).1 = (lastOf key ((new highWater).recent history)).map (·.value)
  resets : cache.tally.resets = (new highWater).tripCount history
  next : ∀ key value weight, cache.Guards (cache.insertWeighted key value weight)
    (sumOf (·.weight) ((new highWater).recent history)) key value

variable {highWater : Nat} {history : List (Use Key Value)}

theorem get_run (highWater : Nat) (history : List (Use Key Value)) (key : Key) :
    (((new highWater).run history).get key).1 =
      (lastOf key ((new highWater).recent history)).map (·.value) := by
  rw [get_lookup]
  exact (Tracks.run highWater history).found key

theorem heldByCount (plain : ∀ use ∈ history, use.Plain) :
    ((new highWater).run history).HeldByCount highWater history where
  mark := run_highWater highWater history
  size := size_run plain
  get := get_run highWater history
  resets := resets_run highWater history
  next := insert_guards _

theorem heldByWeight (weighted : ∀ use ∈ history, use.Weighted highWater) :
    ((new highWater).run history).HeldByWeight highWater history := by
  have tracks := Tracks.run highWater history
  have weighs := Weighs.run weighted
  exact {
    mark := weighs.mark
    weight := weighs.weight
    unwrapped := by rw [← weighs.weight]; exact weighs.word
    size := Nat.le_trans tracks.size weighs.length_le
    held := Nat.le_trans tracks.held weighs.total_le
    get := get_run highWater history
    resets := resets_run highWater history
    next := fun key value weight => by rw [← weighs.weight]; exact insertWeighted_guards _ key value weight }

def Supplied (highWater : Nat) (cache : Guarded Key Value) : Prop :=
  ∃ history, (∀ use ∈ history, use.Weighted highWater) ∧ cache = (new highWater).run history

variable {cache : Guarded Key Value}

theorem Supplied.size_le (supplied : cache.Supplied highWater) : cache.size ≤ highWater + 1 := by
  obtain ⟨history, weighted, rfl⟩ := supplied
  exact (heldByWeight weighted).size

theorem Supplied.mark (supplied : cache.Supplied highWater) : cache.highWater = highWater := by
  obtain ⟨history, weighted, rfl⟩ := supplied
  exact (heldByWeight weighted).mark

theorem supplied_new (highWater : Nat) : (new highWater : Guarded Key Value).Supplied highWater :=
  ⟨[], fun _ member => absurd member List.not_mem_nil, rfl⟩

theorem Supplied.after (supplied : cache.Supplied highWater) (use : Use Key Value)
    (weighted : use.Weighted highWater) : (cache.after use).Supplied highWater := by
  obtain ⟨history, earlier, rfl⟩ := supplied
  refine ⟨history ++ [use], fun other member => ?_, (run_concat _ _ _).symm⟩
  rcases List.mem_append.mp member with early | last
  · exact earlier other early
  · rw [List.mem_singleton.mp last]
    exact weighted

end Cache.Guarded

namespace Service

-- No role set that a realm remembers weighs so much that it could carry the weight past the end of a word.
def Light (service : Service) : Prop :=
  ∀ realm ∈ service.realms, ∀ entry ∈ realm.roleSets.entries, realm.roleSets.highWater + entry.1.size < wordSpan

instance (service : Service) : Decidable service.Light :=
  inferInstanceAs (Decidable (∀ realm ∈ _, ∀ entry ∈ _, _))

-- Services between the steps of a run that begins with realms as they are made.
inductive Stocked (first : Service) : Service → Prop
  | begins : (∀ realm ∈ first.realms, ∃ settings : Settings, realm.roleSets = .new settings.roleSets) →
      first.Stocked first
  | step {service : Service} {step : Step} (depth : Nat) : first.Stocked service →
      (∀ moment ∈ (performWithin depth step).moments service, moment.Light) →
      first.Stocked ((performWithin depth step).run service).2

def Stocks (first moment : Service) : Prop :=
  ∃ (service : Service) (depth : Nat) (step : Step), first.Stocked service ∧
    (∀ moment ∈ (performWithin depth step).moments service, moment.Light) ∧
      moment ∈ service :: (performWithin depth step).moments service

def Restocks (first service : Service) : Prop :=
  ∀ handle, (service.realm handle).roleSets.Supplied (first.realm handle).roleSets.highWater

variable {first before after moment : Service}

theorem Restocks.congr (restocks : first.Restocks before) (same : after.realms = before.realms) :
    first.Restocks after := fun handle => by
  have realm : after.realm handle = before.realm handle := by rw [Service.realm, Service.realm, same]
  rw [realm]
  exact restocks handle

theorem Restocks.modifyRealm (restocks : first.Restocks before) {handle : String} {f : Realm → Realm}
    (keeps : Realm.Keeps f)
    (used : before.Known handle →
      (f (before.realm handle)).roleSets.Supplied (first.realm handle).roleSets.highWater) :
    first.Restocks (before.modifyRealm handle f) := fun other => by
  rw [realm_modifyRealm keeps]
  by_cases own : other = handle ∧ before.Known handle
  · rw [if_pos own, own.1]
    exact used own.2
  · rw [if_neg own]
    exact restocks other

theorem weighty {roles : NameSet} (some : roles.isEmpty = false) : 1 ≤ roles.size := by
  cases names : roles.names with
  | nil => simp [NameSet.isEmpty, names] at some
  | cons name rest =>
    rw [NameSet.size, names]
    exact Nat.le_add_left 1 _

theorem Light.remembered {handle : String} {roles : NameSet} {held : Numbered Holdings}
    (light : (before.modifyRealm handle (·.remember roles held)).Light) (known : before.Known handle) :
    (before.realm handle).roleSets.highWater + roles.size < wordSpan := by
  have still : (before.modifyRealm handle (·.remember roles held)).Known handle :=
    (modifyRealm_routine (fun _ => rfl) before handle).known.mpr known
  have put : (before.modifyRealm handle (·.remember roles held)).realm handle =
      (before.realm handle).remember roles held := by
    rw [realm_modifyRealm (fun _ => rfl), if_pos ⟨rfl, known⟩]
  have bounded := light _ (known_realm still).1 (roles, held)
  rw [put] at bounded
  have kept : ((before.realm handle).remember roles held).roleSets.highWater =
      (before.realm handle).roleSets.highWater := guardAt_highWater _ _
  rw [kept] at bounded
  exact bounded List.mem_cons_self

theorem Restocks.deed (restocks : first.Restocks before) (deed : before.Deed after) (light : after.Light) :
    first.Restocks after := by
  cases deed with
  | use | note | invalidate | shutdown | meetGeneration | elsewhere => exact restocks.congr rfl
  | change f => exact restocks.congr (by unfold Service.change; dsimp only; split <;> rfl)
  | meetEpoch handle =>
    refine restocks.modifyRealm (meetEpoch_keeps _) fun _ => ?_
    unfold Realm.meetEpoch
    split
    · exact (restocks handle).after .clear trivial
    · exact restocks handle
  | lookUp handle roles =>
    exact restocks.modifyRealm (fun _ => rfl) fun _ => (restocks handle).after (.get roles) trivial
  | @remember handle roles held some =>
    refine restocks.modifyRealm (fun _ => rfl) fun known => ?_
    exact (restocks handle).after (.insertWeighted roles held roles.size)
      ⟨weighty some, (restocks handle).mark ▸ light.remembered known⟩

theorem Restocks.along {α : Type} {course : Act α} (restocks : first.Restocks before) (orderly : course.Orderly)
    (light : ∀ moment ∈ course.moments before, moment.Light) :
    ∀ moment ∈ course.moments before, first.Restocks moment := fun moment passed =>
  orderly.holds ((orderly before).imp_of_mem_tail_imp fun _ after _ later _ => light after later)
    (fun _ _ deed light restocks => restocks.deed deed light) restocks moment (List.mem_cons_of_mem _ passed)

theorem restocks_fresh
    (fresh : ∀ realm ∈ first.realms, ∃ settings : Settings, realm.roleSets = .new settings.roleSets) :
    first.Restocks first := fun handle => by
  rcases realm_cases first handle with ⟨isRealm, _⟩ | ⟨nothing, _⟩
  · obtain ⟨settings, made⟩ := fresh _ isRealm
    rw [made]
    exact supplied_new _
  · rw [nothing]
    exact supplied_new _

theorem Stocked.restocks (stocked : first.Stocked after) : first.Restocks after := by
  induction stocked with
  | begins fresh => exact restocks_fresh fresh
  | step depth _ light ih => exact holds_last ih (ih.along (performWithin_orderly depth _) light)

theorem Stocks.restocks (stocks : first.Stocks moment) : first.Restocks moment := by
  obtain ⟨service, depth, step, stocked, light, passed⟩ := stocks
  rcases List.mem_cons.mp passed with rfl | later
  · exact stocked.restocks
  · exact stocked.restocks.along (performWithin_orderly depth step) light moment later

end Service

theorem guards_bound_what_is_held {Key Value : Type} [DecidableEq Key] (highWater : Nat) :
    (∀ history : List (Use Key Value), (∀ use ∈ history, use.Plain) →
      ((new highWater).run history).HeldByCount highWater history) ∧
    (∀ history : List (Use Key Value), (∀ use ∈ history, use.Weighted highWater) →
      ((new highWater).run history).HeldByWeight highWater history) ∧
    ∀ first moment : Service, first.Stocks moment → ∀ handle,
      (moment.realm handle).roleSets.highWater = (first.realm handle).roleSets.highWater ∧
      (moment.realm handle).roleSets.size ≤ (first.realm handle).roleSets.highWater + 1 := by
  refine ⟨fun history => heldByCount, fun history => heldByWeight, fun first moment stocks handle => ?_⟩
  have supplied := stocks.restocks handle
  exact ⟨supplied.mark, supplied.size_le⟩

-- A key that is put in again weighs again, so that the third insertion is one too many.
def weighing : List (Use String Nat) :=
  [.insertWeighted "a" 1 3, .get "a", .insertWeighted "a" 2 3, .insertWeighted "b" 3 1]

-- The fourth insertion finds three entries where two are allowed.
def crowding : List (Use String Nat) := [.insert "a" 1, .insert "b" 2, .insert "c" 3, .insert "d" 4]

def stocking : Step := .permissions "realm" (.ofRoles (.ofList ["reader"]))

def stocked : Service := ((performWithin 1 stocking).run circling).2

theorem crowded_caches_bounded :
    ((new 5).run weighing).HeldByWeight 5 weighing ∧ ((new 5).run weighing).tally.resets = 1 ∧
    ((new 2).run crowding).HeldByCount 2 crowding ∧ ((new 2).run crowding).tally.resets = 1 ∧
    circling.Stocks stocked ∧ 0 < (stocked.realm "realm").roleSets.size ∧
    (stocked.realm "realm").roleSets.size ≤ (circling.realm "realm").roleSets.highWater + 1 := by
  have fresh : circling.Stocked circling := .begins fun realm member => by
    rw [List.mem_singleton.mp member]
    exact ⟨{}, rfl⟩
  have stocks : circling.Stocks stocked :=
    ⟨circling, 1, stocking, fresh, by decide +kernel, run_mem _ _⟩
  have weighted : ∀ use ∈ weighing, use.Weighted 5 := by simp [weighing, Use.Weighted, wordSpan, UInt64.size]
  have plain : ∀ use ∈ crowding, use.Plain := by simp [crowding, Use.Plain]
  obtain ⟨_, byWeight, realms⟩ := @guards_bound_what_is_held String Nat _ 5
  obtain ⟨byCount, _⟩ := @guards_bound_what_is_held String Nat _ 2
  exact ⟨byWeight weighing weighted, by decide, byCount crowding plain, by decide, stocks, by decide +kernel,
    (realms circling stocked stocks "realm").2⟩

end RepositoryAccess
