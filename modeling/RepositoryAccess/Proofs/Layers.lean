import RepositoryAccess.Proofs.Walk

namespace RepositoryAccess
open RepositoryAccess.Directory

namespace Directory.Store

variable {store : Store} {seed id : String} {steps more : Nat}

def Within (store : Store) (seed : String) : Nat → String → Prop
  | 0, id => id = seed
  | steps + 1, id => store.Within seed steps id ∨
      ∃ outer, store.Within seed steps outer ∧ store.Contains outer id

theorem Within.mono (within : store.Within seed steps id) (le : steps ≤ more) :
    store.Within seed more id := by
  induction more with
  | zero => rwa [Nat.le_zero.mp le] at within
  | succ more ih =>
    rcases Nat.lt_or_eq_of_le le with less | same
    · exact .inl (ih (Nat.le_of_lt_succ less))
    · rwa [same] at within

theorem reaches_iff : store.Reaches seed id ↔ ∃ steps, store.Within seed steps id := by
  constructor
  · intro path
    induction path with
    | refl => exact ⟨0, rfl⟩
    | tail _ contained ih =>
      obtain ⟨steps, within⟩ := ih
      exact ⟨steps + 1, .inr ⟨_, within, contained⟩⟩
  · rintro ⟨steps, within⟩
    induction steps generalizing id with
    | zero => rw [show id = seed from within]; exact .refl
    | succ steps ih =>
      rcases within with closer | ⟨outer, before, contained⟩
      · exact ih closer
      · exact (ih before).tail contained

end Directory.Store

namespace Walk

-- The layer that is `steps` away from the seed has its turn: the roles of `near` are left of it, and
-- those of `far` were found on the way.
structure Layered (walk : Walk) (store : Store) (seed : String) (steps : Nat)
    (near far : List String) : Prop where
  pending : walk.pending = near ++ far
  near_within : ∀ id ∈ near, store.Within seed steps id
  far_within : ∀ id ∈ far, store.Within seed (steps + 1) id
  visited_within : ∀ id ∈ walk.visited, store.Within seed steps id
  closer : ∀ fewer < steps, ∀ id, store.Within seed fewer id → id ∈ walk.visited
  layer : ∀ id, store.Within seed steps id → id ∈ walk.visited ∨ id ∈ near
  inner : ∀ outer ∈ walk.visited, ∀ id, store.Contains outer id →
    id ∈ walk.visited ∨ id ∈ walk.pending

variable {walk next : Walk} {store : Store} {seed id : String} {steps : Nat}
  {near far pending added : List String}

theorem startingAt_layered (store : Store) (seed : String) :
    (startingAt seed).Layered store seed 0 [seed] [] where
  pending := rfl
  near_within _ member := List.mem_singleton.mp member
  far_within _ member := absurd member List.not_mem_nil
  visited_within _ member := absurd member List.not_mem_nil
  closer _ less := absurd less (Nat.not_lt_zero _)
  layer _ within := .inr (List.mem_singleton.mpr within)
  inner _ member := absurd member List.not_mem_nil

theorem Layered.shift (layered : walk.Layered store seed steps [] far) :
    walk.Layered store seed (steps + 1) far [] := by
  have all : ∀ id, store.Within seed steps id → id ∈ walk.visited :=
    fun id within => (layered.layer id within).resolve_right List.not_mem_nil
  refine ⟨by rw [layered.pending, List.nil_append, List.append_nil], layered.far_within,
    fun _ member => absurd member List.not_mem_nil, ?_, ?_, ?_, layered.inner⟩
  · intro id member
    exact .inl (layered.visited_within id member)
  · intro fewer less id within
    exact all id (within.mono (Nat.le_of_lt_succ less))
  · rintro id (within | ⟨outer, within, contained⟩)
    · exact .inl (all id within)
    · have placed := layered.inner outer (all outer within) id contained
      rwa [layered.pending] at placed

theorem Layered.front (layered : walk.Layered store seed steps near far)
    (first : walk.pending = id :: pending) : ∃ steps near far,
      pending = near ++ far ∧ walk.Layered store seed steps (id :: near) far := by
  have split : near ++ far = id :: pending := layered.pending.symm.trans first
  cases near with
  | nil =>
    obtain rfl : far = id :: pending := split
    exact ⟨steps + 1, pending, [], (List.append_nil _).symm, layered.shift⟩
  | cons head near =>
    obtain ⟨rfl, rest⟩ := List.cons.inj split
    exact ⟨steps, near, far, rest.symm, layered⟩

theorem Layered.again (layered : walk.Layered store seed steps (id :: near) far)
    (seen : id ∈ walk.visited) :
    { walk with pending := near ++ far }.Layered store seed steps near far := by
  refine ⟨rfl, fun other member => layered.near_within other (List.mem_cons_of_mem _ member),
    layered.far_within, layered.visited_within, layered.closer, ?_, ?_⟩
  · intro other within
    rcases layered.layer other within with visited | waits
    · exact .inl visited
    · rcases List.mem_cons.mp waits with rfl | later
      · exact .inl seen
      · exact .inr later
  · intro outer member other contained
    rcases layered.inner outer member other contained with visited | waits
    · exact .inl visited
    · rw [layered.pending] at waits
      rcases List.mem_cons.mp waits with rfl | later
      · exact .inl seen
      · exact .inr later

theorem Layered.advance (layered : walk.Layered store seed steps (id :: near) far)
    (visited : next.visited = id :: walk.visited) (waiting : next.pending = near ++ far ++ added)
    (contained : ∀ other ∈ added, store.Contains id other)
    (placed : ∀ other, store.Contains id other → other ∈ next.visited ∨ other ∈ added) :
    next.Layered store seed steps near (far ++ added) := by
  have here : store.Within seed steps id := layered.near_within id List.mem_cons_self
  have kept : ∀ other, other ∈ walk.visited → other ∈ next.visited := by
    intro other before
    rw [visited]
    exact List.mem_cons_of_mem _ before
  refine ⟨by rw [waiting, List.append_assoc], ?_, ?_, ?_, ?_, ?_, ?_⟩
  · intro other member
    exact layered.near_within other (List.mem_cons_of_mem _ member)
  · intro other member
    rcases List.mem_append.mp member with before | new
    · exact layered.far_within other before
    · exact .inr ⟨id, here, contained other new⟩
  · intro other member
    rw [visited] at member
    rcases List.mem_cons.mp member with rfl | before
    · exact here
    · exact layered.visited_within other before
  · intro fewer less other within
    exact kept other (layered.closer fewer less other within)
  · intro other within
    rcases layered.layer other within with before | waits
    · exact .inl (kept other before)
    · rcases List.mem_cons.mp waits with rfl | later
      · exact .inl (by rw [visited]; exact List.mem_cons_self)
      · exact .inr later
  · intro outer member other isInner
    rw [visited] at member
    rcases List.mem_cons.mp member with rfl | before
    · exact (placed other isInner).imp_right fun new =>
        by rw [waiting]; exact List.mem_append_right _ new
    · rcases layered.inner outer before other isInner with seen | waits
      · exact .inl (kept other seen)
      · rw [layered.pending] at waits
        rcases List.mem_cons.mp waits with rfl | later
        · exact .inl (by rw [visited]; exact List.mem_cons_self)
        · exact .inr (by rw [waiting]; exact List.mem_append_left _ later)

-- While a role of the layer has its turn, nothing that is left is closer to the seed.
theorem Layered.nearest (layered : walk.Layered store seed steps (id :: near) far) {other : String}
    (unseen : other ∉ walk.visited) {fewer : Nat} (within : store.Within seed fewer other) :
    store.Within seed fewer id := by
  rcases Nat.lt_or_ge fewer steps with less | enough
  · exact absurd (layered.closer fewer less other within) unseen
  · exact (layered.near_within id List.mem_cons_self).mono enough

theorem Layered.finished (layered : walk.Layered store seed steps near far)
    (ended : walk.pending = []) (reached : store.Reaches seed id) : id ∈ walk.visited := by
  obtain ⟨rfl, rfl⟩ := List.append_eq_nil_iff.mp (layered.pending.symm.trans ended)
  have onward : ∀ more, walk.Layered store seed (steps + more) [] [] := by
    intro more
    induction more with
    | zero => exact layered
    | succ more ih => exact ih.shift
  obtain ⟨distance, within⟩ := Store.reaches_iff.mp reached
  exact (onward (distance + 1)).closer distance (by omega) id within

end Walk
end RepositoryAccess
