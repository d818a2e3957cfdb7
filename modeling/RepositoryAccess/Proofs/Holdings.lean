import RepositoryAccess.Permission.Holdings

namespace RepositoryAccess

namespace Permission

theorem same_constant {asked : String} {held : Permission}
    (same : held.same (.constant asked) = true) : held = .constant asked := by
  cases held with
  | constant text => simpa [Permission.same] using same
  | wildcard form => simp [Permission.same] at same

theorem implies_congr {left right : Permission} (same : left.same right = true)
    (asked : Permission) : left.implies asked = right.implies asked := by
  cases right with
  | constant text => rw [same_constant same]
  | wildcard rightForm =>
    cases left with
    | constant text => simp [Permission.same] at same
    | wildcard leftForm =>
      have parts : leftForm.parts = rightForm.parts := by
        simpa [Permission.same, Wildcard.same] using same
      cases asked <;> simp [Permission.implies, Permission.form, Wildcard.implies, parts]

end Permission

namespace Holdings

theorem contains_iff {held : Holdings} {permission : Permission} :
    held.contains permission = true ↔ ∃ member ∈ held.members, member.same permission = true := by
  simp [contains]

theorem contains_of_mem {held : Holdings} {permission : Permission}
    (member : permission ∈ held.members) : held.contains permission = true :=
  contains_iff.mpr ⟨permission, member, permission.same_refl⟩

theorem contains_congr {held : Holdings} {left right : Permission} (same : left.same right = true)
    (holds : held.contains left = true) : held.contains right = true := by
  obtain ⟨member, isMember, first⟩ := contains_iff.mp holds
  exact contains_iff.mpr ⟨member, isMember, Permission.same_trans first same⟩

theorem mem_insert {held : Holdings} {permission other : Permission}
    (member : other ∈ (held.insert permission).members) :
    other = permission ∨ other ∈ held.members := by
  unfold insert at member
  split at member
  · exact .inr member
  · rcases List.mem_append.mp member with old | new
    · exact .inr old
    · exact .inl (List.mem_singleton.mp new)

theorem contains_insert {held : Holdings} {permission other : Permission} :
    (held.insert permission).contains other = true ↔
      held.contains other = true ∨ permission.same other = true := by
  unfold insert
  split
  · rename_i present
    refine ⟨.inl, ?_⟩
    rintro (old | new)
    · exact old
    · exact contains_congr new present
  · simp [contains]

theorem mem_insertAll {permissions : List Permission} {held : Holdings} {other : Permission}
    (member : other ∈ (held.insertAll permissions).members) :
    other ∈ permissions ∨ other ∈ held.members := by
  induction permissions generalizing held with
  | nil => exact .inr member
  | cons first rest ih =>
    rcases ih member with later | before
    · exact .inl (List.mem_cons_of_mem _ later)
    · rcases mem_insert before with rfl | old
      · exact .inl List.mem_cons_self
      · exact .inr old

theorem contains_insertAll {permissions : List Permission} {held : Holdings} {other : Permission} :
    (held.insertAll permissions).contains other = true ↔
      held.contains other = true ∨ ∃ permission ∈ permissions, permission.same other = true := by
  induction permissions generalizing held with
  | nil => simp [insertAll]
  | cons first rest ih =>
    show ((held.insert first).insertAll rest).contains other = true ↔ _
    rw [ih, contains_insert]
    simp only [List.mem_cons, exists_eq_or_imp, or_assoc]

theorem mem_merge {held more : Holdings} {other : Permission}
    (member : other ∈ (held.merge more).members) : other ∈ more.members ∨ other ∈ held.members :=
  mem_insertAll member

theorem contains_merge {held more : Holdings} {other : Permission} :
    (held.merge more).contains other = true ↔
      held.contains other = true ∨ more.contains other = true := by
  unfold merge
  rw [contains_insertAll, ← contains_iff]

-- The short way of granting a constant that is itself held changes no decision.
theorem permits_iff {held : Holdings} {asked : Permission} :
    held.permits asked = true ↔ ∃ member ∈ held.members, member.implies asked = true := by
  unfold permits
  rw [Bool.or_eq_true, Bool.and_eq_true, List.any_eq_true]
  refine ⟨?_, .inr⟩
  rintro (⟨constant, present⟩ | granted)
  · obtain ⟨member, isMember, same⟩ := contains_iff.mp present
    cases asked with
    | wildcard form => cases constant
    | constant text =>
      refine ⟨member, isMember, ?_⟩
      rw [Permission.same_constant same]
      simp [Permission.implies]
  · exact granted

structure Exactly (held : Holdings) (granted : Permission → Prop) : Prop where
  sound : ∀ permission ∈ held.members, granted permission
  complete : ∀ permission, granted permission → held.contains permission = true

theorem empty_exactly : empty.Exactly fun _ => False :=
  ⟨fun _ member => absurd member List.not_mem_nil, fun _ impossible => impossible.elim⟩

theorem Exactly.congr {held : Holdings} {granted other : Permission → Prop}
    (account : held.Exactly granted) (same : ∀ permission, granted permission ↔ other permission) :
    held.Exactly other :=
  ⟨fun permission member => (same permission).mp (account.sound permission member),
    fun permission holds => account.complete permission ((same permission).mpr holds)⟩

theorem Exactly.insertAll {held : Holdings} {granted : Permission → Prop}
    (account : held.Exactly granted) (permissions : List Permission) :
    (held.insertAll permissions).Exactly fun permission =>
      granted permission ∨ permission ∈ permissions := by
  refine ⟨?_, ?_⟩
  · intro permission member
    rcases mem_insertAll member with new | old
    · exact .inr new
    · exact .inl (account.sound permission old)
  · rintro permission (old | new)
    · exact contains_insertAll.mpr (.inl (account.complete permission old))
    · exact contains_insertAll.mpr (.inr ⟨permission, new, permission.same_refl⟩)

theorem Exactly.insert {held : Holdings} {granted : Permission → Prop}
    (account : held.Exactly granted) (new : Permission) :
    (held.insert new).Exactly fun permission => granted permission ∨ permission = new :=
  (account.insertAll [new]).congr fun _ => by simp

theorem Exactly.merge {held more : Holdings} {granted other : Permission → Prop}
    (left : held.Exactly granted) (right : more.Exactly other) :
    (held.merge more).Exactly fun permission => granted permission ∨ other permission := by
  refine ⟨?_, ?_⟩
  · intro permission member
    rcases mem_merge member with new | old
    · exact .inr (right.sound permission new)
    · exact .inl (left.sound permission old)
  · rintro permission (old | new)
    · exact contains_merge.mpr (.inl (left.complete permission old))
    · exact contains_merge.mpr (.inr (right.complete permission new))

theorem Exactly.permits {held : Holdings} {granted : Permission → Prop}
    (account : held.Exactly granted) (asked : Permission) :
    held.permits asked = true ↔ ∃ permission, granted permission ∧ permission.implies asked = true := by
  rw [permits_iff]
  constructor
  · rintro ⟨member, isMember, implied⟩
    exact ⟨member, account.sound member isMember, implied⟩
  · rintro ⟨permission, isGranted, implied⟩
    obtain ⟨member, isMember, same⟩ := contains_iff.mp (account.complete permission isGranted)
    exact ⟨member, isMember, by rw [Permission.implies_congr same]; exact implied⟩

theorem Exactly.contains_eq {held other : Holdings} {granted : Permission → Prop}
    (left : held.Exactly granted) (right : other.Exactly granted) (permission : Permission) :
    held.contains permission = other.contains permission := by
  have carry : ∀ {one two : Holdings}, one.Exactly granted → two.Exactly granted →
      one.contains permission = true → two.contains permission = true := by
    intro one two first second present
    obtain ⟨member, isMember, same⟩ := contains_iff.mp present
    exact contains_congr same (second.complete member (first.sound member isMember))
  exact Bool.eq_iff_iff.mpr ⟨carry left right, carry right left⟩

-- The permissions in the order in which they are first seen, one of each that are the same.
structure FirstSeen (held : Holdings) (permissions : List Permission) : Prop where
  order : held.members.Sublist permissions
  distinct : held.members.Pairwise fun first second => first.same second = false
  first : ∀ before permission after, permissions = before ++ permission :: after →
    (∀ earlier ∈ before, earlier.same permission = false) → permission ∈ held.members

theorem insert_order (held : Holdings) (permission : Permission) :
    (held.insert permission).members.Sublist (held.members ++ [permission]) := by
  unfold insert
  split
  · exact List.sublist_append_left _ _
  · exact List.Sublist.refl _

theorem insert_distinct {held : Holdings} (permission : Permission)
    (distinct : held.members.Pairwise fun first second => first.same second = false) :
    (held.insert permission).members.Pairwise fun first second => first.same second = false := by
  unfold insert
  split
  · exact distinct
  · rename_i absent
    refine List.pairwise_append.mpr ⟨distinct, List.pairwise_singleton _ _, ?_⟩
    intro member isMember other isOther
    rw [List.mem_singleton.mp isOther]
    exact Bool.eq_false_iff.mpr fun same => absent (contains_iff.mpr ⟨member, isMember, same⟩)

theorem insertAll_order (held : Holdings) (permissions : List Permission) :
    (held.insertAll permissions).members.Sublist (held.members ++ permissions) := by
  induction permissions generalizing held with
  | nil => rw [List.append_nil]; exact List.Sublist.refl _
  | cons permission permissions ih =>
    have step := (insert_order held permission).append_right permissions
    rw [List.append_assoc] at step
    exact (ih (held.insert permission)).trans step

theorem insertAll_distinct {held : Holdings} (permissions : List Permission)
    (distinct : held.members.Pairwise fun first second => first.same second = false) :
    (held.insertAll permissions).members.Pairwise fun first second => first.same second = false := by
  induction permissions generalizing held with
  | nil => exact distinct
  | cons permission permissions ih => exact ih (insert_distinct permission distinct)

theorem insertAll_keeps {held : Holdings} (permissions : List Permission) {member : Permission}
    (present : member ∈ held.members) : member ∈ (held.insertAll permissions).members := by
  induction permissions generalizing held with
  | nil => exact present
  | cons permission permissions ih =>
    refine ih ?_
    unfold insert
    split
    · exact present
    · exact List.mem_append_left _ present

theorem ofList_firstSeen (permissions : List Permission) :
    (ofList permissions).FirstSeen permissions := by
  refine ⟨insertAll_order empty permissions, insertAll_distinct permissions .nil, ?_⟩
  rintro before permission after rfl fresh
  have whole : ofList (before ++ permission :: after) =
      ((empty.insertAll before).insert permission).insertAll after := by
    simp only [ofList, insertAll, List.foldl_append, List.foldl_cons]
  rw [whole]
  refine insertAll_keeps after ?_
  unfold insert
  split
  · rename_i present
    rcases contains_insertAll.mp present with nothing | ⟨earlier, member, same⟩
    · cases nothing
    · rw [fresh earlier member] at same
      cases same
  · exact List.mem_append_right _ (List.mem_singleton_self _)

end Holdings
end RepositoryAccess
