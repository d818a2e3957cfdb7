import Mathlib.Data.List.Induction
import Mathlib.Data.List.Perm.Subperm
import RepositoryAccess.Proofs.Holdings

namespace RepositoryAccess.Holdings
open Permission

-- How a set is gathered: from a list, or from another set by one permission more, or by all of a third.
inductive Making
  | collect (permissions : List Permission)
  | insert (making : Making) (permission : Permission)
  | merge (making more : Making)

namespace Making

def holdings : Making → Holdings
  | collect permissions => .ofList permissions
  | insert making permission => (making.holdings.put permission).2
  | merge making more => making.holdings.merge more.holdings

def given : Making → List Permission
  | collect permissions => permissions
  | insert making permission => making.given ++ [permission]
  | merge making more => making.given ++ more.given

end Making

variable {held other : Holdings} {given more : List Permission} {permission asked : Permission}

theorem insert_of_contains (present : held.contains permission = true) : held.insert permission = held :=
  if_pos present

theorem members_insert (absent : held.contains permission = false) :
    (held.insert permission).members = held.members ++ [permission] := by
  simp [insert, absent]

theorem insertAll_append (held : Holdings) (given more : List Permission) :
    held.insertAll (given ++ more) = (held.insertAll given).insertAll more :=
  List.foldl_append

theorem ofList_concat (given : List Permission) (permission : Permission) :
    ofList (given ++ [permission]) = (ofList given).insert permission :=
  insertAll_append _ _ _

theorem insertAll_members (held : Holdings) (given : List Permission) :
    held.insertAll (ofList given).members = held.insertAll given := by
  induction given using List.reverseRecOn with
  | nil => rfl
  | append_singleton given permission ih =>
    rw [ofList_concat, insertAll_append, ← ih]
    cases present : (ofList given).contains permission with
    | false =>
      rw [members_insert present, insertAll_append]
    | true =>
      rw [insert_of_contains present]
      have there : (held.insertAll (ofList given).members).contains permission = true :=
        contains_insertAll.mpr (.inr (contains_iff.mp present))
      exact (insert_of_contains there).symm

theorem Making.holdings_eq (making : Making) : making.holdings = ofList making.given := by
  induction making with
  | collect permissions => rfl
  | insert making permission ih =>
    rw [Making.given, ofList_concat, ← ih]
    rfl
  | merge making more ih ihMore =>
    rw [Making.holdings, ih, ihMore, Holdings.merge, insertAll_members, Making.given, ofList, ofList,
      insertAll_append]

-- One of each that are the same, the first that was given, in the order in which these were given.
structure Lists (held : Holdings) (given : List Permission) : Prop where
  distinct : held.members.Pairwise fun early late => early.same late = false
  first : ∀ member ∈ held.members, given.find? (·.same member) = some member
  order : held.members.Pairwise fun early late =>
    given.findIdx (·.same early) < given.findIdx (·.same late)
  complete : ∀ permission ∈ given, held.contains permission = true

namespace Lists
variable {member : Permission}

theorem place_lt (lists : held.Lists given) (isMember : member ∈ held.members) :
    given.findIdx (·.same member) < given.length := by
  apply List.findIdx_lt_length_of_exists
  exact ⟨member, List.mem_of_find?_eq_some (lists.first member isMember), member.same_refl⟩

theorem found_still (lists : held.Lists given) (more : List Permission) (isMember : member ∈ held.members) :
    (given ++ more).find? (·.same member) = some member := by
  rw [List.find?_append, lists.first member isMember, Option.some_or]

theorem place_still (lists : held.Lists given) (more : List Permission) (isMember : member ∈ held.members) :
    (given ++ more).findIdx (·.same member) = given.findIdx (·.same member) := by
  rw [List.findIdx_append, if_pos (lists.place_lt isMember)]

theorem order_still (lists : held.Lists given) (more : List Permission) :
    held.members.Pairwise fun early late =>
      (given ++ more).findIdx (·.same early) < (given ++ more).findIdx (·.same late) := by
  apply lists.order.imp_of_mem
  intro early late isEarly isLate before
  rw [lists.place_still more isEarly, lists.place_still more isLate]
  exact before

theorem unlike (lists : held.Lists given) (absent : held.contains permission = false) :
    ∀ earlier ∈ given, earlier.same permission = false := by
  intro earlier isGiven
  apply Bool.eq_false_iff.mpr
  intro same
  rw [contains_congr same (lists.complete earlier isGiven)] at absent
  cases absent

theorem again (lists : held.Lists given) (present : held.contains permission = true) :
    held.Lists (given ++ [permission]) := by
  refine ⟨lists.distinct, fun _ isMember => lists.found_still _ isMember, lists.order_still _, ?_⟩
  intro other isGiven
  rcases List.mem_append.mp isGiven with old | new
  · exact lists.complete other old
  · rw [List.mem_singleton.mp new]
    exact present

theorem anew (lists : held.Lists given) (absent : held.contains permission = false) :
    (held.insert permission).Lists (given ++ [permission]) := by
  have unlike := lists.unlike absent
  have members := members_insert absent
  have found : (given ++ [permission]).find? (·.same permission) = some permission := by
    have none : given.find? (·.same permission) = none := by simpa using unlike
    simp [List.find?_append, none, permission.same_refl]
  have place : (given ++ [permission]).findIdx (·.same permission) = given.length := by
    have last : given.findIdx (·.same permission) = given.length :=
      List.findIdx_eq_length_of_false unlike
    simp [List.findIdx_append, last, List.findIdx_cons, permission.same_refl]
  refine ⟨insert_distinct permission lists.distinct, ?_, ?_, ?_⟩
  · intro member isMember
    rw [members] at isMember
    rcases List.mem_append.mp isMember with old | new
    · exact lists.found_still _ old
    · rw [List.mem_singleton.mp new]
      exact found
  · rw [members]
    refine List.pairwise_append.mpr ⟨lists.order_still _, List.pairwise_singleton _ _, ?_⟩
    intro early isEarly late isLate
    rw [List.mem_singleton.mp isLate, place, lists.place_still _ isEarly]
    exact lists.place_lt isEarly
  · intro other isGiven
    rcases List.mem_append.mp isGiven with old | new
    · exact contains_insert.mpr (.inl (lists.complete other old))
    · rw [List.mem_singleton.mp new]
      exact contains_insert.mpr (.inr permission.same_refl)

end Lists

theorem ofList_lists (given : List Permission) : (ofList given).Lists given := by
  induction given using List.reverseRecOn with
  | nil => exact ⟨.nil, nofun, .nil, nofun⟩
  | append_singleton given permission ih =>
    rw [ofList_concat]
    cases present : (ofList given).contains permission with
    | true =>
      rw [insert_of_contains present]
      exact ih.again present
    | false => exact ih.anew present

-- What was dropped as a duplicate implies what the one that is held implies.
theorem permits_ofList : (ofList given).permits asked = true ↔
    ∃ permission ∈ given, permission.implies asked = true := by
  rw [ofList, (empty_exactly.insertAll given).permits asked]
  simp only [false_or]

def kind : Permission → String ⊕ List Text.NameSet
  | .constant text => .inl text
  | .wildcard form => .inr form.parts

theorem same_iff_kind {left right : Permission} : left.same right = true ↔ kind left = kind right := by
  cases left <;> cases right <;> simp [Permission.same, Wildcard.same, kind]

theorem contains_iff_kind : held.contains permission = true ↔ kind permission ∈ held.members.map kind := by
  simp only [contains_iff, same_iff_kind, List.mem_map]

theorem nodup_kinds (distinct : held.members.Pairwise fun early late => early.same late = false) :
    (held.members.map kind).Nodup := by
  apply List.pairwise_map.mpr
  apply distinct.imp
  intro early late different same
  rw [same_iff_kind.mpr same] at different
  cases different

theorem within_iff_kinds : (∀ member ∈ held.members, other.contains member = true) ↔
    held.members.map kind ⊆ other.members.map kind := by
  simp only [contains_iff_kind, List.subset_def, List.forall_mem_map]

theorem same_iff (left : held.Lists given) (right : other.Lists more) :
    held.same other = true ↔ (∀ member ∈ held.members, other.contains member = true) ∧
      ∀ member ∈ other.members, held.contains member = true := by
  have nodup := nodup_kinds left.distinct
  have nodupOther := nodup_kinds right.distinct
  have size : held.size = (held.members.map kind).length := by simp [Holdings.size]
  have sizeOther : other.size = (other.members.map kind).length := by simp [Holdings.size]
  unfold Holdings.same
  rw [Bool.and_eq_true, beq_iff_eq, List.all_eq_true, size, sizeOther, within_iff_kinds, within_iff_kinds]
  constructor
  · intro ⟨alike, within⟩
    have perm := (nodup.subperm within).perm_of_length_le (Nat.le_of_eq alike.symm)
    exact ⟨within, perm.symm.subset⟩
  · intro ⟨within, back⟩
    have perm := (List.perm_ext_iff_of_nodup nodup nodupOther).mpr fun _ => ⟨@within _, @back _⟩
    exact ⟨perm.length_eq, within⟩

theorem permits_congr (within : ∀ member ∈ held.members, other.contains member = true)
    (permitted : held.permits asked = true) : other.permits asked = true := by
  obtain ⟨member, isMember, implied⟩ := permits_iff.mp permitted
  obtain ⟨likewise, isOther, same⟩ := contains_iff.mp (within member isMember)
  exact permits_iff.mpr ⟨likewise, isOther, (implies_congr same asked).trans implied⟩

theorem gathered_set_decides_by_all_given (making another : Making) (permission : Permission) :
    making.holdings.Lists making.given ∧
    ((making.holdings.put permission).1 = false ↔
      ∃ member ∈ making.holdings.members, member.same permission = true) ∧
    (∀ asked, making.holdings.permits asked = true ↔
      ∃ permission ∈ making.given, permission.implies asked = true) ∧
    (making.holdings.same another.holdings = true ↔
      (∀ member ∈ making.holdings.members, another.holdings.contains member = true) ∧
        ∀ member ∈ another.holdings.members, making.holdings.contains member = true) ∧
    (making.holdings.same another.holdings = true → ∀ asked,
      making.holdings.permits asked = another.holdings.permits asked) := by
  have lists : making.holdings.Lists making.given := making.holdings_eq ▸ ofList_lists making.given
  have listsOther : another.holdings.Lists another.given := another.holdings_eq ▸ ofList_lists another.given
  have equal := same_iff lists listsOther
  refine ⟨lists, ?_, ?_, equal, ?_⟩
  · rw [← contains_iff]
    simp [put]
  · intro asked
    rw [making.holdings_eq, permits_ofList]
  · intro same asked
    obtain ⟨within, back⟩ := equal.mp same
    exact Bool.eq_iff_iff.mpr ⟨permits_congr within, permits_congr back⟩

theorem reordered_sets_decide_alike :
    let ordered : Permission := .wildcard ⟨"a:x,y", [.ofList ["a"], .ofList ["x", "y"]]⟩
    let turned : Permission := .wildcard ⟨"a:y,x", [.ofList ["a"], .ofList ["y", "x"]]⟩
    let making : Making := .merge (.insert (.collect [.constant "b", ordered]) turned) (.collect [.constant "b"])
    let another : Making := .insert (.collect [turned]) (.constant "b")
    Permission.parse "a:x,y" = .ok ordered ∧ Permission.parse "a:y,x" = .ok turned ∧
      making.holdings.texts = ["b", "a:x,y"] ∧ another.holdings.texts = ["a:y,x", "b"] ∧
      (making.holdings.put turned).1 = false ∧ making.holdings.same another.holdings = true ∧
        ∀ asked, making.holdings.permits asked = another.holdings.permits asked := by
  intro ordered turned making another
  obtain ⟨_, answer, _, _, alike⟩ := gathered_set_decides_by_all_given making another turned
  have same : making.holdings.same another.holdings = true := by decide +kernel
  have held : ∃ member ∈ making.holdings.members, member.same turned = true :=
    ⟨ordered, by decide +kernel, rfl⟩
  exact ⟨by decide +kernel, by decide +kernel, by decide +kernel, by decide +kernel, answer.mpr held, same,
    alike same⟩

end RepositoryAccess.Holdings
