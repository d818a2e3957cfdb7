import RepositoryAccess.Realm.Basic

namespace RepositoryAccess
open RepositoryAccess.Text RepositoryAccess.Directory

def Directory.Question.consulted : Question → String
  | .user _ => defaultSource
  | .roles _ source => source

namespace Realm

def rewritten (name : String) (manager : Manager) : String :=
  if manager.authRealm = some name then manager.source else name

def ownAside (own name : String) : String := if name = own then defaultSource else name

def becomes (own : String) (managers : List Manager) (name : String) : String :=
  ownAside own (managers.foldl rewritten name)

-- What the name stands for: the source of the manager whose users its realm authenticates, otherwise
-- the default source if the name is the realm's own.
def standsFor (own : String) (managers : List Manager) (name : String) : String :=
  match managers.find? (·.authRealm = some name) with
  | some manager => manager.source
  | none => ownAside own name

def Settles (own : String) : List Manager → String → Prop
  | [], _ => True
  | manager :: managers, name =>
    if manager.authRealm = some name then becomes own managers manager.source = manager.source
    else Settles own managers name

instance (own : String) : ∀ (managers : List Manager) (name : String),
    Decidable (Settles own managers name)
  | [], _ => .isTrue trivial
  | manager :: managers, name =>
    if same : manager.authRealm = some name then
      decidable_of_iff (becomes own managers manager.source = manager.source)
        (by rw [Settles, if_pos same])
    else
      have := instDecidableSettles own managers name
      decidable_of_iff (Settles own managers name) (by rw [Settles, if_neg same])

-- No manager and not the own name makes something else of the source of a manager.
def Apart (own : String) (managers : List Manager) : Prop :=
  ∀ manager ∈ managers, ownAside own manager.source = manager.source ∧
    ∀ other ∈ managers, rewritten manager.source other = manager.source

variable {own name other : String} {names : NameSet} {manager : Manager}
  {managers permuted : List Manager}

theorem mem_replace {place : String} : other ∈ replace names name place ↔
    ∃ before ∈ names, (if before = name then place else before) = other := by
  unfold replace
  by_cases present : name ∈ names
  · rw [if_pos present, NameSet.mem_insert, NameSet.mem_erase]
    constructor
    · rintro (rfl | ⟨member, different⟩)
      · exact ⟨name, present, if_pos rfl⟩
      · exact ⟨other, member, if_neg different⟩
    · rintro ⟨before, member, rfl⟩
      split
      · exact .inl rfl
      · rename_i different
        exact .inr ⟨member, different⟩
  · rw [if_neg present]
    have kept : ∀ before ∈ names, (if before = name then place else before) = before :=
      fun before member => if_neg fun same => present (by rw [← same]; exact member)
    constructor
    · intro member
      exact ⟨other, member, kept other member⟩
    · rintro ⟨before, member, rfl⟩
      rw [kept before member]
      exact member

theorem mem_replaceFor : other ∈ (match manager.authRealm with
      | some authRealm => replace names authRealm manager.source
      | none => names) ↔ ∃ name ∈ names, rewritten name manager = other := by
  unfold rewritten
  cases manager.authRealm with
  | none => simp
  | some authRealm =>
    simp only [mem_replace, Option.some.injEq]
    simp only [eq_comm]

theorem mem_replaceAll : other ∈ managers.foldl (fun names manager =>
      match manager.authRealm with
      | some authRealm => replace names authRealm manager.source
      | none => names) names ↔ ∃ name ∈ names, managers.foldl rewritten name = other := by
  induction managers generalizing names with
  | nil => simp
  | cons manager managers ih =>
    rw [List.foldl_cons, ih]
    constructor
    · rintro ⟨between, member, same⟩
      obtain ⟨name, isName, rfl⟩ := mem_replaceFor.mp member
      exact ⟨name, isName, same⟩
    · rintro ⟨name, isName, same⟩
      exact ⟨rewritten name manager, mem_replaceFor.mpr ⟨name, isName, rfl⟩, same⟩

theorem mem_sources : other ∈ sources own managers names ↔
    ∃ name ∈ names, becomes own managers name = other := by
  refine mem_replace.trans ⟨?_, ?_⟩
  · rintro ⟨between, member, same⟩
    obtain ⟨name, isName, rfl⟩ := mem_replaceAll.mp member
    exact ⟨name, isName, same⟩
  · rintro ⟨name, isName, same⟩
    exact ⟨_, mem_replaceAll.mpr ⟨name, isName, rfl⟩, same⟩

theorem sources_singleton :
    sources own managers (.singleton name) = .singleton (becomes own managers name) := by
  refine NameSet.ext_mem fun other => ?_
  simp only [mem_sources, NameSet.mem_singleton, exists_eq_left]
  exact eq_comm

-- A name comes to what it stands for exactly if what is put in for it is not rewritten again.
theorem becomes_iff_settles :
    becomes own managers name = standsFor own managers name ↔ Settles own managers name := by
  induction managers with
  | nil => exact iff_of_true rfl trivial
  | cons manager managers ih =>
    by_cases same : manager.authRealm = some name
    · simp [becomes, standsFor, Settles, rewritten, same]
    · have skipped : becomes own (manager :: managers) name = becomes own managers name := by
        simp [becomes, rewritten, same]
      have later : standsFor own (manager :: managers) name = standsFor own managers name := by
        simp [standsFor, same]
      rw [skipped, later, ih, Settles, if_neg same]

theorem singleton_injective {left right : String}
    (same : NameSet.singleton left = .singleton right) : left = right := by
  rw [← NameSet.mem_singleton, ← same, NameSet.mem_singleton]

theorem sources_of_settled (settled : ∀ name ∈ names, Settles own managers name) :
    sources own managers names = .ofList (names.names.map (standsFor own managers)) := by
  refine NameSet.ext_mem fun other => ?_
  rw [mem_sources, NameSet.mem_ofList, List.mem_map]
  constructor
  · rintro ⟨name, isName, rfl⟩
    exact ⟨name, isName, (becomes_iff_settles.mpr (settled name isName)).symm⟩
  · rintro ⟨name, isName, rfl⟩
    exact ⟨name, isName, becomes_iff_settles.mpr (settled name isName)⟩

theorem find_authRealm (distinct : (managers.filterMap (·.authRealm)).Nodup) :
    managers.find? (·.authRealm = some name) = some manager ↔
      manager ∈ managers ∧ manager.authRealm = some name := by
  constructor
  · intro found
    exact ⟨List.mem_of_find?_eq_some found, by simpa using List.find?_some found⟩
  · rintro ⟨member, same⟩
    induction managers with
    | nil => cases member
    | cons first rest ih =>
      by_cases own : first.authRealm = some name
      · rw [List.filterMap_cons_some own, List.nodup_cons] at distinct
        rcases List.mem_cons.mp member with rfl | later
        · exact List.find?_cons_of_pos (by simpa using own)
        · exact absurd (List.mem_filterMap.mpr ⟨manager, later, same⟩) distinct.1
      · rw [List.find?_cons_of_neg (by simpa using own)]
        refine ih (distinct.sublist ((List.sublist_cons_self first rest).filterMap _)) ?_
        rcases List.mem_cons.mp member with rfl | later
        · exact absurd same own
        · exact later

theorem standsFor_perm (distinct : (managers.filterMap (·.authRealm)).Nodup)
    (order : permuted.Perm managers) : standsFor own permuted = standsFor own managers := by
  funext name
  have distinct' : (permuted.filterMap (·.authRealm)).Nodup :=
    ((order.filterMap _).nodup_iff).mpr distinct
  have same : permuted.find? (·.authRealm = some name) =
      managers.find? (·.authRealm = some name) := by
    refine Option.ext fun manager => ?_
    rw [find_authRealm distinct, find_authRealm distinct', order.mem_iff]
  rw [standsFor, standsFor, same]

theorem Apart.perm (apart : Apart own managers) (order : permuted.Perm managers) :
    Apart own permuted := by
  intro manager member
  obtain ⟨aside, others⟩ := apart manager (order.mem_iff.mp member)
  exact ⟨aside, fun other isOther => others other (order.mem_iff.mp isOther)⟩

theorem foldl_rewritten (kept : ∀ manager ∈ managers, rewritten name manager = name) :
    managers.foldl rewritten name = name := by
  induction managers with
  | nil => rfl
  | cons manager managers ih =>
    rw [List.foldl_cons, kept manager List.mem_cons_self]
    exact ih fun later member => kept later (List.mem_cons_of_mem _ member)

theorem Apart.settles (apart : Apart own managers) (name : String) : Settles own managers name := by
  induction managers with
  | nil => trivial
  | cons manager managers ih =>
    unfold Settles
    split
    · obtain ⟨aside, others⟩ := apart manager List.mem_cons_self
      rw [becomes, foldl_rewritten fun other member => others other (List.mem_cons_of_mem _ member)]
      exact aside
    · refine ih fun later member => ?_
      obtain ⟨aside, others⟩ := apart later (List.mem_cons_of_mem _ member)
      exact ⟨aside, fun other isOther => others other (List.mem_cons_of_mem _ isOther)⟩

variable {realm : Realm} {active : List String} {who : Principals}

theorem find_congr
    (same : sources realm.name permuted who.realms = sources realm.name managers who.realms) :
    realm.find manager permuted active (some who) = realm.find manager managers active (some who) := by
  unfold find
  simp only [same]

theorem consulted_mem {question : Question}
    (asked : question ∈ (realm.find manager managers active (some who)).2) :
    question.consulted ∈ sources realm.name managers who.realms := by
  unfold find at asked
  simp only at asked
  split at asked
  · unfold rolesOf at asked
    split at asked
    · obtain ⟨source, consulted, rfl⟩ := List.mem_map.mp asked
      exact consulted
    · split at asked
      · rename_i own
        rw [List.mem_singleton.mp asked]
        exact own
      · cases asked
  · cases asked

-- The names of realms are replaced at once, and in no order, as far as no source that was put in is
-- rewritten again.  Sources that are set apart from the names of realms never are.
theorem names_replaced_at_once (realm : Realm) {managers : List Manager}
    (distinct : (managers.filterMap (·.authRealm)).Nodup) :
    (∀ name, sources realm.name managers (.singleton name) =
        .singleton (standsFor realm.name managers name) ↔ Settles realm.name managers name) ∧
    (∀ names : NameSet, (∀ name ∈ names, Settles realm.name managers name) →
      sources realm.name managers names = .ofList (names.names.map (standsFor realm.name managers))) ∧
    (∀ permuted, permuted.Perm managers → ∀ manager active (who : Principals),
      (∀ name ∈ who.realms, Settles realm.name managers name ∧ Settles realm.name permuted name) →
      realm.find manager permuted active (some who) = realm.find manager managers active (some who)) ∧
    (∀ manager active (who : Principals), (∀ name ∈ who.realms, Settles realm.name managers name) →
      ∀ question ∈ (realm.find manager managers active (some who)).2,
        ∃ name ∈ who.realms, standsFor realm.name managers name = question.consulted) ∧
    (Apart realm.name managers → ∀ permuted, permuted.Perm managers →
      ∀ name, Settles realm.name permuted name) := by
  refine ⟨?_, ?_, ?_, ?_, ?_⟩
  · intro name
    rw [← becomes_iff_settles, sources_singleton]
    exact ⟨singleton_injective, congrArg NameSet.singleton⟩
  · intro names settled
    exact sources_of_settled settled
  · intro permuted order manager active who settled
    refine find_congr ?_
    rw [sources_of_settled fun name isName => (settled name isName).1,
      sources_of_settled fun name isName => (settled name isName).2, standsFor_perm distinct order]
  · intro manager active who settled question asked
    obtain ⟨name, isName, same⟩ := mem_sources.mp (consulted_mem asked)
    exact ⟨name, isName, (becomes_iff_settles.mpr (settled name isName)).symm.trans same⟩
  · intro apart permuted order name
    exact (apart.perm order).settles name

-- The users of one manager come by a realm that is called like the source of the other.
def corporate : Manager := ⟨"corporate", "Crowd", some "LdapRealm", false, [], []⟩

def guests : Manager := ⟨"guests", "External", some "Crowd", false, [], []⟩

def chained : Realm := { (default : Realm) with name := "authorizing" }

theorem chained_names_replaced :
    ([guests, corporate].filterMap (·.authRealm)).Nodup ∧
    sources chained.name [guests, corporate] (.singleton "LdapRealm") = .singleton "Crowd" ∧
    sources chained.name [corporate, guests] (.singleton "LdapRealm") ≠ .singleton "Crowd" ∧
    ∀ manager active, let who : Principals := ⟨"ann", .ofList ["Crowd", "authorizing"]⟩
      chained.find manager [corporate, guests] active (some who) =
        chained.find manager [guests, corporate] active (some who) := by
  have distinct : ([guests, corporate].filterMap (·.authRealm)).Nodup := by decide +kernel
  have order : [corporate, guests].Perm [guests, corporate] := .swap guests corporate []
  obtain ⟨each, _, permuted, _, _⟩ := names_replaced_at_once chained distinct
  obtain ⟨settled, _, _, _, _⟩ :=
    names_replaced_at_once chained ((order.filterMap _).nodup_iff.mpr distinct)
  refine ⟨distinct, (each "LdapRealm").mpr (by decide +kernel), ?_, ?_⟩
  · intro same
    have unsettled : ¬ Settles chained.name [corporate, guests] "LdapRealm" := by decide +kernel
    exact unsettled ((settled "LdapRealm").mp same)
  · intro manager active who
    refine permuted _ order manager active who fun name isName => ?_
    have each : ∀ name ∈ who.realms.names, Settles chained.name [guests, corporate] name ∧
        Settles chained.name [corporate, guests] name := by decide +kernel
    exact each name isName

end Realm
end RepositoryAccess
