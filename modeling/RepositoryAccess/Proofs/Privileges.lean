import Mathlib.Data.List.Forall2
import RepositoryAccess.Directory.Descriptor
import RepositoryAccess.Proofs.Grammar
import RepositoryAccess.Proofs.Implication

namespace RepositoryAccess

namespace Text

def written (separator : Char) (names : List String) : String :=
  String.ofList (join separator (names.map String.toList))

theorem written_cons (separator : Char) (first next : String) (names : List String) :
    written separator (first :: next :: names) =
      first ++ String.singleton separator ++ written separator (next :: names) := by
  rw [← String.toList_inj]
  simp [written, join]

theorem written_concat (separator : Char) {names : List String} (nonempty : names ≠ []) (last : String) :
    written separator (names ++ [last]) = written separator names ++ String.singleton separator ++ last := by
  rw [← String.toList_inj]
  simp [written, join_concat separator (mt List.map_eq_nil_iff.mp nonempty)]

theorem written_singleton (separator : Char) (name : String) : written separator [name] = name := String.ofList_toList

end Text

namespace Permission
open RepositoryAccess.Text

-- A name that is read as it is written.
structure Whole (name : String) : Prop where
  filled : name ≠ ""
  colon : ':' ∉ name.toList
  comma : ',' ∉ name.toList
  tight : Tight name.toList

-- A name that stands for itself and nothing else.
structure Clean (name : String) : Prop extends Whole name where
  star : '*' ∉ name.toList

instance (name : String) : Decidable (Whole name) :=
  decidable_of_iff (name ≠ "" ∧ ':' ∉ name.toList ∧ ',' ∉ name.toList ∧ Tight name.toList)
    ⟨fun ⟨filled, colon, comma, tight⟩ => ⟨filled, colon, comma, tight⟩,
      fun whole => ⟨whole.filled, whole.colon, whole.comma, whole.tight⟩⟩

instance (name : String) : Decidable (Clean name) :=
  decidable_of_iff (Whole name ∧ '*' ∉ name.toList)
    ⟨fun ⟨whole, star⟩ => ⟨whole, star⟩, fun clean => ⟨clean.toWhole, clean.star⟩⟩

def Allows (part : List String) (name : String) : Prop := anything ∈ part ∨ name ∈ part

-- The parts of a text, as lists of names.
structure Legible (parts : List (List String)) : Prop where
  nonempty : parts ≠ []
  listed : ∀ part ∈ parts, part ≠ []
  whole : ∀ part ∈ parts, ∀ name ∈ part, Whole name

def writtenParts (parts : List (List String)) : String := written ':' (parts.map (written ','))

variable {name : String} {names part : List String} {parts : List (List String)} {p q : Permission}

theorem whole_anything : Whole anything := by decide

theorem Clean.not_anything (clean : Clean name) : name ≠ anything := by
  rintro rfl
  exact clean.star List.mem_cons_self

theorem allows_clean (clean : ∀ name ∈ part, Clean name) : Allows part name ↔ name ∈ part :=
  or_iff_right fun any => (clean anything any).not_anything rfl

theorem Legible.singles (nonempty : names ≠ []) (clean : ∀ name ∈ names, Clean name) :
    Legible (names.map ([·])) where
  nonempty := mt List.map_eq_nil_iff.mp nonempty
  listed := List.forall_mem_map.mpr fun _ _ => List.cons_ne_nil _ _
  whole := List.forall_mem_map.mpr fun name member _ same =>
    List.mem_singleton.mp same ▸ (clean name member).toWhole

theorem writtenParts_singles (names : List String) : writtenParts (names.map ([·])) = written ':' names := by
  have same : names.map (written ',' ∘ ([·])) = names :=
    (List.map_congr_left fun name _ => written_singleton ',' name).trans (List.map_id' names)
  rw [writtenParts, List.map_map, same]

theorem writtenParts_eq (parts : List (List String)) : writtenParts parts =
    String.ofList (join ':' (parts.map fun part => join ',' (part.map String.toList))) := by
  simp only [writtenParts, written, List.map_map, Function.comp_def, String.toList_ofList]

theorem parse_written (legible : Legible parts) :
    Wildcard.parse (writtenParts parts) = .ok ⟨writtenParts parts, parts.map NameSet.ofList⟩ := by
  rw [writtenParts_eq]
  refine Wildcard.parse_join ?_ ?_ ?_ ?_
  · rw [List.forall_mem_map]
    intro part isPart colon
    rcases mem_join colon with same | ⟨chars, isName, inner⟩
    · cases same
    · obtain ⟨name, member, rfl⟩ := List.mem_map.mp isName
      exact (legible.whole part isPart name member).colon inner
  · rw [List.forall_mem_map]
    intro part isPart
    apply join_tight comma_visible
    rw [List.forall_mem_map]
    exact fun name member => (legible.whole part isPart name member).tight
  · obtain ⟨part, isPart⟩ := List.exists_mem_of_ne_nil _ legible.nonempty
    obtain ⟨name, member⟩ := List.exists_mem_of_ne_nil _ (legible.listed part isPart)
    have filled : name.toList ≠ [] := mt String.toList_eq_nil_iff.mp (legible.whole part isPart name member).filled
    obtain ⟨c, inner⟩ := List.exists_mem_of_ne_nil _ filled
    have here : c ∈ join ',' (part.map String.toList) := mem_join_of_mem (List.mem_map_of_mem member) inner
    exact List.ne_nil_of_mem (mem_join_of_mem (List.mem_map_of_mem isPart) here)
  · refine readParts_map _ _ ?_
    intro part isPart
    have whole := legible.whole part isPart
    exact readPart_join (fun name member => (whole name member).comma) (fun name member => (whole name member).tight)
      (fun empty => (whole "" empty).filled rfl) (legible.listed part isPart)

theorem partsImply_listed (same : parts.length = names.length) :
    partsImply (parts.map NameSet.ofList) (names.map NameSet.singleton) = true ↔ List.Forall₂ Allows parts names := by
  induction parts generalizing names with
  | nil =>
    rw [List.length_eq_zero_iff.mp same.symm]
    exact iff_of_true rfl .nil
  | cons part parts ih =>
    cases names with
    | nil => cases same
    | cons name names =>
      rw [List.map_cons, List.map_cons, partsImply, Bool.and_eq_true, List.forall₂_cons, ih (Nat.succ.inj same),
        covers_iff]
      simp only [Allows, NameSet.mem_ofList, NameSet.mem_singleton, forall_eq]

theorem written_allowed (starless : '*' ∉ (written ',' part).toList) (commaless : ',' ∉ (written ',' part).toList)
    (allows : Allows part name) : written ',' part = name := by
  unfold written at starless commaless
  rw [String.toList_ofList] at starless commaless
  have member : name ∈ part := by
    refine allows.resolve_left fun any => starless ?_
    exact mem_join_of_mem (List.mem_map_of_mem any) List.mem_cons_self
  cases part with
  | nil => cases member
  | cons first part =>
    cases part with
    | nil =>
      rw [List.mem_singleton.mp member]
      exact written_singleton ',' first
    | cons second part =>
      refine absurd ?_ commaless
      exact List.mem_append_right _ List.mem_cons_self

theorem written_plain (plain : isWildcardText (writtenParts parts) = false) (allows : List.Forall₂ Allows parts names) :
    parts.map (written ',') = names := by
  have free : ∀ part ∈ parts, '*' ∉ (written ',' part).toList ∧ ',' ∉ (written ',' part).toList := by
    obtain ⟨starless, commaless⟩ := isWildcardText_eq_false.mp plain
    unfold writtenParts at starless commaless
    rw [written, String.toList_ofList] at starless commaless
    intro part isPart
    have within : (written ',' part).toList ∈ (parts.map (written ',')).map String.toList :=
      List.mem_map_of_mem (List.mem_map_of_mem isPart)
    exact ⟨fun star => starless (mem_join_of_mem within star), fun comma => commaless (mem_join_of_mem within comma)⟩
  clear plain
  induction allows with
  | nil => rfl
  | cons first _ ih =>
    obtain ⟨starless, commaless⟩ := free _ List.mem_cons_self
    rw [List.map_cons, written_allowed starless commaless first,
      ih fun part later => free part (List.mem_cons_of_mem _ later)]

-- A permission with listed names grants a request of single names part by part.  When both are constants, they are
-- the same text exactly if this is so.
theorem implies_written (legible : Legible parts) (clean : ∀ name ∈ names, Clean name)
    (same : parts.length = names.length) (parsedHeld : parse (writtenParts parts) = .ok p)
    (parsedAsked : parse (written ':' names) = .ok q) :
    p.implies q = true ↔ List.Forall₂ Allows parts names := by
  have nonempty : names ≠ [] := fun none_ =>
    legible.nonempty (List.length_eq_zero_iff.mp (same.trans (List.length_eq_zero_iff.mpr none_)))
  have readAsked := parse_written (Legible.singles nonempty clean)
  rw [writtenParts_singles, List.map_map] at readAsked
  have forms : p.form.implies q.form = true ↔ List.Forall₂ Allows parts names := by
    rw [form_eq parsedHeld (parse_written legible), form_eq parsedAsked readAsked]
    exact partsImply_listed same
  rw [implies_iff_form, forms]
  refine ⟨And.left, fun allows => ⟨allows, fun ⟨held, asked, apart⟩ => apart ?_⟩⟩
  obtain ⟨rfl, plain⟩ := constant_of_parse parsedHeld held
  obtain ⟨rfl, _⟩ := constant_of_parse parsedAsked asked
  rw [writtenParts, written_plain plain allows]

theorem parse_legible (legible : Legible parts) : ∃ p, parse (writtenParts parts) = .ok p := by
  have read := parse_written legible
  exact parse_iff_admissible.mpr ⟨(Wildcard.parse_parts read).1, .inr ⟨_, read⟩⟩

theorem parse_clean (nonempty : names ≠ []) (clean : ∀ name ∈ names, Clean name) :
    ∃ q, parse (written ':' names) = .ok q := by
  rw [← writtenParts_singles]
  exact parse_legible (Legible.singles nonempty clean)

end Permission

namespace Directory
open RepositoryAccess.Text RepositoryAccess.Permission

def Privilege.Lacks (privilege : Privilege) (key : String) : Prop :=
  ∀ id, privilege.property key = some id → id = ""

-- The repositories that a target privilege is about: the one it names, or else those of the group it names, or else
-- all of them.
inductive Privilege.Concerns (privilege : Privilege) : String → Prop
  | repository {id : String} : privilege.property "repositoryId" = some id → id ≠ "" → privilege.Concerns id
  | group {id : String} : privilege.Lacks "repositoryId" → privilege.property "repositoryGroupId" = some id →
      id ≠ "" → privilege.Concerns id
  | every {id : String} : privilege.Lacks "repositoryId" → privilege.Lacks "repositoryGroupId" →
      privilege.Concerns id

structure Privilege.Permits (privilege : Privilege) (methods : List String) : Prop where
  listed : privilege.property "method" = some (written ',' methods)
  nonempty : methods ≠ []
  clean : ∀ method ∈ methods, Clean method

structure Privilege.OnTarget (privilege : Privilege) (target : String) (methods : List String) : Prop
    extends privilege.Permits methods where
  named : privilege.property "repositoryTargetId" = some target
  target : Clean target
  repository : ∀ id, privilege.property "repositoryId" = some id → id = "" ∨ Clean id
  group : ∀ id, privilege.property "repositoryGroupId" = some id → id = "" ∨ Clean id

structure Privilege.OnNames (privilege : Privilege) (names methods : List String) : Prop
    extends privilege.Permits methods where
  named : privilege.property "permission" = some (written ':' names)
  filled : names ≠ []
  names : ∀ name ∈ names, Clean name

variable {privilege : Privilege} {target : String} {names methods : List String}

theorem Privilege.lacks_or_names (privilege : Privilege) (key : String) :
    privilege.Lacks key ∨ ∃ id, privilege.property key = some id ∧ id ≠ "" := by
  unfold Privilege.Lacks
  grind

theorem repositoryOf_named {id : String} (named : privilege.property "repositoryId" = some id) (filled : id ≠ "") :
    Descriptor.repositoryOf privilege = id := by
  simp [Descriptor.repositoryOf, named, filled]

theorem repositoryOf_lacks (lacks : privilege.Lacks "repositoryId") : Descriptor.repositoryOf privilege =
    (([privilege.property "repositoryGroupId"].filterMap id).find? (· ≠ "")).getD "*" := by
  cases named : privilege.property "repositoryId" with
  | none => simp [Descriptor.repositoryOf, named]
  | some id => simp [Descriptor.repositoryOf, named, lacks id named]

theorem repositoryOf_group {id : String} (lacks : privilege.Lacks "repositoryId")
    (named : privilege.property "repositoryGroupId" = some id) (filled : id ≠ "") :
    Descriptor.repositoryOf privilege = id := by
  simp [repositoryOf_lacks lacks, named, filled]

theorem repositoryOf_every (lacks : privilege.Lacks "repositoryId") (ungrouped : privilege.Lacks "repositoryGroupId") :
    Descriptor.repositoryOf privilege = anything := by
  rw [repositoryOf_lacks lacks]
  cases named : privilege.property "repositoryGroupId" with
  | none => rfl
  | some id => rw [ungrouped id named]; rfl

-- The part for the repository is a name, and the privilege is about that repository alone, or it is `*`, and the
-- privilege is about all of them.
theorem repositoryOf_cases (named : ∀ id, privilege.property "repositoryId" = some id → id = "" ∨ Clean id)
    (grouped : ∀ id, privilege.property "repositoryGroupId" = some id → id = "" ∨ Clean id) :
    Clean (Descriptor.repositoryOf privilege) ∧
        (∀ id, privilege.Concerns id ↔ id = Descriptor.repositoryOf privilege) ∨
      Descriptor.repositoryOf privilege = anything ∧ ∀ id, privilege.Concerns id := by
  rcases privilege.lacks_or_names "repositoryId" with lacks | ⟨own, isOwn, filled⟩
  · rcases privilege.lacks_or_names "repositoryGroupId" with ungrouped | ⟨own, isOwn, filled⟩
    · exact .inr ⟨repositoryOf_every lacks ungrouped, fun _ => .every lacks ungrouped⟩
    · rw [repositoryOf_group lacks isOwn filled]
      refine .inl ⟨(grouped own isOwn).resolve_left filled, fun id => ⟨fun concerns => ?_, ?_⟩⟩
      · cases concerns with
        | repository isNamed visible => exact absurd (lacks _ isNamed) visible
        | group _ isGroup _ => exact Option.some.inj (isGroup.symm.trans isOwn)
        | every _ ungrouped => exact absurd (ungrouped own isOwn) filled
      · rintro rfl
        exact .group lacks isOwn filled
  · rw [repositoryOf_named isOwn filled]
    refine .inl ⟨(named own isOwn).resolve_left filled, fun id => ⟨fun concerns => ?_, ?_⟩⟩
    · cases concerns with
      | repository isNamed _ => exact Option.some.inj (isNamed.symm.trans isOwn)
      | group lacks | every lacks => exact absurd (lacks own isOwn) filled
    · rintro rfl
      exact .repository isOwn filled

namespace Privilege
variable {t r m last : String} {leading : List String}

def targetParts (privilege : Privilege) (target : String) (methods : List String) : List (List String) :=
  [["nexus"], ["target"], [target], [Descriptor.repositoryOf privilege], methods]

theorem OnTarget.grant (on : privilege.OnTarget target methods) :
    Descriptor.target.grant privilege = some (writtenParts (privilege.targetParts target methods)) := by
  show Descriptor.targetGrant privilege = _
  simp only [Descriptor.targetGrant, on.named, on.listed, targetParts, writtenParts, List.map_cons, List.map_nil,
    written_singleton, written_cons]
  simp [← String.toList_inj]

theorem OnTarget.repository_allows (on : privilege.OnTarget target methods) :
    Allows [Descriptor.repositoryOf privilege] r ↔ privilege.Concerns r := by
  rcases repositoryOf_cases on.repository on.group with ⟨clean, concerns⟩ | ⟨every, concerns⟩
  · rw [concerns, allows_clean (List.forall_mem_singleton.mpr clean), List.mem_singleton]
  · exact iff_of_true (.inl (every ▸ List.mem_singleton_self _)) (concerns r)

theorem OnTarget.legible (on : privilege.OnTarget target methods) :
    Legible (privilege.targetParts target methods) where
  nonempty := List.cons_ne_nil _ _
  listed := by simp [targetParts, on.nonempty]
  whole := by
    have repository : Whole (Descriptor.repositoryOf privilege) := by
      rcases repositoryOf_cases on.repository on.group with ⟨clean, _⟩ | ⟨every, _⟩
      · exact clean.toWhole
      · exact every ▸ whole_anything
    simp only [targetParts, List.forall_mem_cons]
    exact ⟨⟨by decide, nofun⟩, ⟨by decide, nofun⟩, ⟨on.target.toWhole, nofun⟩, ⟨repository, nofun⟩,
      fun method member => (on.clean method member).toWhole, nofun⟩

theorem OnTarget.allows (on : privilege.OnTarget target methods) :
    List.Forall₂ Allows (privilege.targetParts target methods) ["nexus", "target", t, r, m] ↔
      t = target ∧ m ∈ methods ∧ privilege.Concerns r := by
  have own : Allows [target] t ↔ t = target := by
    rw [allows_clean (List.forall_mem_singleton.mpr on.target), List.mem_singleton]
  simp only [targetParts, List.forall₂_cons, List.forall₂_nil_left_iff, own, on.repository_allows, allows_clean on.clean]
  have fixed : ∀ name, Allows [name] name := fun name => .inr (List.mem_singleton_self name)
  simp only [fixed, true_and, and_true, and_comm (a := privilege.Concerns r)]

theorem OnNames.grant (on : privilege.OnNames names methods) :
    Descriptor.method.grant privilege = some (writtenParts (names.map ([·]) ++ [methods])) := by
  have nonempty : (names.map ([·])).map (written ',') ≠ [] := by simpa using on.filled
  have front : written ':' ((names.map ([·])).map (written ',')) = written ':' names := writtenParts_singles names
  show Descriptor.methodGrant privilege = _
  rw [writtenParts, List.map_append, List.map_singleton, written_concat ':' nonempty, front]
  simp only [Descriptor.methodGrant, on.named, on.listed]
  rfl

theorem OnNames.legible (on : privilege.OnNames names methods) : Legible (names.map ([·]) ++ [methods]) := by
  have front := Legible.singles on.filled on.names
  refine ⟨by simp, ?_, ?_⟩
  · exact List.forall_mem_append.mpr ⟨front.listed, List.forall_mem_singleton.mpr on.nonempty⟩
  · refine List.forall_mem_append.mpr ⟨front.whole, List.forall_mem_singleton.mpr fun method member => ?_⟩
    exact (on.clean method member).toWhole

theorem OnNames.allows (on : privilege.OnNames names methods) (same : leading.length = names.length) :
    List.Forall₂ Allows (names.map ([·]) ++ [methods]) (leading ++ [last]) ↔ leading = names ∧ last ∈ methods := by
  have clean := on.names
  have ending : Allows methods last ↔ last ∈ methods := allows_clean on.clean
  clear on
  induction names generalizing leading with
  | nil =>
    rw [List.length_eq_zero_iff.mp same]
    simp [ending]
  | cons name names ih =>
    cases leading with
    | nil => cases same
    | cons first leading =>
      obtain ⟨own, others⟩ := List.forall_mem_cons.mp clean
      have front : Allows [name] first ↔ first = name := by
        rw [allows_clean (List.forall_mem_singleton.mpr own), List.mem_singleton]
      rw [List.map_cons, List.cons_append, List.cons_append, List.forall₂_cons, front, List.cons.injEq, and_assoc]
      exact and_congr_right fun _ => ih (Nat.succ.inj same) others

end Privilege

-- A target privilege grants the methods that it lists on its own target and in the repositories that it is about,
-- and a method privilege those on the names of its permission; of the requests that have as many parts they grant
-- no others.
theorem privileges_grant_what_they_name (privilege : Privilege) :
    (∀ target methods, privilege.OnTarget target methods →
      ∃ text held, Descriptor.target.grant privilege = some text ∧ Permission.parse text = .ok held ∧
        ∀ t r m, Clean t → Clean r → Clean m →
          ∃ asked, Permission.parse ("nexus:target:" ++ t ++ ":" ++ r ++ ":" ++ m) = .ok asked ∧
            (held.implies asked = true ↔ t = target ∧ m ∈ methods ∧ privilege.Concerns r)) ∧
    ∀ names methods, privilege.OnNames names methods →
      ∃ text held, Descriptor.method.grant privilege = some text ∧ Permission.parse text = .ok held ∧
        ∀ leading last, leading.length = names.length → (∀ name ∈ leading, Clean name) → Clean last →
          ∃ asked, Permission.parse (written ':' (leading ++ [last])) = .ok asked ∧
            (held.implies asked = true ↔ leading = names ∧ last ∈ methods) := by
  constructor
  · intro target methods on
    obtain ⟨held, parsed⟩ := parse_legible on.legible
    refine ⟨_, held, on.grant, parsed, fun t r m cleanT cleanR cleanM => ?_⟩
    have clean : ∀ name ∈ ["nexus", "target", t, r, m], Clean name := by
      simp only [List.forall_mem_cons]
      exact ⟨by decide, by decide, cleanT, cleanR, cleanM, nofun⟩
    have spelled : written ':' ["nexus", "target", t, r, m] = "nexus:target:" ++ t ++ ":" ++ r ++ ":" ++ m := by
      simp only [written_cons, written_singleton]
      simp [← String.toList_inj]
    obtain ⟨asked, isAsked⟩ := parse_clean (List.cons_ne_nil _ _) clean
    refine ⟨asked, spelled ▸ isAsked, ?_⟩
    rw [implies_written on.legible clean rfl parsed isAsked, on.allows]
  · intro names methods on
    obtain ⟨held, parsed⟩ := parse_legible on.legible
    refine ⟨_, held, on.grant, parsed, fun leading last same cleanLeading cleanLast => ?_⟩
    have clean : ∀ name ∈ leading ++ [last], Clean name :=
      List.forall_mem_append.mpr ⟨cleanLeading, List.forall_mem_singleton.mpr cleanLast⟩
    obtain ⟨asked, isAsked⟩ := parse_clean (List.concat_ne_nil last leading) clean
    refine ⟨asked, isAsked, ?_⟩
    rw [implies_written on.legible clean (by simp [same]) parsed isAsked, on.allows same]

-- One privilege comes to be a constant, for the repositories of a group as its repository is empty, and the other a
-- wildcard permission.
theorem group_and_methods_granted :
    let release := Privilege.new "release" "target" [("repositoryTargetId", "releases"), ("method", "read"),
      ("repositoryId", ""), ("repositoryGroupId", "public group")]
    let browse := Privilege.new "browse" "method" [("permission", "nexus:repositories"), ("method", "read,update")]
    release.OnTarget "releases" ["read"] ∧ browse.OnNames ["nexus", "repositories"] ["read", "update"] ∧
    (∃ held own other, Permission.parse "nexus:target:releases:public group:read" = .ok held ∧
      Permission.parse "nexus:target:releases:public group:read" = .ok own ∧ held.implies own = true ∧
      Permission.parse "nexus:target:releases:central:read" = .ok other ∧ held.implies other = false) ∧
    ∃ held own other, Permission.parse "nexus:repositories:read,update" = .ok held ∧
      Permission.parse "nexus:repositories:update" = .ok own ∧ held.implies own = true ∧
      Permission.parse "nexus:repositories:delete" = .ok other ∧ held.implies other = false := by
  intro release browse
  have repository : ∀ id, release.property "repositoryId" = some id → id = "" ∨ Clean id :=
    fun id isNamed => .inl (Option.some.inj isNamed).symm
  have group : ∀ id, release.property "repositoryGroupId" = some id → id = "" ∨ Clean id :=
    fun id isNamed => .inr (Option.some.inj isNamed ▸ by decide)
  have onTarget : release.OnTarget "releases" ["read"] :=
    ⟨⟨by decide, by decide, by decide⟩, by decide, by decide, repository, group⟩
  have onNames : browse.OnNames ["nexus", "repositories"] ["read", "update"] :=
    ⟨⟨by decide, by decide, by decide⟩, by decide, by decide, by decide⟩
  refine ⟨onTarget, onNames, ?_, ?_⟩
  · obtain ⟨text, held, granted, parsed, grants⟩ := (privileges_grant_what_they_name release).1 _ _ onTarget
    obtain rfl : "nexus:target:releases:public group:read" = text := Option.some.inj granted
    obtain ⟨own, isOwn, allowed⟩ := grants "releases" "public group" "read" (by decide) (by decide) (by decide)
    obtain ⟨other, isOther, refused⟩ := grants "releases" "central" "read" (by decide) (by decide) (by decide)
    have lacks : release.Lacks "repositoryId" := fun id isNamed => (Option.some.inj isNamed).symm
    refine ⟨held, own, other, parsed, isOwn, allowed.mpr ⟨rfl, by decide, .group lacks rfl (by decide)⟩, isOther, ?_⟩
    rw [Bool.eq_false_iff, Ne, refused]
    rintro ⟨_, _, concerns⟩
    cases concerns with
    | repository isNamed filled => exact filled (lacks _ isNamed)
    | group _ isGroup _ => exact absurd (Option.some.inj isGroup) (by decide)
    | every _ ungrouped => exact absurd (ungrouped "public group" rfl) (by decide)
  · obtain ⟨text, held, granted, parsed, grants⟩ := (privileges_grant_what_they_name browse).2 _ _ onNames
    obtain rfl : "nexus:repositories:read,update" = text := Option.some.inj granted
    obtain ⟨own, isOwn, allowed⟩ := grants ["nexus", "repositories"] "update" rfl (by decide) (by decide)
    obtain ⟨other, isOther, refused⟩ := grants ["nexus", "repositories"] "delete" rfl (by decide) (by decide)
    refine ⟨held, own, other, parsed, isOwn, allowed.mpr ⟨rfl, by decide⟩, isOther, ?_⟩
    rw [Bool.eq_false_iff, Ne, refused]
    decide

end Directory
end RepositoryAccess
