import RepositoryAccess.Proofs.Guarding
import RepositoryAccess.Proofs.Upkeep

namespace RepositoryAccess.Permission

def Distinct (instances : List Shared) : Prop :=
  ∀ left ∈ instances, ∀ right ∈ instances, left.number = right.number → left = right

inductive Use
  | create (text : String)
  | clear
  | compare (held asked : Shared)

def Use.compared : Use → List Shared
  | compare held asked => [held, asked]
  | create _ | clear => []

-- A mint, and the wildcard forms that all instances have built, be they the mint's or others.
structure Workshop where
  mint : Mint
  views : Views

namespace Workshop

def new (highWater : Nat) : Workshop := ⟨.new highWater, .none⟩

def after (workshop : Workshop) : Use → Workshop
  | .create text => { workshop with mint := (workshop.mint.create text).2 }
  | .clear => { workshop with mint := workshop.mint.clear }
  | .compare held asked => { workshop with views := (workshop.views.implies held asked).2 }

def run (workshop : Workshop) (history : List Use) : Workshop := history.foldl after workshop

def gives (workshop : Workshop) : Use → List (String × Shared)
  | .create text => ((workshop.mint.create text).1.toOption.map (text, ·)).toList
  | .clear | .compare _ _ => []

def made (workshop : Workshop) : List Use → List (String × Shared)
  | [] => []
  | use :: history => workshop.gives use ++ (workshop.after use).made history

theorem run_concat (workshop : Workshop) (history : List Use) (use : Use) :
    workshop.run (history ++ [use]) = (workshop.run history).after use := List.foldl_append

theorem made_concat (workshop : Workshop) (history : List Use) (use : Use) :
    workshop.made (history ++ [use]) = workshop.made history ++ (workshop.run history).gives use := by
  induction history generalizing workshop with
  | nil => exact List.append_nil _
  | cons first history ih =>
    show workshop.gives first ++ (workshop.after first).made (history ++ [use]) = _
    rw [ih, ← List.append_assoc]
    rfl

end Workshop

namespace Mint

inductive Creates (mint : Mint) (text : String) : Except Malformed Shared → Mint → Prop
  | known {shared : Shared} : mint.cache.lookup text = some shared →
      Creates mint text (.ok shared) { mint with cache := (mint.cache.get text).2 }
  | malformed {malformed : Malformed} : mint.cache.lookup text = none → parse text = .error malformed →
      Creates mint text (.error malformed) { mint with cache := (mint.cache.get text).2 }
  | fresh {permission : Permission} : mint.cache.lookup text = none → parse text = .ok permission →
      Creates mint text (.ok ⟨mint.next, permission⟩)
        ⟨(mint.cache.get text).2.insert text ⟨mint.next, permission⟩, mint.next + 1⟩

theorem create_creates (mint : Mint) (text : String) :
    mint.Creates text (mint.create text).1 (mint.create text).2 := by
  have looked := Cache.Guarded.get_lookup mint.cache text
  cases got : mint.cache.get text with
  | mk found cache =>
    rw [got] at looked
    have cached : (mint.cache.get text).2 = cache := by rw [got]
    unfold create
    rw [got]
    cases found with
    | some shared =>
      have known := Creates.known looked.symm
      rw [cached] at known
      exact known
    | none =>
      cases read : parse text with
      | error malformed =>
        have unread := Creates.malformed looked.symm read
        rw [cached] at unread
        exact unread
      | ok permission =>
        have fresh := Creates.fresh looked.symm read
        rw [cached] at fresh
        exact fresh

end Mint

namespace Views
variable {views : Views} {instances : List Shared} {held asked shared : Shared}

def Right (views : Views) (instances : List Shared) : Prop :=
  ∀ entry ∈ views.built, ∃ text, ⟨entry.1, .constant text⟩ ∈ instances ∧ entry.2 = .ofPlain text

theorem find_right (distinct : Distinct instances) (right : views.Right instances) {number : Nat} {text : String}
    {form : Wildcard} (member : ⟨number, .constant text⟩ ∈ instances) (found : views.find number = some form) :
    form = .ofPlain text := by
  unfold find at found
  obtain ⟨entry, isEntry, rfl⟩ := Option.map_eq_some_iff.mp found
  have named : entry.1 = number := by simpa using List.find?_some isEntry
  obtain ⟨other, isInstance, built⟩ := right entry (List.mem_of_find?_eq_some isEntry)
  cases distinct _ isInstance _ member named
  exact built

theorem formOf_right (distinct : Distinct instances) (right : views.Right instances) (member : shared ∈ instances) :
    (views.formOf shared).1 = shared.permission.form ∧ (views.formOf shared).2.Right instances := by
  obtain ⟨number, permission⟩ := shared
  cases permission with
  | wildcard form => exact ⟨rfl, right⟩
  | constant text =>
    cases found : views.find number with
    | some form =>
      simp only [formOf, found]
      exact ⟨find_right distinct right member found, right⟩
    | none =>
      simp only [formOf, found]
      refine ⟨rfl, fun entry isEntry => ?_⟩
      rcases List.mem_cons.mp isEntry with rfl | old
      · exact ⟨text, member, rfl⟩
      · exact right entry old

theorem implies_right (distinct : Distinct instances) (right : views.Right instances) (isHeld : held ∈ instances)
    (isAsked : asked ∈ instances) : (views.implies held asked).1 = held.permission.implies asked.permission ∧
      (views.implies held asked).2.Right instances := by
  obtain ⟨heldForm, rightHeld⟩ := formOf_right distinct right isHeld
  obtain ⟨askedForm, rightAsked⟩ := formOf_right distinct rightHeld isAsked
  have forms : ((views.formOf held).1.implies ((views.formOf held).2.formOf asked).1) =
      held.permission.form.implies asked.permission.form := by rw [heldForm, askedForm]
  obtain ⟨heldNumber, heldPermission⟩ := held
  obtain ⟨askedNumber, askedPermission⟩ := asked
  cases heldPermission with
  | wildcard form => exact ⟨forms, rightAsked⟩
  | constant heldText =>
    cases askedPermission with
    | wildcard form => exact ⟨forms, rightAsked⟩
    | constant askedText =>
      refine ⟨?_, right⟩
      -- Two constants are compared by number first, and the same number means the same text.
      have same : heldNumber = askedNumber → heldText = askedText := fun same => by
        cases distinct _ isHeld _ isAsked same
        rfl
      simp only [implies, Permission.implies]
      grind

end Views

variable {text : String} {instances foreign : List Shared} {history : List Use}

-- What was made so far has numbers of its own and is what its texts say; and the mint remembers nothing else.
structure Keeps (made : List (String × Shared)) (mint : Mint) : Prop where
  remembered : ∀ entry ∈ mint.cache.entries, entry ∈ made
  parsed : ∀ pair ∈ made, parse pair.1 = .ok pair.2.permission
  numbered : ∀ pair ∈ made, pair.2.number < mint.next
  distinct : Distinct (made.map (·.2))

namespace Keeps
variable {made more : List (String × Shared)} {mint : Mint} {permission : Permission}

theorem get (keeps : Keeps made mint) (text : String) : Keeps made { mint with cache := (mint.cache.get text).2 } where
  remembered entry member := keeps.remembered entry (Cache.Guarded.get_entries mint.cache text ▸ member)
  parsed := keeps.parsed
  numbered := keeps.numbered
  distinct := keeps.distinct

theorem again (keeps : Keeps made mint) {pair : String × Shared} (old : pair ∈ made) :
    Keeps (made ++ [pair]) mint := by
  have within : ∀ other, other ∈ made ++ [pair] ↔ other ∈ made := fun other => by
    rw [List.mem_append, List.mem_singleton]
    exact ⟨fun member => member.elim id fun same => same ▸ old, .inl⟩
  have instances : ∀ shared, shared ∈ (made ++ [pair]).map (·.2) ↔ shared ∈ made.map (·.2) := by
    simp only [List.mem_map, within, implies_true]
  refine ⟨fun entry member => (within entry).mpr (keeps.remembered entry member),
    fun other member => keeps.parsed other ((within other).mp member),
    fun other member => keeps.numbered other ((within other).mp member), fun left isLeft right isRight => ?_⟩
  exact keeps.distinct left ((instances left).mp isLeft) right ((instances right).mp isRight)

theorem fresh (keeps : Keeps made mint) (parsed : parse text = .ok permission) :
    Keeps (made ++ [(text, ⟨mint.next, permission⟩)])
      ⟨mint.cache.insert text ⟨mint.next, permission⟩, mint.next + 1⟩ := by
  have numbers : ∀ shared ∈ made.map (·.2), shared.number < mint.next := List.forall_mem_map.mpr keeps.numbered
  refine ⟨fun entry member => ?_, fun pair member => ?_, fun pair member => ?_,
    fun left isLeft right isRight same => ?_⟩
  · rcases Cache.Guarded.mem_insert member with rfl | old
    · exact List.mem_concat_self ..
    · exact List.mem_append_left _ (keeps.remembered entry old)
  · rcases List.mem_append.mp member with old | new
    · exact keeps.parsed pair old
    · rw [List.mem_singleton.mp new]
      exact parsed
  · rcases List.mem_append.mp member with old | new
    · exact Nat.lt_succ_of_lt (keeps.numbered pair old)
    · rw [List.mem_singleton.mp new]
      exact Nat.lt_succ_self _
  · rw [List.map_append, List.mem_append, List.map_singleton, List.mem_singleton] at isLeft isRight
    rcases isLeft with oldLeft | rfl <;> rcases isRight with oldRight | rfl
    · exact keeps.distinct left oldLeft right oldRight same
    · exact absurd same (Nat.ne_of_lt (numbers left oldLeft))
    · exact absurd same.symm (Nat.ne_of_lt (numbers right oldRight))
    · rfl

end Keeps

theorem keeps_run (highWater : Nat) (history : List Use) :
    Keeps ((Workshop.new highWater).made history) ((Workshop.new highWater).run history).mint := by
  induction history using List.reverseRecOn with
  | nil => exact ⟨nofun, nofun, nofun, nofun⟩
  | append_singleton history use ih =>
    rw [Workshop.run_concat, Workshop.made_concat]
    cases use with
    | clear =>
      rw [Workshop.gives, List.append_nil]
      exact { ih with remembered := nofun }
    | compare held asked =>
      rw [Workshop.gives, List.append_nil]
      exact ih
    | create text =>
      have creates := Mint.create_creates ((Workshop.new highWater).run history).mint text
      unfold Workshop.gives Workshop.after
      dsimp only
      generalize (((Workshop.new highWater).run history).mint.create text).1 = result at creates ⊢
      generalize (((Workshop.new highWater).run history).mint.create text).2 = mint at creates ⊢
      cases creates with
      | known looked => exact (ih.get text).again (ih.remembered _ (Cache.Guarded.mem_of_lookup looked))
      | malformed => exact (List.append_nil _).symm ▸ ih.get text
      | fresh _ parsed => exact (ih.get text).fresh parsed

-- A text that is remembered is remembered on, unless the mint is cleared or empties itself.
structure Remembers (text : String) (shared : Shared) (before after : Mint) : Prop where
  resets : before.cache.tally.resets ≤ after.cache.tally.resets
  kept : after.cache.tally.resets = before.cache.tally.resets → before.cache.lookup text = some shared →
    after.cache.lookup text = some shared

variable {shared : Shared}

theorem create_remembers (mint : Mint) (asked : String) : Remembers text shared mint (mint.create asked).2 := by
  have same := (Cache.Guarded.get_same mint.cache asked).2.2
  have looked : Remembers text shared mint { mint with cache := (mint.cache.get asked).2 } :=
    ⟨Nat.le_of_eq same.symm, fun _ => (Cache.Guarded.get_keeps mint.cache asked text).trans⟩
  have creates := mint.create_creates asked
  generalize (mint.create asked).1 = result at creates
  generalize (mint.create asked).2 = after at creates ⊢
  cases creates with
  | known | malformed => exact looked
  | @fresh permission unknown _ =>
    refine ⟨Nat.le_trans looked.resets (Cache.Guarded.resets_le_insert _ _ _), fun kept stored => ?_⟩
    have different : text ≠ asked := fun same => by
      rw [same, unknown] at stored
      cases stored
    exact (Cache.Guarded.lookup_insert_kept (kept.trans same.symm) different).trans (looked.kept same stored)

theorem run_remembers (workshop : Workshop) {later : List Use} (uncleared : .clear ∉ later) :
    Remembers text shared workshop.mint (workshop.run later).mint := by
  induction later using List.reverseRecOn with
  | nil => exact ⟨Nat.le_refl _, fun _ stored => stored⟩
  | append_singleton later use ih =>
    rw [List.mem_append, not_or] at uncleared
    have early := ih uncleared.1
    have last : Remembers text shared (workshop.run later).mint ((workshop.run later).after use).mint := by
      cases use with
      | create asked => exact create_remembers _ asked
      | clear => exact absurd (List.mem_singleton_self _) uncleared.2
      | compare held asked => exact ⟨Nat.le_refl _, fun _ stored => stored⟩
    rw [Workshop.run_concat]
    refine ⟨Nat.le_trans early.resets last.resets, fun kept stored => ?_⟩
    have between := Nat.le_antisymm (Nat.le_trans last.resets (Nat.le_of_eq kept)) early.resets
    exact last.kept (kept.trans between.symm) (early.kept between stored)

theorem create_stores {mint : Mint} (made : (mint.create text).1 = .ok shared) :
    (mint.create text).2.cache.lookup text = some shared := by
  have creates := mint.create_creates text
  generalize (mint.create text).1 = result at made creates
  generalize (mint.create text).2 = after at creates ⊢
  cases creates with
  | malformed => cases made
  | known stored =>
    rw [← Except.ok.inj made]
    exact (Cache.Guarded.get_keeps mint.cache text text).trans stored
  | fresh =>
    rw [← Except.ok.inj made]
    exact Cache.Guarded.lookup_insert _ text _

theorem create_known {mint : Mint} (stored : mint.cache.lookup text = some shared) :
    (mint.create text).1 = .ok shared := by
  have creates := mint.create_creates text
  generalize (mint.create text).1 = result at creates ⊢
  generalize (mint.create text).2 = after at creates
  cases creates with
  | known found => rw [Option.some.inj (found.symm.trans stored)]
  | malformed unknown | fresh unknown => exact absurd (unknown.symm.trans stored) nofun

-- Instances that the mint did not make have numbers of their own as well.
structure Foreign (made : List (String × Shared)) (foreign : List Shared) : Prop where
  distinct : Distinct foreign
  apart : ∀ pair ∈ made, ∀ shared ∈ foreign, pair.2.number ≠ shared.number

theorem Foreign.all {made : List (String × Shared)} (others : Foreign made foreign)
    (distinct : Distinct (made.map (·.2))) : Distinct (made.map (·.2) ++ foreign) := by
  have apart : ∀ left ∈ made.map (·.2), ∀ right ∈ foreign, left.number ≠ right.number :=
    List.forall_mem_map.mpr others.apart
  intro left isLeft right isRight same
  rcases List.mem_append.mp isLeft with ownLeft | otherLeft <;>
    rcases List.mem_append.mp isRight with ownRight | otherRight
  · exact distinct left ownLeft right ownRight same
  · exact absurd same (apart left ownLeft right otherRight)
  · exact absurd same.symm (apart right ownRight left otherLeft)
  · exact others.distinct left otherLeft right otherRight same

theorem views_run (workshop : Workshop) (distinct : Distinct instances) (right : workshop.views.Right instances)
    (compared : ∀ use ∈ history, ∀ shared ∈ use.compared, shared ∈ instances) :
    (workshop.run history).views.Right instances := by
  induction history using List.reverseRecOn with
  | nil => exact right
  | append_singleton history use ih =>
    have early := ih fun use member => compared use (List.mem_append_left _ member)
    rw [Workshop.run_concat]
    cases use with
    | create | clear => exact early
    | compare held asked =>
      have among := compared (.compare held asked) (List.mem_concat_self ..)
      exact (Views.implies_right distinct early (among held List.mem_cons_self)
        (among asked (List.mem_cons_of_mem _ List.mem_cons_self))).2

theorem minted_as_parsed (highWater : Nat) (history : List Use) :
    let workshop := (Workshop.new highWater).run history
    let made := (Workshop.new highWater).made history
    (∀ text, (workshop.mint.create text).1.map (·.permission) = parse text) ∧
    (∀ text malformed, parse text = .error malformed → workshop.mint.cache.lookup text = none) ∧
    (∀ text shared later, (workshop.mint.create text).1 = .ok shared → .clear ∉ later →
      let again := (workshop.after (.create text)).run later
      again.mint.cache.tally.resets = (workshop.after (.create text)).mint.cache.tally.resets →
      (again.mint.create text).1 = .ok shared) ∧
    ∀ foreign, Foreign made foreign →
      (∀ use ∈ history, ∀ shared ∈ use.compared, shared ∈ made.map (·.2) ++ foreign) →
      ∀ text shared, (text, shared) ∈ made → ∃ permission, parse text = .ok permission ∧
        shared.permission = permission ∧ ∀ other ∈ made.map (·.2) ++ foreign,
          (workshop.views.implies shared other).1 = permission.implies other.permission ∧
          (workshop.views.implies other shared).1 = other.permission.implies permission ∧
          shared.permission.same other.permission = permission.same other.permission ∧
          other.permission.same shared.permission = other.permission.same permission := by
  intro workshop made
  have keeps := keeps_run highWater history
  have faithful : workshop.mint.Faithful := fun entry member => keeps.parsed entry (keeps.remembered entry member)
  refine ⟨Mint.create_reads faithful, ?_, ?_, ?_⟩
  · intro text malformed unreadable
    cases stored : workshop.mint.cache.lookup text with
    | none => rfl
    | some shared =>
      have parsed := faithful _ (Cache.Guarded.mem_of_lookup stored)
      cases unreadable.symm.trans parsed
  · intro text shared later given uncleared again unreset
    have remembers : Remembers text shared (workshop.after (.create text)).mint again.mint :=
      run_remembers _ uncleared
    exact create_known (remembers.kept unreset (create_stores given))
  · intro foreign others compared text shared isMade
    have distinct := others.all keeps.distinct
    have right : workshop.views.Right (made.map (·.2) ++ foreign) :=
      views_run (Workshop.new highWater) distinct (fun _ none => absurd none List.not_mem_nil) compared
    have among : shared ∈ made.map (·.2) ++ foreign :=
      List.mem_append_left _ (List.mem_map.mpr ⟨(text, shared), isMade, rfl⟩)
    refine ⟨shared.permission, keeps.parsed (text, shared) isMade, rfl, fun other isOther => ⟨?_, ?_, rfl, rfl⟩⟩
    · exact (Views.implies_right distinct right among isOther).1
    · exact (Views.implies_right distinct right isOther among).1

def starred : Shared := ⟨1, (parse "a:*").toOption.getD default⟩

def dealing : List Use :=
  [.create "a", .create "a:*", .compare starred ⟨0, .constant "a"⟩, .create " ", .clear, .create "a"]

theorem remade_constant_as_parsed :
    let workshop := (Workshop.new 1).run dealing
    let again := (workshop.after (.create "a")).run [.create "b", .create ",", .compare starred ⟨2, .constant "a"⟩]
    workshop.views.built.map (·.1) = [0] ∧
    (workshop.mint.create "a:b").1.map (·.permission) = parse "a:b" ∧
    workshop.mint.cache.lookup " " = none ∧
    (again.mint.create "a").1 = .ok ⟨2, .constant "a"⟩ ∧
    (workshop.views.implies ⟨2, .constant "a"⟩ starred).1 = (Permission.constant "a").implies starred.permission ∧
    (workshop.views.implies ⟨2, .constant "a"⟩ ⟨0, .constant "a"⟩).1 = true ∧
    (workshop.views.implies ⟨2, .constant "a"⟩ ⟨9, .constant "b"⟩).1 = false := by
  intro workshop again
  obtain ⟨parsed, unstored, shares, compares⟩ := minted_as_parsed 1 dealing
  have made : (Workshop.new 1).made dealing =
      [("a", ⟨0, .constant "a"⟩), ("a:*", starred), ("a", ⟨2, .constant "a"⟩)] := by decide
  have foreign : Foreign ((Workshop.new 1).made dealing) [⟨9, .constant "b"⟩] := by
    rw [made]
    exact ⟨by simp [Distinct], by decide⟩
  have compared : ∀ use ∈ dealing, ∀ shared ∈ use.compared,
      shared ∈ ((Workshop.new 1).made dealing).map (·.2) ++ [⟨9, .constant "b"⟩] := by
    rw [made]
    decide
  obtain ⟨permission, read, _, alike⟩ :=
    compares [⟨9, .constant "b"⟩] foreign compared "a" ⟨2, .constant "a"⟩ (by rw [made]; decide)
  have isConstant : parse "a" = .ok (.constant "a") := by decide
  obtain rfl : permission = .constant "a" := Except.ok.inj (read.symm.trans isConstant)
  rw [made] at alike
  refine ⟨by decide, parsed "a:b", unstored " " .blank (by decide), ?_, ?_, ?_, ?_⟩
  · exact shares "a" ⟨2, .constant "a"⟩ [.create "b", .create ",", .compare starred ⟨2, .constant "a"⟩]
      (by decide) (by simp) (by decide)
  · exact (alike starred (by decide)).1
  · exact (alike ⟨0, .constant "a"⟩ (by decide)).1
  · exact (alike ⟨9, .constant "b"⟩ (by decide)).1

end RepositoryAccess.Permission
