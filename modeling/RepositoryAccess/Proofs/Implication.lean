import Mathlib.Data.Fintype.EquivFin
import RepositoryAccess.Proofs.Constants
import RepositoryAccess.Proofs.Holdings

namespace RepositoryAccess.Permission
open RepositoryAccess.Text

-- A request has a value for every part that a permission may have.
abbrev Request := Nat → String

def Granted (parts : List NameSet) (request : Request) : Prop :=
  ∀ i part, parts[i]? = some part → anything ∈ part ∨ request i ∈ part

def Wildcard.Grants (form : Wildcard) (request : Request) : Prop := Granted form.parts request

-- The wildcard permissions that there are: those read from texts, and the forms of constants.
inductive Wildcard.Made : Wildcard → Prop
  | parsed {text : String} {form : Wildcard} : Wildcard.parse text = .ok form → Made form
  | plain (text : String) : Made (.ofPlain text)

variable {parts owns others : List NameSet} {own other part : NameSet} {request : Request}

def Request.after (name : String) (rest : Request) : Request
  | 0 => name
  | i + 1 => rest i

theorem granted_nil : Granted [] request := fun _ _ held => by cases held

theorem granted_cons : Granted (part :: parts) request ↔
    (anything ∈ part ∨ request 0 ∈ part) ∧ Granted parts fun i => request (i + 1) := by
  constructor
  · intro granted
    exact ⟨granted 0 part rfl, fun i other held => granted (i + 1) other held⟩
  · rintro ⟨first, rest⟩ i other held
    cases i with
    | zero => cases held; exact first
    | succ i => exact rest i other held

theorem exists_granted (filled : ∀ part ∈ parts, ∃ name, name ∈ part) :
    ∃ request, Granted parts request := by
  induction parts with
  | nil => exact ⟨fun _ => "", granted_nil⟩
  | cons part parts ih =>
    obtain ⟨name, member⟩ := filled part List.mem_cons_self
    obtain ⟨rest, granted⟩ := ih fun part later => filled part (List.mem_cons_of_mem _ later)
    exact ⟨rest.after name, granted_cons.mpr ⟨.inr member, granted⟩⟩

-- Some value is none of the alternatives of a part, so only `*` grants every value there.
theorem granted_any_iff : (∀ request, Granted parts request) ↔ ∀ part ∈ parts, anything ∈ part := by
  constructor
  · intro granted part member
    obtain ⟨i, held⟩ := List.mem_iff_getElem?.mp member
    obtain ⟨name, strange⟩ := Infinite.exists_notMem_finset part.names.toFinset
    rcases granted (fun _ => name) i part held with all | one
    · exact all
    · exact absurd (List.mem_toFinset.mpr one) strange
  · intro all request i part held
    exact .inl (all part (List.mem_of_getElem? held))

theorem covers_iff : covers own other = true ↔ anything ∈ own ∨ ∀ name, name ∈ other → name ∈ own := by
  unfold covers
  rw [Bool.or_eq_true, decide_eq_true_iff, NameSet.subset_iff]

theorem partsImply_nil : partsImply owns [] = true ↔ ∀ part ∈ owns, anything ∈ part := by
  cases owns <;> simp [partsImply]

-- Induction on both lists of parts, as they are compared.  A part without alternatives would be covered
-- without being granted anything, so that the parts of the other side have to be filled.
theorem partsImply_iff (filled : ∀ part ∈ others, ∃ name, name ∈ part) :
    partsImply owns others = true ↔ ∀ request, Granted others request → Granted owns request := by
  induction owns generalizing others with
  | nil => simp only [partsImply, granted_nil, implies_true]
  | cons own owns ih =>
    cases others with
    | nil =>
      rw [partsImply_nil, ← granted_any_iff]
      simp only [granted_nil, forall_const]
    | cons other others =>
      obtain ⟨name, member⟩ := filled other List.mem_cons_self
      have filledRest : ∀ part ∈ others, ∃ name, name ∈ part :=
        fun part later => filled part (List.mem_cons_of_mem _ later)
      rw [partsImply, Bool.and_eq_true, ih filledRest, covers_iff]
      constructor
      · rintro ⟨first, rest⟩ request granted
        obtain ⟨here, there⟩ := granted_cons.mp granted
        refine granted_cons.mpr ⟨?_, rest _ there⟩
        rcases first with all | each
        · exact .inl all
        · rcases here with every | one
          · exact .inl (each anything every)
          · exact .inr (each _ one)
      · intro contained
        refine ⟨?_, ?_⟩
        · by_cases all : anything ∈ own
          · exact .inl all
          · refine .inr fun asked isAsked => ?_
            obtain ⟨rest, granted⟩ := exists_granted filledRest
            have told := contained (rest.after asked) (granted_cons.mpr ⟨.inr isAsked, granted⟩)
            exact (granted_cons.mp told).1.resolve_left all
        · intro rest granted
          have told := contained (rest.after name) (granted_cons.mpr ⟨.inr member, granted⟩)
          exact (granted_cons.mp told).2

theorem covers_refl (part : NameSet) : covers part part = true := covers_iff.mpr (.inr fun _ h => h)

theorem covers_trans {third : NameSet} (first : covers own other = true)
    (second : covers other third = true) : covers own third = true := by
  rw [covers_iff] at *
  rcases first with all | each
  · exact .inl all
  · rcases second with every | one
    · exact .inl (each anything every)
    · exact .inr fun name member => each name (one name member)

theorem partsImply_refl (parts : List NameSet) : partsImply parts parts = true := by
  induction parts with
  | nil => rfl
  | cons part parts ih => rw [partsImply, covers_refl, ih]; rfl

theorem partsImply_any (all : ∀ part ∈ owns, anything ∈ part) : partsImply owns others = true := by
  induction owns generalizing others with
  | nil => rfl
  | cons own owns ih =>
    cases others with
    | nil => exact partsImply_nil.mpr all
    | cons other others =>
      obtain ⟨first, rest⟩ := List.forall_mem_cons.mp all
      rw [partsImply, covers_iff.mpr (.inl first), ih rest]
      rfl

theorem partsImply_trans {thirds : List NameSet} (first : partsImply owns others = true)
    (second : partsImply others thirds = true) : partsImply owns thirds = true := by
  induction owns generalizing others thirds with
  | nil => rfl
  | cons own owns ih =>
    cases others with
    | nil => exact partsImply_any (partsImply_nil.mp first)
    | cons other others =>
      rw [partsImply, Bool.and_eq_true] at first
      cases thirds with
      | nil =>
        obtain ⟨here, there⟩ := List.forall_mem_cons.mp (partsImply_nil.mp second)
        have rest := partsImply_nil.mp (ih first.2 (partsImply_nil.mpr there))
        refine partsImply_nil.mpr (List.forall_mem_cons.mpr ⟨?_, rest⟩)
        rcases covers_iff.mp first.1 with all | each
        · exact all
        · exact each anything here
      | cons third thirds =>
        rw [partsImply, Bool.and_eq_true] at second ⊢
        exact ⟨covers_trans first.1 second.1, ih first.2 second.2⟩

theorem readPart_filled {piece : List Char} (read : readPart piece = some part) :
    ∃ name, name ∈ part := by
  unfold readPart at read
  split at read
  · split at read
    · cases read
    · cases read
      exact ⟨_, (NameSet.mem_singleton _ _).mpr rfl⟩
  · rename_i found nonempty
    cases read
    obtain ⟨name, member⟩ := List.exists_mem_of_ne_nil _ nonempty
    exact ⟨name, (NameSet.mem_ofList _ _).mpr member⟩

theorem mem_readParts {pieces : List (List Char)} (read : pieces.mapM readPart = some parts)
    (member : part ∈ parts) : ∃ piece ∈ pieces, readPart piece = some part := by
  induction pieces generalizing parts with
  | nil =>
    cases read
    cases member
  | cons piece pieces ih =>
    rw [List.mapM_cons] at read
    obtain ⟨first, isFirst, rest⟩ := Option.bind_eq_some_iff.mp read
    obtain ⟨others, areOthers, same⟩ := Option.bind_eq_some_iff.mp rest
    cases same
    rcases List.mem_cons.mp member with rfl | later
    · exact ⟨piece, List.mem_cons_self, isFirst⟩
    · obtain ⟨source, isSource, held⟩ := ih areOthers later
      exact ⟨source, List.mem_cons_of_mem _ isSource, held⟩

namespace Wildcard

variable {p q r : Wildcard}

theorem Made.filled (made : p.Made) : ∀ part ∈ p.parts, ∃ name, name ∈ part := by
  cases made with
  | parsed read =>
    rename_i text
    unfold Wildcard.parse at read
    dsimp only at read
    split at read
    · cases read
    · split at read
      · cases read
      · rename_i parts readParts
        cases read
        intro part member
        obtain ⟨piece, _, held⟩ := mem_readParts readParts member
        exact readPart_filled held
  | plain text =>
    rw [parts_ofPlain]
    intro part member
    obtain ⟨field, _, rfl⟩ := List.mem_map.mp member
    exact ⟨field, (NameSet.mem_singleton _ _).mpr rfl⟩

-- Implication is containment of what is granted, and therefore an order but for the spelling.
theorem implies_iff_grants (made : q.Made) :
    (p.implies q = true ↔ ∀ request, q.Grants request → p.Grants request) ∧ p.implies p = true ∧
      (p.implies q = true → q.implies r = true → p.implies r = true) :=
  ⟨partsImply_iff made.filled, partsImply_refl p.parts, partsImply_trans⟩

theorem mixed_parts_contained :
    let p : Wildcard := ⟨"nexus:*,a:*", [.ofList ["nexus"], .ofList ["*", "a"], .ofList ["*"]]⟩
    let q : Wildcard := ⟨"nexus::x,y", [.ofList ["nexus"], .ofList [""], .ofList ["x", "y"]]⟩
    let r := Wildcard.ofPlain "nexus: :x:read"
    parse "nexus:*,a:*" = .ok p ∧ parse "nexus::x,y" = .ok q ∧ q.Made ∧ p.implies q = true ∧
      q.implies r = true ∧ (∀ request, q.Grants request → p.Grants request) ∧ p.implies r = true := by
  intro p q r
  have readP : parse "nexus:*,a:*" = .ok p := by decide +kernel
  have readQ : parse "nexus::x,y" = .ok q := by decide +kernel
  have first : p.implies q = true := by decide +kernel
  have second : q.implies r = true := by decide +kernel
  obtain ⟨contained, _, chained⟩ := implies_iff_grants (p := p) (r := r) (.parsed readQ)
  exact ⟨readP, readQ, .parsed readQ, first, second, contained.mp first, chained first second⟩

end Wildcard

variable {p q r : Permission}

theorem implies_form (implied : p.implies q = true) : p.form.implies q.form = true := by
  cases p with
  | wildcard form => cases q <;> exact implied
  | constant text =>
    cases q with
    | wildcard form => exact implied
    | constant other =>
      rw [of_decide_eq_true implied]
      exact partsImply_refl _

-- What two permissions do as wildcard permissions they do as permissions, unless they are different
-- constants.
theorem implies_iff_form : p.implies q = true ↔
    p.form.implies q.form = true ∧ ¬ (p.isConstant = true ∧ q.isConstant = true ∧ p ≠ q) := by
  by_cases constants : p.isConstant = true ∧ q.isConstant = true
  · cases p with
    | wildcard form => cases constants.1
    | constant text =>
      cases q with
      | wildcard form => cases constants.2
      | constant other =>
        constructor
        · intro implied
          refine ⟨implies_form implied, fun apart => apart.2.2 ?_⟩
          rw [of_decide_eq_true implied]
        · rintro ⟨_, alike⟩
          have same : Permission.constant text = .constant other :=
            Decidable.not_not.mp fun apart => alike ⟨rfl, rfl, apart⟩
          rw [same]
          exact decide_eq_true rfl
  · rw [implies_by_form constants]
    exact ⟨fun implied => ⟨implied, fun apart => constants ⟨apart.1, apart.2.1⟩⟩, And.left⟩

theorem form_implies_trans (first : p.implies q = true) (second : q.implies r = true) :
    p.form.implies r.form = true :=
  partsImply_trans (implies_form first) (implies_form second)

end RepositoryAccess.Permission

namespace RepositoryAccess.Holdings
open Permission

variable {held : Holdings} {asked implied : Permission}

-- Whoever may make a request may make every request that it implies, except for a constant when all
-- that would grant it as a wildcard permission is constants of other texts.
theorem permits_implied_iff (permitted : held.permits asked = true)
    (granted : asked.implies implied = true) :
    held.permits implied = true ↔
      ¬ (implied.isConstant = true ∧ ∀ member ∈ held.members,
        member.form.implies implied.form = true → member.isConstant = true ∧ member ≠ implied) := by
  obtain ⟨holder, isMember, covering⟩ := permits_iff.mp permitted
  have covered := form_implies_trans covering granted
  rw [permits_iff]
  constructor
  · rintro ⟨member, isHeld, implies⟩ ⟨constant, onlyOthers⟩
    obtain ⟨byForm, alike⟩ := implies_iff_form.mp implies
    obtain ⟨other, apart⟩ := onlyOthers member isHeld byForm
    exact alike ⟨other, constant, apart⟩
  · intro allowed
    by_cases constant : implied.isConstant = true
    · simp only [constant, true_and, not_forall] at allowed
      obtain ⟨member, isHeld, byForm, alike⟩ := allowed
      refine ⟨member, isHeld, implies_iff_form.mpr ⟨byForm, fun apart => alike ?_⟩⟩
      exact ⟨apart.1, apart.2.2⟩
    · exact ⟨holder, isMember, implies_iff_form.mpr ⟨covered, fun apart => constant apart.2.1⟩⟩

-- The holder of `a` may ask for `a:b,c`, which implies `a:b`, but not for `a:b`.
theorem implied_constant_refused :
    let held : Holdings := ⟨[.constant "a"]⟩
    let asked : Permission := .wildcard ⟨"a:b,c", [.ofList ["a"], .ofList ["b", "c"]]⟩
    Permission.parse "a" = .ok (.constant "a") ∧ Permission.parse "a:b,c" = .ok asked ∧
      Permission.parse "a:b" = .ok (.constant "a:b") ∧ held.permits asked = true ∧
        asked.implies (.constant "a:b") = true ∧ held.permits (.constant "a:b") = false := by
  intro held asked
  have permitted : held.permits asked = true := by decide +kernel
  have granted : asked.implies (.constant "a:b") = true := by decide +kernel
  have exception := permits_implied_iff permitted granted
  refine ⟨rfl, by decide +kernel, rfl, permitted, granted, ?_⟩
  rw [Bool.eq_false_iff, Ne, exception, not_not]
  refine ⟨rfl, fun member isMember _ => ?_⟩
  rw [List.mem_singleton.mp isMember]
  exact ⟨rfl, by decide⟩

end RepositoryAccess.Holdings
