import Mathlib.Data.List.Infix
import RepositoryAccess.Pattern.Reader

namespace RepositoryAccess.Pattern
open RepositoryAccess.Text

def ending : List Char := [')', '$']

abbrev Reader (α : Type) := List Char → Option (α × List Char)

def Leaves {α : Type} (read : Reader α) : Prop := ∀ cs x rest, read cs = some (x, rest) → rest <:+ cs

def Kept (rest after : List Char) : Prop := after = rest ++ ending ∨ rest = [] ∧ after = []

-- What is read of a text by itself, and with the ending behind it.  What is read with the ending may be
-- of no use to those who read on, for a reason that they know.
structure Agree {α : Type} (useless : α → List Char → Prop) (own behind : Option (α × List Char)) : Prop where
  onward : ∀ x rest, own = some (x, rest) → ∃ after, behind = some (x, after) ∧ Kept rest after
  back : ∀ x after, behind = some (x, after) → ending.length ≤ after.length →
    useless x after ∨ ∃ rest, after = rest ++ ending ∧ own = some (x, rest)

abbrev Never {α : Type} : α → List Char → Prop := fun _ _ => False

section
variable {α β : Type} {own behind : Option (α × List Char)} {read read' : Reader α} {next next' : α → Reader β}
  {useless : α → List Char → Prop} {without : β → List Char → Prop} {cs rest : List Char} {x : α}

theorem Agree.kept : Agree useless (some (x, rest)) (some (x, rest ++ ending)) where
  onward := by rintro y left ⟨⟩; exact ⟨_, rfl, .inl rfl⟩
  back := by rintro y after ⟨⟩ -; exact .inr ⟨rest, rfl, rfl⟩

theorem Agree.crossed (into : ∀ x after, behind = some (x, after) → after.length < ending.length) :
    Agree useless none behind where
  onward := by rintro x rest ⟨⟩
  back := fun x after found enough => absurd (into x after found) (by omega)

theorem Agree.failed : Agree useless (none : Option (α × List Char)) none := .crossed (by rintro x after ⟨⟩)

theorem Agree.lost (none : ∀ x rest, own = some (x, rest) → rest = []) : Agree useless own own where
  onward := fun x rest found => ⟨rest, found, .inr ⟨none x rest found, none x rest found⟩⟩
  back := by
    intro x after found enough
    rw [none x after found] at enough
    simp [ending] at enough

theorem Agree.weaken (agree : Agree Never own behind) : Agree useless own behind where
  onward := agree.onward
  back := fun x after found enough => .inr ((agree.back x after found enough).resolve_left id)

theorem Leaves.of_nil (leaves : Leaves read) : Agree useless (read []) (read []) :=
  .lost fun x rest found => List.suffix_nil.mp (leaves [] x rest found)

theorem Agree.bind_useless (first : Agree useless own behind)
    (agree : ∀ x rest, own = some (x, rest) → Agree without (next x rest) (next' x (rest ++ ending)))
    (leaves : ∀ x, Leaves (next x)) (leaves' : ∀ x, Leaves (next' x)) (nil : ∀ x, next' x [] = next x [])
    (gone : ∀ x after, useless x after → ∀ y rest, next' x after = some (y, rest) → rest.length < ending.length) :
    Agree without (own.bind fun p => next p.1 p.2) (behind.bind fun p => next' p.1 p.2) where
  onward := by
    intro y rest found
    obtain ⟨⟨x, middle⟩, taken, found⟩ := Option.bind_eq_some_iff.mp found
    obtain ⟨after, same, rfl | ⟨rfl, rfl⟩⟩ := first.onward x middle taken
    · obtain ⟨left, other, kept⟩ := (agree x middle taken).onward y rest found
      exact ⟨left, by simp [same, other], kept⟩
    · have none := List.suffix_nil.mp (leaves x [] y rest found)
      exact ⟨rest, by simpa [same, nil] using found, .inr ⟨none, none⟩⟩
  back := by
    intro y after found enough
    obtain ⟨⟨x, middle⟩, taken, found⟩ := Option.bind_eq_some_iff.mp found
    have shorter := (leaves' x middle y after found).length_le
    rcases first.back x middle taken (by omega) with bad | ⟨rest, rfl, same⟩
    · exact absurd (gone x middle bad y after found) (by omega)
    · rcases (agree x rest same).back y after found enough with bad | ⟨left, rfl, other⟩
      · exact .inl bad
      · exact .inr ⟨left, rfl, by simp [same, other]⟩

theorem Agree.bind (first : Agree Never own behind)
    (agree : ∀ x rest, own = some (x, rest) → Agree without (next x rest) (next x (rest ++ ending)))
    (leaves : ∀ x, Leaves (next x)) :
    Agree without (own.bind fun p => next p.1 p.2) (behind.bind fun p => next p.1 p.2) :=
  first.bind_useless agree leaves leaves (fun _ => rfl) fun _ _ never => never.elim

theorem Agree.map_useless (f : α → β) (first : Agree useless own behind)
    (still : ∀ x after, useless x after → without (f x) after) :
    Agree without (own.map fun p => (f p.1, p.2)) (behind.map fun p => (f p.1, p.2)) where
  onward := by
    intro y rest found
    obtain ⟨⟨x, left⟩, taken, same⟩ := Option.map_eq_some_iff.mp found
    cases same
    obtain ⟨after, same, kept⟩ := first.onward x left taken
    exact ⟨after, by simp [same], kept⟩
  back := by
    intro y after found enough
    obtain ⟨⟨x, left⟩, taken, same⟩ := Option.map_eq_some_iff.mp found
    cases same
    rcases first.back x left taken enough with bad | ⟨rest, rfl, same⟩
    · exact .inl (still x left bad)
    · exact .inr ⟨rest, rfl, by simp [same]⟩

theorem Agree.map (f : α → β) (first : Agree Never own behind) :
    Agree without (own.map fun p => (f p.1, p.2)) (behind.map fun p => (f p.1, p.2)) :=
  first.map_useless f fun _ _ never => never.elim

theorem Leaves.bind {first : Reader α} (one : Leaves first) (two : ∀ x, Leaves (next x)) :
    Leaves fun cs => (first cs).bind fun p => next p.1 p.2 := by
  intro cs y rest found
  obtain ⟨⟨x, middle⟩, taken, found⟩ := Option.bind_eq_some_iff.mp found
  exact (two x middle y rest found).trans (one cs x middle taken)

theorem Leaves.map {first : Reader α} (f : α → β) (leaves : Leaves first) :
    Leaves fun cs => (first cs).map fun p => (f p.1, p.2) := by
  intro cs y rest found
  obtain ⟨⟨x, middle⟩, taken, same⟩ := Option.map_eq_some_iff.mp found
  cases same
  exact leaves cs x _ taken

theorem leaves_some (x : α) : Leaves fun cs => some (x, cs) := by
  rintro cs y rest ⟨⟩
  exact List.suffix_refl cs

theorem leaves_none : Leaves fun _ => (none : Option (α × List Char)) := by rintro cs y rest ⟨⟩

theorem Leaves.within_ending (leaves : Leaves read) :
    ∀ x after, read ['$'] = some (x, after) → after.length < ending.length :=
  fun x after found => Nat.lt_succ_of_le (leaves ['$'] x after found).length_le

end

theorem skipSpaced_suffix (comment : Bool) (cs : List Char) : skipSpaced comment cs <:+ cs := by
  induction cs generalizing comment with
  | nil => simp [skipSpaced]
  | cons c rest ih =>
    unfold skipSpaced
    repeat' split
    · exact (ih _).trans (List.suffix_cons c rest)
    · exact (ih _).trans (List.suffix_cons c rest)
    · exact (ih _).trans (List.suffix_cons c rest)
    · exact List.suffix_refl _

theorem skipSpaced_ending (comment : Bool) (cs : List Char) :
    skipSpaced comment (cs ++ ending) = skipSpaced comment cs ++ ending ∨
      skipSpaced comment cs = [] ∧ skipSpaced comment (cs ++ ending) = [] := by
  induction cs generalizing comment with
  | nil =>
    cases comment with
    | true => exact .inr ⟨rfl, by decide⟩
    | false => exact .inl (by decide)
  | cons c rest ih =>
    simp only [List.cons_append, skipSpaced]
    repeat' split
    · exact ih _
    · exact ih _
    · exact ih _
    · exact .inl rfl

namespace Flags
variable {α : Type} {flags : Flags} {cs rest : List Char} {useless : α → List Char → Prop} {read behind : Reader α}

theorem skip_suffix (flags : Flags) (cs : List Char) : flags.skip cs <:+ cs := by
  unfold skip
  split
  · exact skipSpaced_suffix false cs
  · exact List.suffix_refl cs

theorem skip_ending (flags : Flags) (cs : List Char) : flags.skip (cs ++ ending) = flags.skip cs ++ ending ∨
    flags.skip cs = [] ∧ flags.skip (cs ++ ending) = [] := by
  unfold skip
  split
  · exact skipSpaced_ending false cs
  · exact .inl rfl

theorem agree_skip (read behind : Reader α) (leaves : Leaves read) (nil : behind [] = read [])
    (agree : Agree useless (read (flags.skip cs)) (behind (flags.skip cs ++ ending))) :
    Agree useless (read (flags.skip cs)) (behind (flags.skip (cs ++ ending))) := by
  rcases flags.skip_ending cs with same | ⟨none, lost⟩
  · rw [same]; exact agree
  · rw [none, lost, nil]; exact leaves.of_nil

theorem agree_skipped (x : α) : Agree useless (some (x, flags.skip cs)) (some (x, flags.skip (cs ++ ending))) :=
  agree_skip (fun cs => some (x, cs)) (fun cs => some (x, cs)) (leaves_some x) rfl .kept

theorem leaves_skip (leaves : Leaves read) : Leaves fun cs => read (flags.skip cs) := by
  intro cs x rest found
  exact (leaves _ x rest found).trans (flags.skip_suffix cs)

end Flags

section Numbers
variable (flags : Flags)

theorem hexDigits_cons (count : Nat) (c : Char) (rest : List Char) : hexDigits flags (count + 1) (c :: rest) =
    (hexDigit? c).bind fun digit =>
      (hexDigits flags count (flags.skip rest)).map fun p => (digit :: p.1, p.2) := by
  simp only [hexDigits, Option.map_eq_bind]
  rfl

theorem leaves_hexDigits (count : Nat) : Leaves (hexDigits flags count) := by
  induction count with
  | zero => exact leaves_some []
  | succ count ih =>
    intro cs x rest found
    cases cs with
    | nil => cases found
    | cons c others =>
      rw [hexDigits_cons flags] at found
      obtain ⟨digit, -, found⟩ := Option.bind_eq_some_iff.mp found
      exact (((flags.leaves_skip ih).map _) others x rest found).trans (List.suffix_cons c others)

theorem agree_hexDigits (count : Nat) (cs : List Char) :
    Agree Never (hexDigits flags count cs) (hexDigits flags count (cs ++ ending)) := by
  induction count generalizing cs with
  | zero => exact .kept
  | succ count ih =>
    cases cs with
    | nil => exact .failed
    | cons c others =>
      rw [List.cons_append, hexDigits_cons, hexDigits_cons]
      cases hexDigit? c with
      | none => exact .failed
      | some digit => exact (flags.agree_skip _ _ (leaves_hexDigits flags count) rfl (ih _)).map _

variable {flags} in
theorem upToBrace_cons {fuel : Nat} {cs rest : List Char} {c : Char} (skipped : flags.skip cs = c :: rest) :
    upToBrace flags (fuel + 1) cs = if c = '}' then some ([], rest)
      else (upToBrace flags fuel rest).map fun p => (c :: p.1, p.2) := by
  rw [upToBrace, skipped]
  by_cases brace : c = '}'
  · subst brace; rfl
  · simp [brace]

variable {flags} in
theorem upToBrace_nil {fuel : Nat} {cs : List Char} (skipped : flags.skip cs = []) :
    upToBrace flags (fuel + 1) cs = none := by rw [upToBrace, skipped]

theorem leaves_upToBrace (fuel : Nat) : Leaves (upToBrace flags fuel) := by
  induction fuel with
  | zero => exact leaves_none
  | succ fuel ih =>
    intro cs x rest found
    cases skipped : flags.skip cs with
    | nil => rw [upToBrace_nil skipped] at found; cases found
    | cons c others =>
      rw [upToBrace_cons skipped] at found
      have inside : others <:+ cs := (List.suffix_cons c others).trans (skipped ▸ flags.skip_suffix cs)
      split at found
      · cases found; exact inside
      · exact (ih.map _ others x rest found).trans inside

theorem agree_upToBrace (fuel more : Nat) (cs : List Char) (enough : cs.length < fuel)
    (behind : cs.length + ending.length < more) :
    Agree Never (upToBrace flags fuel cs) (upToBrace flags more (cs ++ ending)) := by
  induction fuel generalizing more cs with
  | zero => exact absurd enough (Nat.not_lt_zero _)
  | succ fuel ih =>
    obtain ⟨more, rfl⟩ : ∃ n, more = n + 1 := ⟨more - 1, by omega⟩
    have shorter := (flags.skip_suffix cs).length_le
    rcases flags.skip_ending cs with same | ⟨none, lost⟩
    · cases skipped : flags.skip cs with
      | nil =>
        rw [skipped] at same
        rw [upToBrace_nil skipped, upToBrace_cons same]
        exact .crossed ((leaves_upToBrace flags more).map _).within_ending
      | cons c rest =>
        rw [skipped] at same
        rw [skipped, List.length_cons] at shorter
        rw [upToBrace_cons skipped, upToBrace_cons same]
        split
        · exact .kept
        · exact (ih more rest (by omega) (by omega)).map _
    · rw [upToBrace_nil none, upToBrace_nil lost]
      exact .failed

def bracedChar (inner : List Char) : Option Char :=
  (inner.mapM hexDigit?).bind fun digits => if digits.isEmpty then none else scalar? (hexValue digits)

def digitsChar (flags : Flags) (kind : Char) (digits : List Nat) : Option Char :=
  (scalar? (hexValue digits)).bind fun c => if kind == 'x' && !flags.unicode && c.toNat ≥ 128 then none else some c

def yields {α β : Type} (f : α → Option β) (x : α) : Reader β := fun rest => (f x).map fun y => (y, rest)

theorem leaves_yields {α β : Type} (f : α → Option β) (x : α) : Leaves (yields f x) := by
  intro cs y rest found
  obtain ⟨z, -, same⟩ := Option.map_eq_some_iff.mp found
  cases same
  exact List.suffix_refl cs

theorem agree_yields {α β : Type} {useless : β → List Char → Prop} (f : α → Option β) (x : α) (rest : List Char) :
    Agree useless (yields f x rest) (yields f x (rest ++ ending)) := by
  unfold yields
  cases f x with
  | none => exact .failed
  | some y => exact .kept

def numbered (kind : Char) (cs : List Char) : Option (Char × List Char) :=
  match cs with
  | '{' :: rest => (upToBrace flags (rest.length + 1) rest).bind fun p => yields bracedChar p.1 (flags.skip p.2)
  | cs => (hexDigits flags (if kind == 'x' then 2 else if kind == 'u' then 4 else 8) cs).bind fun p =>
      yields (digitsChar flags kind) p.1 p.2

theorem numbered_other (kind : Char) {cs : List Char} (other : ∀ rest, cs ≠ '{' :: rest) : numbered flags kind cs =
    (hexDigits flags (if kind == 'x' then 2 else if kind == 'u' then 4 else 8) cs).bind fun p =>
      yields (digitsChar flags kind) p.1 p.2 := by
  unfold numbered
  split
  · rename_i rest; exact absurd rfl (other rest)
  · rfl

theorem readNumbered_eq (kind : Char) (cs : List Char) :
    readNumbered flags kind cs = numbered flags kind (flags.skip cs) := by
  by_cases brace : ∃ rest, flags.skip cs = '{' :: rest
  · obtain ⟨rest, same⟩ := brace
    simp only [readNumbered, same, numbered, yields, bracedChar, Option.bind_eq_bind, Option.map_eq_bind,
      Option.bind_assoc, Function.comp_def]
    congr! 4
    split <;> rfl
  · rw [numbered_other flags kind fun rest same => brace ⟨rest, same⟩]
    unfold readNumbered
    split
    · rename_i rest same; exact absurd ⟨rest, same⟩ brace
    · simp only [yields, digitsChar, Option.bind_eq_bind, Option.map_eq_bind, Option.bind_assoc, Function.comp_def]
      congr! 4
      split <;> rfl

theorem leaves_numbered (kind : Char) : Leaves (numbered flags kind) := by
  intro cs x rest found
  unfold numbered at found
  split at found
  · rename_i others
    have inner := (leaves_upToBrace flags (others.length + 1)).bind fun name =>
      flags.leaves_skip (leaves_yields bracedChar name)
    exact (inner others x rest found).trans (List.suffix_cons '{' others)
  · exact ((leaves_hexDigits flags _).bind (leaves_yields (digitsChar flags kind))) cs x rest found

theorem agree_numbered (kind : Char) (cs : List Char) :
    Agree Never (numbered flags kind cs) (numbered flags kind (cs ++ ending)) := by
  by_cases brace : ∃ rest, cs = '{' :: rest
  · obtain ⟨rest, rfl⟩ := brace
    refine (agree_upToBrace flags _ _ rest (by omega) (by simp)).bind (fun name after _ => ?_) fun name =>
      flags.leaves_skip (leaves_yields bracedChar name)
    exact flags.agree_skip _ _ (leaves_yields bracedChar name) rfl (agree_yields bracedChar name _)
  · have other : ∀ rest, cs ++ ending ≠ '{' :: rest := by
      cases cs with
      | nil => simp [ending]
      | cons c others => rintro rest ⟨⟩; exact brace ⟨others, rfl⟩
    rw [numbered_other flags kind fun rest same => brace ⟨rest, same⟩, numbered_other flags kind other]
    exact (agree_hexDigits flags _ cs).bind (fun digits rest _ => agree_yields _ digits rest) (leaves_yields _)

theorem leaves_readNumbered (kind : Char) : Leaves (readNumbered flags kind) := by
  intro cs x rest found
  rw [readNumbered_eq] at found
  exact flags.leaves_skip (leaves_numbered flags kind) cs x rest found

theorem agree_readNumbered (kind : Char) (cs : List Char) :
    Agree Never (readNumbered flags kind cs) (readNumbered flags kind (cs ++ ending)) := by
  rw [readNumbered_eq, readNumbered_eq]
  exact flags.agree_skip _ _ (leaves_numbered flags kind) rfl (agree_numbered flags kind _)

end Numbers

section Escapes
variable (flags : Flags)

def propertyName (cs : List Char) : Option (List Char × List Char) :=
  match cs with
  | '{' :: rest => upToBrace flags (rest.length + 1) rest
  | '\\' :: _ => none
  | c :: rest => some ([c], rest)
  | [] => none

def propertySet (negated : Bool) (name : List Char) : Option CharSet :=
  if !flags.unicode then none
  else (readProperty name).bind fun p => flags.negate (negated != p.1) (flags.fold (.having p.2))

theorem readPropertyClass_eq (negated : Bool) (cs : List Char) : readPropertyClass flags negated cs =
    (propertyName flags cs).bind fun p => yields (propertySet flags negated) p.1 p.2 := by
  have next (name rest : List Char) : (if !flags.unicode then none
      else (readProperty name).bind fun p =>
        (flags.negate (negated != p.1) (flags.fold (.having p.2))).bind fun set => some (set, rest)) =
      yields (propertySet flags negated) name rest := by
    unfold yields propertySet
    split
    · rfl
    · simp only [Option.map_eq_bind, Option.bind_assoc, Function.comp_def]
  simp only [← next]
  cases cs with
  | nil => rfl
  | cons c rest =>
    by_cases brace : c = '{'
    · subst brace; rfl
    · by_cases backslash : c = '\\'
      · subst backslash; rfl
      · simp only [readPropertyClass, propertyName]
        rfl

theorem leaves_propertyName : Leaves (propertyName flags) := by
  intro cs x rest found
  unfold propertyName at found
  split at found
  · exact (leaves_upToBrace flags _ _ x rest found).trans (List.suffix_cons _ _)
  · cases found
  · cases found; exact List.suffix_cons _ _
  · cases found

theorem agree_propertyName (cs : List Char) :
    Agree Never (propertyName flags cs) (propertyName flags (cs ++ ending)) := by
  cases cs with
  | nil => exact .crossed (by rintro x after ⟨⟩; decide)
  | cons c rest =>
    by_cases brace : c = '{'
    · subst brace
      exact agree_upToBrace flags _ _ rest (by omega) (by simp)
    · by_cases backslash : c = '\\'
      · subst backslash; exact .failed
      · simp only [List.cons_append, propertyName]
        exact .kept

theorem leaves_readPropertyClass (negated : Bool) : Leaves (readPropertyClass flags negated) := by
  intro cs x rest found
  rw [readPropertyClass_eq] at found
  exact ((leaves_propertyName flags).bind (leaves_yields _)) cs x rest found

theorem agree_readPropertyClass (negated : Bool) (cs : List Char) :
    Agree Never (readPropertyClass flags negated cs) (readPropertyClass flags negated (cs ++ ending)) := by
  rw [readPropertyClass_eq, readPropertyClass_eq]
  exact (agree_propertyName flags cs).bind (fun name rest _ => agree_yields _ name rest) (leaves_yields _)

theorem placeLetters_cons (fuel : Nat) (c : Char) (rest : List Char) : placeLetters flags (fuel + 1) (c :: rest) =
    if isPlaceLetter c then
      (c :: (placeLetters flags fuel (flags.skip rest)).1, (placeLetters flags fuel (flags.skip rest)).2)
    else ([], c :: rest) := rfl

theorem leaves_placeLetters (fuel : Nat) : Leaves fun cs => some (placeLetters flags fuel cs) := by
  induction fuel with
  | zero => exact leaves_some []
  | succ fuel ih =>
    intro cs x rest found
    cases cs with
    | nil => cases found; exact List.suffix_refl _
    | cons c others =>
      dsimp only at found
      rw [placeLetters_cons] at found
      split at found
      · cases found
        exact (flags.leaves_skip ih others _ _ rfl).trans (List.suffix_cons c others)
      · cases found; exact List.suffix_refl _

theorem placeLetters_nil (fuel : Nat) : placeLetters flags fuel [] = ([], []) := by cases fuel <;> rfl

theorem agree_placeLetters (fuel more : Nat) (cs : List Char) (enough : cs.length < fuel)
    (behind : cs.length + ending.length < more) :
    Agree Never (some (placeLetters flags fuel cs)) (some (placeLetters flags more (cs ++ ending))) := by
  induction fuel generalizing more cs with
  | zero => exact absurd enough (Nat.not_lt_zero _)
  | succ fuel ih =>
    obtain ⟨more, rfl⟩ : ∃ n, more = n + 1 := ⟨more - 1, by omega⟩
    cases cs with
    | nil => exact .kept
    | cons c rest =>
      have shorter := (flags.skip_suffix rest).length_le
      rw [List.length_cons] at enough behind
      rw [List.cons_append, placeLetters_cons, placeLetters_cons]
      split
      · have inner := flags.agree_skip (fun cs => some (placeLetters flags fuel cs))
          (fun cs => some (placeLetters flags more cs)) (leaves_placeLetters flags fuel)
          (by simp only [placeLetters_nil]) (ih more (flags.skip rest) (by omega) (by omega))
        exact inner.map (c :: ·)
      · exact .kept

def edgeNamed (name rest : List Char) : Option (Place × List Char) :=
  match rest with
  | '}' :: rest => yields (fun name => namedEdge? (!flags.unicode) (String.ofList name)) name rest
  | _ => none

theorem edgeNamed_cons (name rest : List Char) (c : Char) : edgeNamed flags name (c :: rest) =
    if c = '}' then yields (fun name => namedEdge? (!flags.unicode) (String.ofList name)) name rest else none := by
  by_cases brace : c = '}'
  · subst brace; rfl
  · simp [edgeNamed, brace]

theorem readEdge_brace (rest : List Char) : readEdge flags ('{' :: rest) =
    match flags.skip rest with
    | [] => none
    | c :: inner =>
      if isPlaceLetter c then
        (some (placeLetters flags (inner.length + 2) (c :: inner))).bind fun p => edgeNamed flags p.1 p.2
      else some (.wordEdge !flags.unicode, '{' :: rest) := by
  simp only [readEdge]
  cases flags.skip rest with
  | nil => rfl
  | cons c inner =>
    cases letter : isPlaceLetter c with
    | false => simp [letter]
    | true =>
      simp only [letter, Bool.not_true, Bool.false_eq_true, if_false, if_true, Option.bind_some]
      rcases placeLetters flags (inner.length + 2) (c :: inner) with ⟨name, others⟩
      cases others with
      | nil => rfl
      | cons first others =>
        rw [edgeNamed_cons]
        by_cases brace : first = '}'
        · subst brace; rfl
        · simp [brace]

theorem readEdge_other {c : Char} (other : c ≠ '{') (rest : List Char) :
    readEdge flags (c :: rest) = some (.wordEdge !flags.unicode, c :: rest) := by simp [readEdge, other]

theorem leaves_edgeNamed (name : List Char) : Leaves (edgeNamed flags name) := by
  intro cs x rest found
  cases cs with
  | nil => cases found
  | cons c others =>
    rw [edgeNamed_cons] at found
    split at found
    · exact (leaves_yields _ _ _ x rest found).trans (List.suffix_cons _ _)
    · cases found

theorem agree_edgeNamed {useless : Place → List Char → Prop} (name rest : List Char) :
    Agree useless (edgeNamed flags name rest) (edgeNamed flags name (rest ++ ending)) := by
  cases rest with
  | nil => exact .failed
  | cons c others =>
    rw [List.cons_append, edgeNamed_cons, edgeNamed_cons]
    split
    · exact agree_yields _ name others
    · exact .failed

theorem leaves_readEdge : Leaves (readEdge flags) := by
  intro cs x rest found
  cases cs with
  | nil => cases found; exact List.suffix_refl _
  | cons c others =>
    by_cases brace : c = '{'
    · subst brace
      rw [readEdge_brace] at found
      split at found
      · cases found
      · rename_i first inner skipped
        split at found
        · have inside := ((leaves_placeLetters flags (inner.length + 2)).bind (leaves_edgeNamed flags)) _ x rest found
          exact (skipped ▸ inside).trans ((flags.skip_suffix others).trans (List.suffix_cons _ _))
        · cases found; exact List.suffix_refl _
    · rw [readEdge_other flags brace] at found
      cases found; exact List.suffix_refl _

-- A brace that has nothing but the ending behind it.  It is left for a count, which it does not open.
def Dangling (after : List Char) : Prop := ∃ blanks, after = '{' :: blanks ++ ending ∧ flags.skip blanks = []

theorem agree_readEdge (cs : List Char) :
    Agree (fun _ => Dangling flags) (readEdge flags cs) (readEdge flags (cs ++ ending)) := by
  cases cs with
  | nil => exact .kept
  | cons c others =>
    by_cases brace : c = '{'
    · subst brace
      rw [List.cons_append, readEdge_brace, readEdge_brace]
      rcases flags.skip_ending others with same | ⟨none, lost⟩
      · rw [same]
        cases skipped : flags.skip others with
        | nil =>
          refine ⟨by rintro x rest ⟨⟩, ?_⟩
          rintro x after ⟨⟩ -
          exact .inl ⟨others, rfl, skipped⟩
        | cons first inner =>
          simp only [List.cons_append]
          split
          · have letters := agree_placeLetters flags (inner.length + 2) ((inner ++ ending).length + 2)
              (first :: inner) (by simp) (by simp only [List.length_cons, List.length_append]; omega)
            exact letters.bind (fun name rest _ => agree_edgeNamed flags name rest) (leaves_edgeNamed flags)
          · exact .kept
      · rw [none, lost]
        exact .failed
    · rw [List.cons_append, readEdge_other flags brace, readEdge_other flags brace]
      exact .kept

theorem readEscape_single {c : Char} (number : (c == 'x' || c == 'u' || c == 'U') = false)
    (property : (c == 'p' || c == 'P') = false) (edge : c ≠ 'b') (rest : List Char) :
    readEscape flags (c :: rest) = yields (fun c => (readEscape flags [c]).map (·.1)) c rest := by
  unfold yields readEscape
  simp only [number, property, Bool.false_eq_true, if_false]
  repeat' split
  all_goals first | rfl | contradiction | simp [Option.map_map, Function.comp_def]

theorem readEscape_number {c : Char} (number : (c == 'x' || c == 'u' || c == 'U') = true) (rest : List Char) :
    readEscape flags (c :: rest) = (readNumbered flags c rest).map fun p => (.char p.1, p.2) := by
  simp only [readEscape, number, if_true]

theorem readEscape_property {c : Char} (number : (c == 'x' || c == 'u' || c == 'U') = false)
    (property : (c == 'p' || c == 'P') = true) (rest : List Char) :
    readEscape flags (c :: rest) = (readPropertyClass flags (c == 'P') rest).map fun p => (.set p.1, p.2) := by
  simp only [readEscape, number, property, Bool.false_eq_true, if_false, if_true]

theorem leaves_readEscape : Leaves (readEscape flags) := by
  intro cs x rest found
  cases cs with
  | nil => cases found
  | cons c others =>
    refine List.IsSuffix.trans ?_ (List.suffix_cons c others)
    cases number : (c == 'x' || c == 'u' || c == 'U') with
    | true =>
      rw [readEscape_number flags number] at found
      exact (leaves_readNumbered flags c).map _ others x rest found
    | false =>
      cases property : (c == 'p' || c == 'P') with
      | true =>
        rw [readEscape_property flags number property] at found
        exact (leaves_readPropertyClass flags _).map _ others x rest found
      | false =>
        by_cases edge : c = 'b'
        · subst edge
          exact (leaves_readEdge flags).map _ others x rest found
        · rw [readEscape_single flags number property edge] at found
          exact leaves_yields _ c others x rest found

def DanglingEdge (atom : Atom) (after : List Char) : Prop := (∃ place, atom = .place place) ∧ Dangling flags after

theorem agree_readEscape (cs : List Char) :
    Agree (DanglingEdge flags) (readEscape flags cs) (readEscape flags (cs ++ ending)) := by
  cases cs with
  | nil => exact .crossed (by rintro x after ⟨⟩; decide)
  | cons c others =>
    rw [List.cons_append]
    cases number : (c == 'x' || c == 'u' || c == 'U') with
    | true =>
      rw [readEscape_number flags number, readEscape_number flags number]
      exact (agree_readNumbered flags c others).map _
    | false =>
      cases property : (c == 'p' || c == 'P') with
      | true =>
        rw [readEscape_property flags number property, readEscape_property flags number property]
        exact (agree_readPropertyClass flags _ others).map _
      | false =>
        by_cases edge : c = 'b'
        · subst edge
          exact (agree_readEdge flags others).map_useless Atom.place fun place after bad => ⟨⟨place, rfl⟩, bad⟩
        · rw [readEscape_single flags number property edge, readEscape_single flags number property edge]
          exact agree_yields _ c others

end Escapes
end RepositoryAccess.Pattern
