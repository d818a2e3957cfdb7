import RepositoryAccess.Proofs.Steppers
import RepositoryAccess.Proofs.TrailingParts

namespace RepositoryAccess.Lookaround
open RepositoryAccess.Text RepositoryAccess.Pattern

section
variable {α β : Type} {limit longest : Nat} {slack : Int}

def gap (spaced : Bool) (kind : Gap) : Reader Unit := fun cs => (skipGap spaced kind cs).map fun rest => ((), rest)

theorem skipGap_suffix (spaced : Bool) (kind : Gap) (cs rest : List Char) (found : skipGap spaced kind cs = some rest) :
    rest <:+ cs := by
  fun_induction skipGap spaced kind cs with
  | case1 | case6 => cases found; exact List.suffix_refl _
  | case5 => cases found; exact List.suffix_refl _
  | case2 others ih => exact (ih found).trans ⟨['(', '?', '#'], rfl⟩
  | case3 c others _ _ ih => exact (ih found).trans (List.suffix_cons c others)
  | case4 c others _ _ _ ih => exact (ih found).trans (List.suffix_cons c others)
  | case7 c others ih => exact (ih found).trans (List.suffix_cons c others)
  | case8 => cases found
  | case9 d others ih => exact (ih found).trans ⟨['\\', d], rfl⟩
  | case10 c others _ ih => exact (ih found).trans (List.suffix_cons c others)

theorem leaves_gap (spaced : Bool) (kind : Gap) : Leaves (gap spaced kind) := by
  intro cs x rest found
  obtain ⟨after, taken, same⟩ := Option.map_eq_some_iff.mp found
  cases same
  exact skipGap_suffix spaced kind cs rest taken

-- What stands apart from the ending begins a text with the ending behind only if it begins the text.
theorem front_of_behind {front cs tail : List Char} (apart : ∀ c ∈ front, c ∉ ending)
    (same : cs ++ ending = front ++ tail) :
    ∃ others, cs = front ++ others ∧ tail = others ++ ending := by
  induction front generalizing cs with
  | nil => exact ⟨cs, rfl, same.symm⟩
  | cons c front ih =>
    cases cs with
    | nil =>
      have first : c = ')' := by simpa [ending, eq_comm] using congrArg List.head? same
      exact absurd (first ▸ List.mem_cons_self) (apart c List.mem_cons_self)
    | cons d cs =>
      simp only [List.cons_append, List.cons.injEq] at same
      obtain ⟨others, rfl, whole⟩ := ih (fun e mem => apart e (List.mem_cons_of_mem c mem)) same.2
      exact ⟨others, by simp [same.1], whole⟩

theorem not_remark {c : Char} {others : List Char}
    (other : ∀ rest, c = '(' → others = '?' :: '#' :: rest → False) (rest : List Char) (opening : c = '(')
    (same : others ++ ending = '?' :: '#' :: rest) : False := by
  obtain ⟨inner, rfl, -⟩ := front_of_behind (by simp [ending] : ∀ c ∈ ['?', '#'], c ∉ ending) same
  exact other inner opening rfl

theorem agree_gap (spaced : Bool) (kind : Gap) (cs : List Char) :
    Agree Never (gap spaced kind cs) (gap spaced kind (cs ++ ending)) := by
  unfold gap
  fun_induction skipGap spaced kind cs with
  | case1 =>
    have none : skipGap spaced .blanks ending = some ending := by cases spaced <;> decide
    rw [List.nil_append, none]
    exact .kept
  | case2 others ih => exact ih
  | case3 c others other blank ih =>
    rw [List.cons_append, skipGap, if_pos blank]
    · exact ih
    · exact not_remark other
  | case4 c others other blank line ih =>
    rw [List.cons_append, skipGap, if_neg blank, if_pos line]
    · exact ih
    · exact not_remark other
  | case5 c others other blank line =>
    rw [List.cons_append, skipGap, if_neg blank, if_neg line]
    · exact .kept
    · exact not_remark other
  | case6 => exact .lost (by rintro x rest ⟨⟩; rfl)
  | case7 c others ih => rw [List.cons_append, skipGap]; exact ih
  | case8 => exact .crossed (leaves_gap spaced .blanks).within_ending
  | case9 d others ih => exact ih
  | case10 c others other ih =>
    by_cases escape : c = '\\'
    · cases others with
      | nil => subst escape; exact .failed
      | cons d others => exact (other d others escape rfl).elim
    · rw [List.cons_append, skipGap]
      · exact ih
      · exact fun _ _ same => absurd same escape

variable (limit longest)

def skipped : Stepper Unit := .fixed fun reading => .lift (gap reading.flags.spaced .blanks)

theorem good_skipped : Good limit longest 0 skipped skipped :=
  good_fixed fun reading => good_lift (leaves_gap reading.flags.spaced .blanks) (agree_gap reading.flags.spaced .blanks)

theorem skipped_eq (reading : Reading) (cs : List Char) :
    skipped reading cs = (skipGap reading.flags.spaced .blanks cs).map fun rest => (((), reading), rest) := by
  simp [skipped, Stepper.fixed, Stepper.lift, gap, Option.map_map, Function.comp_def]

theorem outcome_skip (cs : List Char) (next : List Char → Read (β × List Char)) (reading : Reading) :
    outcome (skip cs >>= next) reading = (skipped reading cs).bind fun p => outcome (next p.2) p.1.2 := by
  rw [skipped_eq]
  show Option.map _ (((skipGap reading.flags.spaced .blanks cs).bind fun rest => some (rest, reading)).bind _) = _
  cases skipGap reading.flags.spaced .blanks cs <;> rfl

theorem skip_then {next : List Char → Read (β × List Char)} {next' : Stepper β}
    (same : ∀ reading rest, outcome (next rest) reading = next' reading rest) (reading : Reading) (cs : List Char) :
    outcome (skip cs >>= next) reading = (skipped.bind fun _ => next') reading cs := by
  rw [outcome_skip, Stepper.bind]
  congr
  funext found
  exact same _ _

def closed : Stepper Unit := skipped.bind fun _ => .headed .fail fun c => if c = ')' then .done () else .fail

theorem good_closed : Good limit longest (-1) closed closed := by
  refine (good_skipped limit longest).bind fun _ => good_headed fun c => ?_
  split
  · exact (good_done ()).mono (Nat.le_refl _) (by decide)
  · exact good_fail

theorem outcome_closing (cs : List Char) (next : List Char → Read (β × List Char)) (reading : Reading) :
    outcome (closing cs >>= next) reading = (closed reading cs).bind fun p => outcome (next p.2) p.1.2 := by
  unfold closing closed
  rw [bind_assoc, outcome_skip, Stepper.bind, Option.bind_assoc]
  congr
  funext p
  obtain ⟨⟨-, reading⟩, cs⟩ := p
  dsimp only
  split
  · rfl
  · rename_i other
    cases cs with
    | nil => rfl
    | cons c rest =>
      have single : c ≠ ')' := fun same => other rest (by rw [same])
      simp only [Stepper.headed, single, if_false]
      rfl

theorem closing_then {next : List Char → Read (β × List Char)} {next' : Stepper β}
    (same : ∀ reading rest, outcome (next rest) reading = next' reading rest) (reading : Reading) (cs : List Char) :
    outcome (closing cs >>= next) reading = (closed.bind fun _ => next') reading cs := by
  rw [outcome_closing, Stepper.bind]
  congr
  funext found
  exact same _ _

theorem dropWhile_kept {p : Char → Bool} (cs : List Char) (close : p ')' = false) :
    (cs ++ ending).dropWhile p = cs.dropWhile p ++ ending ∧ (cs ++ ending).takeWhile p = cs.takeWhile p := by
  induction cs with
  | nil => simp [ending, close]
  | cons c cs ih =>
    by_cases more : p c = true
    · simp [more, ih]
    · simp [more]

theorem leaves_decimal : Leaves decimal? := by
  intro cs n rest found
  simp only [decimal?] at found
  split at found
  · cases found
  · cases found; exact List.dropWhile_suffix _

-- Nothing of the ending is looked at.
def Exact {α : Type} (read : Reader α) : Prop := ∀ cs, read (cs ++ ending) = (read cs).map fun p => (p.1, p.2 ++ ending)

theorem Exact.agree {α : Type} {read : Reader α} (exact : Exact read) (cs : List Char) :
    Agree Never (read cs) (read (cs ++ ending)) := by
  rw [exact]
  cases read cs with
  | none => exact .failed
  | some found => exact .kept

theorem decimal_exact : Exact decimal? := by
  intro cs
  obtain ⟨drop, take⟩ := dropWhile_kept (p := Char.isDigit) cs (by decide)
  simp only [decimal?, drop, take]
  split <;> rfl

theorem leaves_name (stop : Char) : Leaves (name? stop) := by
  intro cs x rest found
  simp only [name?] at found
  split at found
  · rename_i _ _ _ _ _ dropped
    split at found
    · cases found
      exact (List.suffix_cons _ _).trans (dropped ▸ List.dropWhile_suffix _)
    · cases found
  · cases found

theorem agree_name (stop : Char) (cs : List Char) : Agree Never (name? stop cs) (name? stop (cs ++ ending)) := by
  cases dropped : cs.dropWhile isNameChar with
  | nil =>
    have own : name? stop cs = none := by
      simp only [name?, dropped]
      cases cs.takeWhile isNameChar <;> rfl
    rw [own]
    apply Agree.crossed
    intro x after found
    have inside : (cs ++ ending).dropWhile isNameChar <:+ ending := by
      rw [List.dropWhile_append, dropped]
      exact List.dropWhile_suffix _
    simp only [name?] at found
    split at found
    · rename_i _ _ _ c others rest
      rw [rest] at inside
      split at found
      · cases found; exact inside.length_le
      · cases found
    · cases found
  | cons c others =>
    have drop : (cs ++ ending).dropWhile isNameChar =
      c :: (others ++ ending) := by simp [List.dropWhile_append, dropped]
    have take := takeWhile_ending (p := isNameChar) cs (by simp [dropped])
    simp only [name?, drop, take, dropped]
    cases cs.takeWhile isNameChar with
    | nil => exact .failed
    | cons d name =>
      dsimp only
      split
      · exact .kept
      · exact .failed

theorem leaves_leastBound : Leaves leastBound := by
  intro cs x rest found
  unfold leastBound at found
  split at found
  · cases found; exact List.suffix_refl _
  · exact leaves_decimal _ _ _ found

theorem leastBound_exact : Exact leastBound := by
  intro cs
  cases cs with
  | nil => rfl
  | cons c others =>
    by_cases comma : c = ','
    · subst comma; rfl
    · have other (rest : List Char) : leastBound (c :: rest) = decimal? (c :: rest) := by simp [leastBound, comma]
      rw [List.cons_append, other, other, ← List.cons_append, decimal_exact]

theorem leaves_mostBound : Leaves fun cs => some (mostBound cs) := by
  intro cs x rest found
  simp only [mostBound, Option.some.injEq] at found
  split at found
  · cases found; exact leaves_decimal _ _ _ ‹_›
  · cases found; exact List.suffix_refl _

theorem mostBound_exact : Exact fun cs => some (mostBound cs) := by
  intro cs
  simp only [mostBound, decimal_exact cs]
  cases decimal? cs <;> rfl

def closes {α : Type} (c : Char) (x : α) : Stepper α := .onHead c (.done x) .fail

theorem good_closes {α : Type} {c : Char} (other : c ≠ ')') (x : α) : Good limit longest 0 (closes c x) (closes c x) :=
  good_onHead other ((good_done x).mono (Nat.le_refl _) (by decide)) good_fail

def most (least : Nat) : Stepper (Nat × Option Nat) :=
  skipped.bind fun _ => (Stepper.lift fun cs => some (mostBound cs)).bind fun most => skipped.bind fun _ =>
    closes '}' (least, most)

def boundsBehind (least : Nat) : Stepper (Nat × Option Nat) :=
  .onHead '}' (.done (least, bound least)) (.onHead ',' (most least) .fail)

def bounds : Stepper (Nat × Option Nat) :=
  skipped.bind fun _ => (Stepper.lift leastBound).bind fun least => skipped.bind fun _ => boundsBehind least

theorem good_leastBound : Good limit longest 0 (Stepper.lift leastBound) (Stepper.lift leastBound) :=
  good_lift leaves_leastBound leastBound_exact.agree

theorem good_mostBound : Good limit longest 0 (Stepper.lift fun cs => some (mostBound cs))
    (Stepper.lift fun cs => some (mostBound cs)) :=
  good_lift leaves_mostBound mostBound_exact.agree

theorem good_most (least : Nat) : Good limit longest 0 (most least) (most least) :=
  (good_skipped _ _).bind fun _ => (good_mostBound _ _).bind fun _ => (good_skipped _ _).bind fun _ =>
    good_closes _ _ (by decide) _

theorem good_bounds : Good limit longest 0 bounds bounds := by
  refine (good_skipped _ _).bind fun _ => (good_leastBound _ _).bind fun least =>
    (good_skipped _ _).bind fun _ => good_onHead (by decide) ((good_done _).mono (Nat.le_refl _) (by decide)) ?_
  exact good_onHead (by decide) ((good_most limit _ least).mono (Nat.le_refl _) (by decide)) good_fail

theorem leaves_skipped (reading : Reading) : Leaves (skipped reading) := (good_skipped 0 0).leaves reading

theorem firm_most (least : Nat) : Firm (most least) := by
  have shut (bound : Option Nat) : Sealed (skipped.bind fun _ => closes '}' (least, bound)) :=
    .bind leaves_skipped fun _ => .when (by decide) sealed_fail
  have firm (bound : Option Nat) : Firm (skipped.bind fun _ => closes '}' (least, bound)) :=
    .bind (good_skipped 0) (fun _ => .when (by decide) (fun _ => firm_done _) firm_fail) fun _ =>
      .when (by decide) sealed_fail
  exact .bind (good_skipped 0) (fun _ => .bind (good_mostBound 0) firm shut) fun _ =>
    .bind (good_mostBound 0 0).leaves shut

theorem firm_bounds : Firm bounds := by
  have shut (least : Nat) : Sealed (boundsBehind least) := .when (by decide) (.when (by decide) sealed_fail)
  have firm (least : Nat) : Firm (boundsBehind least) :=
    .when (by decide) (fun _ => firm_done _) (.when (by decide) (fun _ => firm_most least) firm_fail)
  have behind (least : Nat) : Sealed (skipped.bind fun _ => boundsBehind least) :=
    .bind leaves_skipped fun _ => shut least
  exact .bind (good_skipped 0) (fun _ => .bind (good_leastBound 0)
    (fun least => .bind (good_skipped 0) (fun _ => firm least) fun _ => shut least) behind)
    fun _ => .bind (good_leastBound 0 0).leaves behind

theorem boundsBehind_eq (least : Nat) (reading : Reading) (cs : List Char) : boundsBehind least reading cs =
    (boundsFrom reading.flags.spaced least cs).map fun p => (((p.1, p.2.1), reading), p.2.2) := by
  fun_cases boundsFrom reading.flags.spaced least cs with
  | case1 rest => rfl
  | case2 rest =>
    show most least reading rest = _
    simp only [most, Stepper.bind, skipped_eq, Option.bind_map, Function.comp_def, Option.map_bind, Option.bind_eq_bind]
    congr 1
    funext cs
    simp only [Stepper.lift, Option.map_some, Option.bind_some]
    congr 1
    funext left
    cases left with
    | nil => rfl
    | cons c left =>
      by_cases brace : c = '}'
      · subst brace; rfl
      · simp [closes, onHead_cons, brace, Stepper.fail]
  | case3 cs brace comma =>
    cases cs with
    | nil => rfl
    | cons c rest =>
      have not_brace : c ≠ '}' := fun same => brace rest (by rw [same])
      have not_comma : c ≠ ',' := fun same => comma rest (by rw [same])
      simp [boundsBehind, onHead_cons, not_brace, not_comma, Stepper.fail]

theorem bounds_eq (reading : Reading) (cs : List Char) : bounds reading cs =
    (bounds? reading.flags.spaced cs).map fun p => (((p.1, p.2.1), reading), p.2.2) := by
  simp only [bounds, bounds?, Stepper.bind, skipped_eq, Stepper.lift, boundsBehind_eq, Option.bind_map,
    Function.comp_def, Option.bind_eq_bind, Option.map_bind]

end
end RepositoryAccess.Lookaround
