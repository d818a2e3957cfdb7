import Mathlib.Data.Nat.Digits.Defs
import RepositoryAccess.Settings.Load

namespace RepositoryAccess.Settings
open RepositoryAccess.Text

def digitOf (c : Char) : Nat := c.toNat - '0'.toNat

structure Digits (cs : List Char) (value : Nat) : Prop where
  nonempty : cs ≠ []
  decimal : ∀ c ∈ cs, c.isDigit = true
  total : value = Nat.ofDigits 10 (cs.map digitOf).reverse
  fits : value < wordEnd

def Numeral (cs : List Char) (value : Nat) : Prop := Digits cs value ∨ ∃ digits, cs = '+' :: digits ∧ Digits digits value

variable {cs digits : List Char} {c : Char} {value result : Nat}

theorem readDigits_cons (digit : c.isDigit = true) : readDigits value (c :: cs) =
    if value * 10 + digitOf c < wordEnd then readDigits (value * 10 + digitOf c) cs else .error .tooLarge := by
  rw [readDigits, if_pos digit]
  rfl

-- Reading on from a number appends digits to it.  Numbers only grow on the way, so that none is too large if the
-- last one is not.
theorem readDigits_ok_iff (fits : value < wordEnd) : readDigits value cs = .ok result ↔
    (∀ c ∈ cs, c.isDigit = true) ∧
      result = Nat.ofDigits 10 (cs.map digitOf).reverse + 10 ^ cs.length * value ∧ result < wordEnd := by
  induction cs generalizing value with
  | nil =>
    simp only [readDigits, Except.ok.injEq, List.not_mem_nil, false_imp_iff, implies_true, true_and, List.map_nil,
      List.reverse_nil, Nat.ofDigits_nil, List.length_nil, pow_zero, one_mul, zero_add]
    exact ⟨fun same => ⟨same.symm, same ▸ fits⟩, fun same => same.1.symm⟩
  | cons c cs ih =>
    have total : Nat.ofDigits 10 ((c :: cs).map digitOf).reverse + 10 ^ (c :: cs).length * value =
        Nat.ofDigits 10 (cs.map digitOf).reverse + 10 ^ cs.length * (value * 10 + digitOf c) := by
      rw [List.map_cons, Nat.ofDigits_reverse_cons, List.length_map, List.length_cons]
      ring
    rw [List.forall_mem_cons, total]
    by_cases digit : c.isDigit = true
    · by_cases next : value * 10 + digitOf c < wordEnd
      · rw [readDigits_cons digit, if_pos next, ih next]
        simp only [digit, true_and]
      · rw [readDigits_cons digit, if_neg next]
        refine iff_of_false nofun fun ⟨_, same, small⟩ => next ?_
        have grows : value * 10 + digitOf c ≤ 10 ^ cs.length * (value * 10 + digitOf c) :=
          Nat.le_mul_of_pos_left _ (Nat.pow_pos (by decide))
        omega
    · rw [readDigits, if_neg digit]
      exact iff_of_false nofun fun all => digit all.1.1

theorem readDigits_zero (nonempty : cs ≠ []) : readDigits 0 cs = .ok value ↔ Digits cs value := by
  rw [readDigits_ok_iff (by decide), mul_zero, add_zero]
  exact ⟨fun ⟨all, same, fits⟩ => ⟨nonempty, all, same, fits⟩, fun spelt => ⟨spelt.decimal, spelt.total, spelt.fits⟩⟩

theorem not_digits_plus : ¬ Digits ('+' :: digits) value :=
  fun spelt => absurd (spelt.decimal '+' List.mem_cons_self) (by decide)

theorem readNumber_ok_iff : readNumber cs = .ok value ↔ Numeral cs value := by
  unfold Numeral
  cases cs with
  | nil =>
    refine iff_of_false nofun ?_
    rintro (spelt | ⟨_, same, _⟩)
    · exact spelt.nonempty rfl
    · cases same
  | cons c rest =>
    by_cases plus : c = '+'
    · subst plus
      simp only [not_digits_plus, false_or, List.cons.injEq, true_and, exists_eq_left']
      cases rest with
      | nil => exact iff_of_false nofun fun spelt => spelt.nonempty rfl
      | cons first rest => exact readDigits_zero (List.cons_ne_nil _ _)
    · have unsigned : readNumber (c :: rest) = readDigits 0 (c :: rest) := by
        unfold readNumber
        split <;> simp_all
      rw [unsigned, readDigits_zero (List.cons_ne_nil _ _)]
      refine (or_iff_left ?_).symm
      rintro ⟨_, same, _⟩
      exact plus (List.cons.inj same).1

theorem numeral_unique (left : Numeral cs value) (right : Numeral cs result) : value = result :=
  Except.ok.inj ((readNumber_ok_iff.mpr left).symm.trans (readNumber_ok_iff.mpr right))

def AlikeBeyond (before after : Settings) : Prop :=
  ∃ missing refresh grace, after =
    { before with missingRoles := missing, refreshMilliseconds := refresh, graceMilliseconds := grace }

namespace Variable

variable {named other : Variable} {settings before after : Settings}

theorem read_write (settings : Settings) (value : Nat) (named : Variable) :
    named.read (named.write settings value) = value := by cases named <;> rfl

theorem read_write_other (different : other ≠ named) (settings : Settings) (value : Nat) :
    other.read (named.write settings value) = other.read settings := by
  cases named <;> cases other <;> simp [read, write] at different ⊢

theorem write_alike (alike : AlikeBeyond (named.write settings value) after) : AlikeBeyond settings after := by
  obtain ⟨missing, refresh, grace, rfl⟩ := alike
  cases named <;> exact ⟨missing, refresh, grace, rfl⟩

theorem mem_all (named : Variable) : named ∈ all := by cases named <;> decide

end Variable

theorem AlikeBeyond.eq {before after : Settings} (alike : AlikeBeyond before after)
    (same : ∀ named : Variable, named.read after = named.read before) : after = before := by
  obtain ⟨missing, refresh, grace, rfl⟩ := alike
  have first : missing = before.missingRoles := same .missingRoles
  have second : refresh = before.refreshMilliseconds := same .refreshMilliseconds
  have third : grace = before.graceMilliseconds := same .graceMilliseconds
  rw [first, second, third]

-- Of these variables each that is set has given its number, and nothing else has changed.
structure Overridden (environment : Environment) (listed : List Variable) (before after : Settings) : Prop where
  given : ∀ named ∈ listed, ∀ text, environment named = some text → Numeral (trim text.toList) (named.read after)
  kept : ∀ named, (named ∈ listed → environment named = none) → named.read after = named.read before
  beyond : AlikeBeyond before after

variable {environment : Environment} {listed : List Variable} {named : Variable} {before after : Settings}
  {text : String}

namespace Overridden

theorem nothing (settings : Settings) : Overridden environment [] settings settings :=
  ⟨nofun, fun _ _ => rfl, ⟨_, _, _, rfl⟩⟩

theorem unset (absent : environment named = none) (later : Overridden environment listed before after) :
    Overridden environment (named :: listed) before after where
  given := List.forall_mem_cons.mpr ⟨fun _ isSet => (nomatch absent.symm.trans isSet), later.given⟩
  kept other untouched := later.kept other fun member => untouched (List.mem_cons_of_mem _ member)
  beyond := later.beyond

theorem set (isSet : environment named = some text) (numeral : Numeral (trim text.toList) value)
    (later : Overridden environment listed (named.write before value) after) :
    Overridden environment (named :: listed) before after where
  given := by
    refine List.forall_mem_cons.mpr ⟨fun other isOther => ?_, later.given⟩
    obtain rfl := Option.some.inj (isSet.symm.trans isOther)
    by_cases again : named ∈ listed
    · exact later.given named again text isSet
    · rw [later.kept named fun member => absurd member again, Variable.read_write]
      exact numeral
  kept other untouched := by
    have different : other ≠ named := by
      rintro rfl
      exact nomatch isSet.symm.trans (untouched List.mem_cons_self)
    rw [later.kept other fun member => untouched (List.mem_cons_of_mem _ member), Variable.read_write_other different]
  beyond := Variable.write_alike later.beyond

theorem eq_iff (overridden : Overridden environment listed before after) : after = before ↔
    ∀ named ∈ listed, ∀ text, environment named = some text → Numeral (trim text.toList) (named.read before) := by
  constructor
  · rintro rfl
    exact overridden.given
  · intro held
    refine overridden.beyond.eq fun named => ?_
    cases isSet : environment named with
    | none => exact overridden.kept named fun _ => isSet
    | some text =>
      by_cases member : named ∈ listed
      · exact numeral_unique (overridden.given named member text isSet) (held named member text isSet)
      · exact overridden.kept named fun among => absurd among member

end Overridden

-- How far it comes: through all variables, or up to the first whose text is no number.
inductive Overrides (environment : Environment) (listed : List Variable) (before : Settings) :
    Except Misread Unit × Settings → Prop
  | all {after : Settings} : Overridden environment listed before after →
      Overrides environment listed before (.ok (), after)
  | upTo {earlier later : List Variable} {misread : Misread} {text : String} {after : Settings} :
      listed = earlier ++ misread.named :: later → environment misread.named = some text →
      readNumber (trim text.toList) = .error misread.cause → Overridden environment earlier before after →
      Overrides environment listed before (.error misread, after)

namespace Overrides
variable {reached : Except Misread Unit × Settings}

theorem unset (absent : environment named = none) (later : Overrides environment listed before reached) :
    Overrides environment (named :: listed) before reached := by
  cases later with
  | all overridden => exact .all (overridden.unset absent)
  | upTo parted isSet misread overridden =>
    exact .upTo (congrArg (named :: ·) parted) isSet misread (overridden.unset absent)

theorem set (isSet : environment named = some text) (numeral : Numeral (trim text.toList) value)
    (later : Overrides environment listed (named.write before value) reached) :
    Overrides environment (named :: listed) before reached := by
  cases later with
  | all overridden => exact .all (overridden.set isSet numeral)
  | upTo parted isNext misread overridden =>
    exact .upTo (congrArg (named :: ·) parted) isNext misread (overridden.set isSet numeral)

end Overrides

theorem overrideAll_overrides (environment : Environment) (listed : List Variable) (settings : Settings) :
    Overrides environment listed settings (overrideAll environment listed settings) := by
  induction listed generalizing settings with
  | nil => exact .all (.nothing settings)
  | cons named listed ih =>
    unfold overrideAll
    cases isSet : environment named with
    | none => exact (ih settings).unset isSet
    | some text =>
      dsimp only
      cases read : readNumber (trim text.toList) with
      | ok value => exact (ih _).set isSet (readNumber_ok_iff.mp read)
      | error cause => exact .upTo (List.nil_append _).symm isSet read (.nothing settings)

theorem parseWithin_overridden (parsed : parseWithin environment text = .ok after) :
    ∃ base, parse text = .ok base ∧ Overridden environment Variable.all base after := by
  unfold parseWithin at parsed
  cases read : parse text with
  | error failure => rw [read] at parsed; cases parsed
  | ok base =>
    have overrides : Overrides environment Variable.all base (base.override environment) := overrideAll_overrides ..
    simp only [read, bind, Except.bind] at parsed
    generalize base.override environment = reached at overrides parsed
    cases overrides with
    | upTo => cases parsed
    | all overridden => cases parsed; exact ⟨base, rfl, overridden⟩

theorem load_overridden {path : String} {contents : Option String}
    (loaded : load path contents environment = .ok after) :
    ∃ text base, contents = some text ∧ parse text = .ok base ∧ Overridden environment Variable.all base after ∧
      after.validate = .ok () := by
  cases contents with
  | none => cases loaded
  | some text =>
    cases parsed : parseWithin environment text with
    | error failure =>
      rw [load, parsed] at loaded
      cases loaded
    | ok settings =>
      obtain ⟨base, read, overridden⟩ := parseWithin_overridden parsed
      rw [load, parsed] at loaded
      cases valid : settings.validate with
      | error reason =>
        simp only [bind, Except.bind, valid] at loaded
        cases loaded
      | ok =>
        simp only [bind, Except.bind, valid] at loaded
        cases loaded
        exact ⟨text, base, rfl, read, overridden, valid⟩

-- Overriding succeeds just if every variable that is set gives a number, and then each of them has.  Otherwise the
-- first misread one is told; those before it have given theirs, and all else is as it was.
theorem override_reaches_first_misread (settings : Settings) (environment : Environment) :
    let reached := settings.override environment
    (reached.1 = .ok () ↔
      ∀ named text, environment named = some text → ∃ value, Numeral (trim text.toList) value) ∧
    (reached.1 = .ok () → Overridden environment Variable.all settings reached.2) ∧
    ∀ misread, reached.1 = .error misread →
      ∃ earlier later text, Variable.all = earlier ++ misread.named :: later ∧
        environment misread.named = some text ∧ readNumber (trim text.toList) = .error misread.cause ∧
        Overridden environment earlier settings reached.2 ∧
        (reached.2 = settings ↔ ∀ named ∈ earlier, ∀ text, environment named = some text →
          Numeral (trim text.toList) (named.read settings)) := by
  intro reached
  have overrides : Overrides environment Variable.all settings reached := overrideAll_overrides ..
  generalize reached = reached at overrides
  cases overrides with
  | all overridden =>
    refine ⟨iff_of_true rfl fun named text isSet => ?_, fun _ => overridden, nofun⟩
    exact ⟨_, overridden.given named named.mem_all text isSet⟩
  | @upTo earlier later misread text after parted isSet read overridden =>
    refine ⟨iff_of_false nofun fun all => ?_, nofun, ?_⟩
    · obtain ⟨value, numeral⟩ := all misread.named text isSet
      exact nomatch read.symm.trans (readNumber_ok_iff.mpr numeral)
    · rintro _ ⟨rfl⟩
      exact ⟨earlier, later, text, parted, isSet, read, overridden, overridden.eq_iff⟩

def rangeMissed : Environment
  | .missingRoles => some "\u3000+10"
  | .refreshMilliseconds => none
  | .graceMilliseconds => some "18446744073709551616"

def allRead : Environment
  | .missingRoles => none
  | .refreshMilliseconds => some " 0250\u00a0"
  | .graceMilliseconds => some "0"

theorem same_number_changes_nothing :
    let settings : Settings := { missingRoles := 10, realmName := "Custom" }
    let reached := settings.override rangeMissed
    reached.1 = .error ⟨.graceMilliseconds, .tooLarge⟩ ∧ reached.2 = settings ∧
    (settings.override allRead).1 = .ok () ∧
    Overridden allRead Variable.all settings (settings.override allRead).2 ∧
    (settings.override allRead).2 = { settings with refreshMilliseconds := 250, graceMilliseconds := 0 } := by
  intro settings reached
  have misread : reached.1 = .error ⟨.graceMilliseconds, .tooLarge⟩ := by decide +kernel
  have succeeded : (settings.override allRead).1 = .ok () := by decide +kernel
  obtain ⟨_, _, stops⟩ := override_reaches_first_misread settings rangeMissed
  obtain ⟨_, overrides, _⟩ := override_reaches_first_misread settings allRead
  obtain ⟨earlier, later, text, parted, _, _, _, same⟩ := stops _ misread
  refine ⟨misread, same.mpr fun named member text isSet => ?_, succeeded, overrides succeeded, by decide +kernel⟩
  have before : named = .missingRoles := by
    cases named with
    | missingRoles => rfl
    | refreshMilliseconds => cases isSet
    | graceMilliseconds =>
      have once : Variable.all.Nodup := by decide
      rw [parted] at once
      exact absurd rfl ((List.nodup_append.mp once).2.2 _ member _ List.mem_cons_self)
  subst before
  cases isSet
  exact readNumber_ok_iff.mp (by decide +kernel)

def halfRead : Environment
  | .missingRoles => some "10"
  | .refreshMilliseconds => some "soon"
  | .graceMilliseconds => none

theorem misread_leaves_earlier_numbers :
    override {} halfRead = (.error ⟨.refreshMilliseconds, .badDigit⟩, { missingRoles := 10 }) ∧
    ¬ ∀ settings environment,
      ((override settings environment).1 = .ok () →
        Overridden environment Variable.all settings (override settings environment).2) ∧
      ∀ misread, (override settings environment).1 = .error misread → (override settings environment).2 = settings := by
  have reached : override {} halfRead = (.error ⟨.refreshMilliseconds, .badDigit⟩, { missingRoles := 10 }) := by
    decide +kernel
  refine ⟨reached, fun whole => ?_⟩
  have unchanged := (whole {} halfRead).2 ⟨.refreshMilliseconds, .badDigit⟩ (congrArg Prod.fst reached)
  rw [reached] at unchanged
  exact absurd unchanged (by decide)

end RepositoryAccess.Settings
