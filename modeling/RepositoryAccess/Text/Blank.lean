namespace RepositoryAccess.Text

-- The ranges of `White_Space`: tab to carriage return, space, next line, the no-break, ogham,
-- typographic and ideographic spaces, and the two separators.
def isBlank (c : Char) : Bool :=
  let n := c.toNat
  (9 ≤ n && n ≤ 13) || n == 0x20 || n == 0x85 || n == 0xA0 || n == 0x1680 ||
    (0x2000 ≤ n && n ≤ 0x200A) || n == 0x2028 || n == 0x2029 || n == 0x202F || n == 0x205F ||
    n == 0x3000

def trimStart (cs : List Char) : List Char := cs.dropWhile isBlank

def trimEnd (cs : List Char) : List Char := (cs.reverse.dropWhile isBlank).reverse

def trim (cs : List Char) : List Char := trimEnd (trimStart cs)

def trimText (text : String) : String := String.ofList (trim text.toList)

def isBlankText (text : String) : Bool := (trim text.toList).isEmpty

theorem trimStart_eq_nil (cs : List Char) : trimStart cs = [] ↔ ∀ c ∈ cs, isBlank c = true := by
  induction cs with
  | nil => simp [trimStart]
  | cons c rest ih =>
    by_cases blank : isBlank c = true
    · have skipped : trimStart (c :: rest) = trimStart rest := by
        simp [trimStart, blank]
      rw [skipped, ih]
      simp [blank]
    · simp [trimStart, blank]

theorem trim_eq_nil (cs : List Char) : trim cs = [] ↔ ∀ c ∈ cs, isBlank c = true := by
  have reversed : trimEnd (trimStart cs) = [] ↔ trimStart cs = [] := by
    refine ⟨fun ended => ?_, fun nothing => by simp [nothing, trimEnd]⟩
    have all := (trimStart_eq_nil _).mp (List.reverse_eq_nil_iff.mp ended)
    cases kept : trimStart cs with
    | nil => rfl
    | cons c rest =>
      have first : isBlank c = false := by
        have := List.head?_dropWhile_not isBlank cs
        rw [show cs.dropWhile isBlank = c :: rest from kept] at this
        simpa using this
      have := all c (by simp [kept])
      simp [first] at this
  exact reversed.trans (trimStart_eq_nil cs)

-- No blank stands at either end.
structure Tight (cs : List Char) : Prop where
  first : ∀ c, cs.head? = some c → isBlank c = false
  last : ∀ c, cs.getLast? = some c → isBlank c = false

variable {cs : List Char}

theorem trimStart_same (first : ∀ c, cs.head? = some c → isBlank c = false) : trimStart cs = cs := by
  cases cs with
  | nil => rfl
  | cons c rest => exact List.dropWhile_cons_of_neg (by simp [first c rfl])

theorem trimStart_first (cs : List Char) : ∀ c, (trimStart cs).head? = some c → isBlank c = false := by
  intro c isFirst
  have kept := List.head?_dropWhile_not isBlank cs
  rw [show (cs.dropWhile isBlank).head? = some c from isFirst] at kept
  simpa using kept

theorem Tight.trim (tight : Tight cs) : trim cs = cs := by
  have reversed : trimStart cs.reverse = cs.reverse := by
    apply trimStart_same
    intro c isLast
    rw [List.head?_reverse] at isLast
    exact tight.last c isLast
  rw [Text.trim, trimStart_same tight.first]
  show (trimStart cs.reverse).reverse = cs
  rw [reversed, List.reverse_reverse]

theorem trim_tight (cs : List Char) : Tight (trim cs) := by
  have ending : trimEnd (trimStart cs) <+: trimStart cs := by
    have behind := List.dropWhile_suffix isBlank (l := (trimStart cs).reverse)
    have front := List.reverse_prefix.mpr behind
    rw [List.reverse_reverse] at front
    exact front
  refine ⟨?_, ?_⟩
  · intro c isFirst
    obtain ⟨rest, whole⟩ := ending
    apply trimStart_first cs
    rw [← whole, List.head?_append, show (trimEnd (trimStart cs)).head? = some c from isFirst]
    rfl
  · intro c isLast
    apply trimStart_first (trimStart cs).reverse
    rw [← isLast]
    exact (List.getLast?_reverse).symm

theorem trim_trim (cs : List Char) : trim (trim cs) = trim cs := (trim_tight cs).trim

theorem tight_iff : Tight cs ↔ trim cs = cs := ⟨Tight.trim, fun same => same ▸ trim_tight cs⟩

instance (cs : List Char) : Decidable (Tight cs) := decidable_of_iff _ tight_iff.symm

theorem mem_trim {c : Char} (member : c ∈ cs) (visible : isBlank c = false) : c ∈ trim cs := by
  have kept : ∀ {cs : List Char}, c ∈ cs → c ∈ trimStart cs := by
    intro cs member
    rw [← List.takeWhile_append_dropWhile (p := isBlank) (l := cs)] at member
    refine (List.mem_append.mp member).resolve_left fun skipped => ?_
    have blank : isBlank c = true := List.all_eq_true.mp List.all_takeWhile c skipped
    rw [visible] at blank
    cases blank
  exact List.mem_reverse.mpr (kept (List.mem_reverse.mpr (kept member)))

end RepositoryAccess.Text
