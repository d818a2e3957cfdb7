import RepositoryAccess.Proofs.PathShapes

namespace RepositoryAccess.Target
open RepositoryAccess.Text RepositoryAccess.Pattern

-- How a literal can be written in a pattern: a backslash stands before every character that means something
-- there, and may stand before other punctuation.
inductive Escaping : List Char → List Char → Prop
  | nothing : Escaping [] []
  | alone {c : Char} {text literal : List Char} (plain : c ∉ '\\' :: metaCharacters)
      (others : Escaping text literal) : Escaping (c :: text) (c :: literal)
  | escaped {c : Char} {text literal : List Char} (sign : isAsciiPunctuation c = true)
      (others : Escaping text literal) : Escaping ('\\' :: c :: text) (c :: literal)

variable {pattern text literal front back left : List Char} {c : Char}

theorem escaping_of_literal (same : literal? text = some literal) : Escaping text literal := by
  fun_induction literal? text generalizing literal with
  | case1 => cases same; exact .nothing
  | case2 c rest sign ih =>
    obtain ⟨others, found, rfl⟩ := Option.map_eq_some_iff.mp same
    exact .escaped sign (ih found)
  | case3 c rest sign => cases same
  | case4 c rest other special => cases same
  | case5 c rest other plain ih =>
    obtain ⟨others, found, rfl⟩ := Option.map_eq_some_iff.mp same
    exact .alone (by simpa using plain) (ih found)

theorem Escaping.decodes (escaping : Escaping text literal) : literal? text = some literal := by
  induction escaping with
  | nothing => rfl
  | @alone c text literal plain others ih =>
    have other : ∀ d rest, c = '\\' → text = d :: rest → False := by
      intro d rest slash
      exact absurd (by simp [slash]) plain
    have ordinary : ¬ (c == '\\' || metaCharacters.contains c) = true := by simpa using plain
    rw [literal?.eq_3 c text other, if_neg ordinary, ih, Option.map_some]
  | escaped sign others ih => rw [literal?, if_pos sign, ih, Option.map_some]

theorem literal_eq_some_iff : literal? text = some literal ↔ Escaping text literal :=
  ⟨escaping_of_literal, Escaping.decodes⟩

theorem escaping_escaped (literal : List Char) : Escaping (literal.flatMap Lookaround.escaped) literal := by
  have spells := Lookaround.spells_escaped literal
  generalize literal.flatMap Lookaround.escaped = text at spells ⊢
  induction spells with
  | nothing => exact .nothing
  | escaped sign plain others ih => exact .escaped sign ih
  | itself plain others ih => exact .alone (by simpa using plain) ih

theorem stripEnd_iff : stripEnd back text = some left ↔ text = left ++ back := by
  constructor
  · exact stripEnd_eq
  · intro same
    simp [stripEnd, same]

theorem stripStart_iff : stripStart front text = some left ↔ text = front ++ left := by
  constructor
  · exact stripStart_eq
  · intro same
    simp [stripStart, same]

theorem stripBoth_iff : stripBoth front back text = some left ↔ text = front ++ (left ++ back) := by
  constructor
  · exact stripBoth_eq
  · intro same
    rw [stripBoth, stripStart_iff.mpr same, Option.bind_some, stripEnd_iff]

theorem Escaping.head_plain (escaping : Escaping (c :: text) literal) : c ∉ metaCharacters := by
  cases escaping with
  | alone plain others => exact fun special => plain (List.mem_cons_of_mem _ special)
  | escaped sign others => decide

theorem Escaping.not_opened (escaping : Escaping text literal) (filled : text ≠ []) (special : c ∈ metaCharacters)
    (begins : front.head? = some c) (behind ending : List Char) : stripBoth front ending (text ++ behind) = none := by
  apply Option.eq_none_iff_forall_ne_some.mpr
  intro left stripped
  have whole := stripBoth_iff.mp stripped
  cases text with
  | nil => exact filled rfl
  | cons d others =>
    have same : d = c := by
      have heads := congrArg List.head? whole
      simpa [List.head?_append, begins] using heads
    exact escaping.head_plain (same ▸ special)

theorem Escaping.ends (escaping : Escaping text literal) (left : List Char) : text ≠ left ++ matchAll := by
  intro whole
  induction escaping generalizing left with
  | nothing => simp [matchAll] at whole
  | @alone c text literal plain others ih =>
    cases left with
    | nil =>
      have dot : c = '.' := by simpa [matchAll] using congrArg List.head? whole
      rw [dot] at plain
      exact plain (by decide)
    | cons d left => exact ih left (List.cons.inj whole).2
  | @escaped c text literal sign others ih =>
    cases left with
    | nil => simp [matchAll] at whole
    | cons d left =>
      have rest := (List.cons.inj whole).2
      cases left with
      | nil =>
        have star : text = ['*'] := (List.cons.inj rest).2
        rw [star] at others
        exact others.head_plain (by decide)
      | cons d left => exact ih left (List.cons.inj rest).2

theorem Escaping.not_closed (escaping : Escaping text literal) : stripEnd matchAll text = none := by
  apply Option.eq_none_iff_forall_ne_some.mpr
  intro left stripped
  exact escaping.ends left (stripEnd_iff.mp stripped)

namespace Shape

theorem simple_exactly (escaping : Escaping text literal) : simple? text = some (.exactly literal) := by
  by_cases filled : text = []
  · rw [filled] at escaping ⊢
    cases escaping
    rfl
  · have closed := escaping.not_closed
    have excluding :=
      escaping.not_opened filled (c := '(') (by decide) (rfl : excludeOpening.head? = _) [] excludeEnding
    have containing := escaping.not_opened filled (c := '.') (by decide) (rfl : matchAll.head? = _) [] matchAll
    rw [List.append_nil] at excluding containing
    have other : ¬ (text == matchAll) = true := by
      intro same
      rw [beq_iff_eq.mp same] at closed
      cases closed
    simp [simple?, other, excluding, containing, closed, literal_eq_some_iff.mpr escaping]

theorem simple_startingWith (escaping : Escaping text literal) (filled : text ≠ []) :
    simple? (text ++ matchAll) = some (.startingWith literal) := by
  have excluding :=
    escaping.not_opened filled (c := '(') (by decide) (rfl : excludeOpening.head? = _) matchAll excludeEnding
  have containing := escaping.not_opened filled (c := '.') (by decide) (rfl : matchAll.head? = _) matchAll matchAll
  have closed : stripEnd matchAll (text ++ matchAll) = some text := stripEnd_iff.mpr rfl
  have other : ¬ (text ++ matchAll == matchAll) = true := by simpa using filled
  simp [simple?, other, excluding, containing, closed, literal_eq_some_iff.mpr escaping]

theorem simple_containing (escaping : Escaping text literal) :
    simple? (matchAll ++ (text ++ matchAll)) = some (.containing literal) := by
  have excluding : stripBoth excludeOpening excludeEnding (matchAll ++ (text ++ matchAll)) = none := rfl
  have stripped : stripBoth matchAll matchAll (matchAll ++ (text ++ matchAll)) = some text := stripBoth_iff.mpr rfl
  have other : ¬ (matchAll ++ (text ++ matchAll) == matchAll) = true := by simp [matchAll]
  simp [simple?, other, excluding, stripped, literal_eq_some_iff.mpr escaping]

theorem simple_excluding (escaping : Escaping text literal) :
    simple? (excludeOpening ++ (text ++ excludeEnding)) = some (.excluding literal) := by
  have stripped : stripBoth excludeOpening excludeEnding (excludeOpening ++ (text ++ excludeEnding)) = some text :=
    stripBoth_iff.mpr rfl
  have other : ¬ (excludeOpening ++ (text ++ excludeEnding) == matchAll) = true := by simp [matchAll, excludeOpening]
  simp [simple?, other, stripped, literal_eq_some_iff.mpr escaping]

theorem simple_exactly_iff : simple? pattern = some (.exactly literal) ↔ Escaping pattern literal := by
  constructor
  · intro simple
    cases shaped_of_simple simple with
    | exactly same => exact literal_eq_some_iff.mp same
  · exact simple_exactly

theorem simple_startingWith_iff : simple? pattern = some (.startingWith literal) ↔
    literal ≠ [] ∧ ∃ text, Escaping text literal ∧ pattern = text ++ matchAll := by
  constructor
  · intro simple
    cases shaped_of_simple simple with
    | @startingWith text literal same =>
      have escaping := literal_eq_some_iff.mp same
      refine ⟨?_, text, escaping, rfl⟩
      intro empty
      rw [empty] at escaping
      cases escaping
      cases simple
  · intro ⟨filled, text, escaping, whole⟩
    rw [whole]
    apply simple_startingWith escaping
    intro empty
    rw [empty] at escaping
    cases escaping
    exact filled rfl

theorem simple_containing_iff : simple? pattern = some (.containing literal) ↔
    ∃ text, Escaping text literal ∧ pattern = matchAll ++ (text ++ matchAll) := by
  constructor
  · intro simple
    cases shaped_of_simple simple with
    | containing same => exact ⟨_, literal_eq_some_iff.mp same, rfl⟩
  · intro ⟨text, escaping, whole⟩
    rw [whole]
    exact simple_containing escaping

theorem simple_excluding_iff : simple? pattern = some (.excluding literal) ↔
    ∃ text, Escaping text literal ∧ pattern = excludeOpening ++ (text ++ excludeEnding) := by
  constructor
  · intro simple
    cases shaped_of_simple simple with
    | excluding same => exact ⟨_, literal_eq_some_iff.mp same, rfl⟩
  · intro ⟨text, escaping, whole⟩
    rw [whole]
    exact simple_excluding escaping

end Shape

theorem compile_iff_simple {shape : Shape} (cheap : shape.comparesTexts = true) :
    Shape.compile pattern = .ok shape ↔ Shape.simple? pattern = some shape := by
  constructor
  · intro compiled
    exact simple_of_compile compiled cheap
  · intro simple
    rw [Shape.compile, simple]

theorem literal_shapes_exact (pattern literal : List Char) :
    (∃ text, Escaping text literal) ∧
    (Shape.compile pattern = .ok (.exactly literal) ↔ Escaping pattern literal) ∧
    (Shape.compile pattern = .ok (.startingWith literal) ↔
      literal ≠ [] ∧ ∃ text, Escaping text literal ∧ pattern = text ++ matchAll) ∧
    (Shape.compile pattern = .ok (.containing literal) ↔
      ∃ text, Escaping text literal ∧ pattern = matchAll ++ (text ++ matchAll)) ∧
    (Shape.compile pattern = .ok (.excluding literal) ↔
      ∃ text, Escaping text literal ∧ pattern = excludeOpening ++ (text ++ excludeEnding)) := by
  refine ⟨⟨_, escaping_escaped literal⟩, ?_, ?_, ?_, ?_⟩
  · exact (compile_iff_simple rfl).trans Shape.simple_exactly_iff
  · exact (compile_iff_simple rfl).trans Shape.simple_startingWith_iff
  · exact (compile_iff_simple rfl).trans Shape.simple_containing_iff
  · exact (compile_iff_simple rfl).trans Shape.simple_excluding_iff

example : Shape.compile ".*a\\.\\*.*".toList = .ok (.containing "a.*".toList) := rfl

end RepositoryAccess.Target
