import RepositoryAccess.Proofs.Exclusion

namespace RepositoryAccess.Target
open RepositoryAccess.Text RepositoryAccess.Pattern

variable {pattern text literal path : List Char} {shape : Shape}

def Shape.comparesTexts : Shape → Bool
  | .pattern .. | .lookaround .. => false
  | _ => true

theorem simple_of_compile (compiled : Shape.compile pattern = .ok shape) (cheap : shape.comparesTexts = true) :
    Shape.simple? pattern = some shape := by
  cases simple : Shape.simple? pattern with
  | some found =>
    simp only [Shape.compile, simple, Except.ok.injEq] at compiled
    rw [compiled]
  | none =>
    rw [Shape.compile_general simple, Shape.expression] at compiled
    split at compiled <;> split at compiled <;> cases compiled <;> cases cheap

theorem looksAround_excluding (rest : List Char) : looksAround (excludeOpening ++ rest) = true := by
  simp [looksAround, lookTokens, excludeOpening, occursIn]

theorem Spells.agreeing_excluding (spells : Spells text literal) :
    Agreeing (excludeOpening ++ (text ++ excludeEnding)) (.excluding literal) := by
  have looks := looksAround_excluding (text ++ excludeEnding)
  have accepted : Shape.expression (excludeOpening ++ (text ++ excludeEnding)) =
      .ok (.lookaround (anchor (excludeOpening ++ (text ++ excludeEnding))) (.search (Lookaround.exclusion literal)
        ⟨(Lookaround.exclusionCode literal).toArray, 2⟩)) := by
    simp only [Shape.expression, looks, Lookaround.matcher_exclusion spells, if_true]
  refine ⟨_, accepted, ?_⟩
  intro path line room
  have few : path.length + 1 < Lookaround.wayLimit := room looks
  simp only [Shape.matchesPath, Lookaround.isMatch_exclusion line few]

-- Every shape that compares texts tells paths apart as its pattern does when it is read as an expression.
theorem compiled_shape_agrees_with_expression (compiled : Shape.compile pattern = .ok shape)
    (cheap : shape.comparesTexts = true) (free : edgeFree pattern = true) :
    ∃ engine, Shape.expression pattern = .ok engine ∧
      ∀ path, '\n' ∉ path → RoomFor pattern path → engine.matchesPath path = shape.matchesPath path := by
  have spelled {text literal : List Char} (same : literal? text = some literal) (tail : List Char)
      (free : edgeFree (text ++ tail) = true) : Spells text literal :=
    spells_of_literal same (edgeFree_of_append tail free)
  cases shaped_of_simple (simple_of_compile compiled cheap) with
  | any => exact agreeing_any
  | excluding same => exact (spelled same excludeEnding free).agreeing_excluding
  | containing same => exact (spelled same matchAll free).agreeing_containing
  | startingWith same => exact (spelled same matchAll free).agreeing_startingWith
  | exactly same => exact (spells_of_literal same free).agreeing_exactly

theorem archives_excluded : Shape.compile "(?!.*\\.jar.*).*".toList = .ok (.excluding ".jar".toList) ∧
    ∃ engine, Shape.expression "(?!.*\\.jar.*).*".toList = .ok engine ∧
      engine.matchesPath "a/b.jar".toList = false ∧ engine.matchesPath "a/bjar".toList = true := by
  have compiled : Shape.compile "(?!.*\\.jar.*).*".toList = .ok (.excluding ".jar".toList) := rfl
  obtain ⟨engine, accepted, same⟩ := compiled_shape_agrees_with_expression compiled rfl (by decide)
  refine ⟨compiled, engine, accepted, ?_, ?_⟩
  · rw [same _ (by decide) fun _ => by decide]
    decide
  · rw [same _ (by decide) fun _ => by decide]
    decide

example : ∃ shape engine, Shape.compile "\\<a".toList = .ok shape ∧ Shape.expression "\\<a".toList = .ok engine ∧
    shape.matchesPath "<a".toList = true ∧ engine.matchesPath "<a".toList = false :=
  ⟨_, _, rfl, rfl, by decide, by decide⟩

end RepositoryAccess.Target
