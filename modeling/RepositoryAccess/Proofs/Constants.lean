import RepositoryAccess.Permission.Basic

namespace RepositoryAccess

namespace Text

theorem mem_of_mem_trim {c : Char} {cs : List Char} (member : c ∈ trim cs) : c ∈ cs := by
  unfold trim trimEnd trimStart at member
  have kept := List.mem_reverse.mp ((List.dropWhile_sublist _).subset (List.mem_reverse.mp member))
  exact (List.dropWhile_sublist _).subset kept

theorem mem_of_mem_pieces {separator c : Char} {cs piece : List Char}
    (isPiece : piece ∈ pieces separator cs) (member : c ∈ piece) : c ∈ cs := by
  induction cs generalizing piece with
  | nil =>
    rw [pieces_nil, List.mem_singleton] at isPiece
    rw [isPiece] at member
    exact member
  | cons first rest ih =>
    by_cases same : first = separator
    · rw [same, pieces_separator] at isPiece
      rcases List.mem_cons.mp isPiece with rfl | later
      · cases member
      · exact List.mem_cons_of_mem _ (ih later member)
    · rw [pieces_other rest same] at isPiece
      rcases List.mem_cons.mp isPiece with rfl | later
      · rcases List.mem_cons.mp member with rfl | inner
        · exact List.mem_cons_self
        · exact List.mem_cons_of_mem _ (ih List.mem_cons_self inner)
      · exact List.mem_cons_of_mem _ (ih (List.mem_cons_of_mem _ later) member)

end Text

namespace Permission
open RepositoryAccess.Text

variable {text : String}

theorem free_of_plain (plain : isWildcardText text = false) {c : Char} (member : c ∈ text.toList) :
    c ≠ '*' ∧ c ≠ ',' := by
  have checked := List.any_eq_false.mp plain c member
  simpa using checked

theorem readPart_plain {part : List Char} (free : ',' ∉ part) :
    readPart part = some (NameSet.singleton (String.ofList (trim part))) := by
  unfold readPart alternatives
  rw [pieces_whole free]
  cases kept : trim part with
  | nil => simp [kept, free]
  | cons c rest =>
    simp only [List.map_cons, List.map_nil, kept, List.isEmpty_cons, Bool.not_false, List.filter_cons_of_pos,
      List.filter_nil]
    rfl

-- The fields of a text: what stands between its colons, without the blanks around.
def fields (text : String) : List String :=
  (pieces ':' (trim text.toList)).map fun part => String.ofList (trim part)

theorem parts_ofPlain (text : String) :
    (Wildcard.ofPlain text).parts = (fields text).map NameSet.singleton := by
  simp [Wildcard.ofPlain, fields]

theorem readParts_map {α : Type} {items : List α} (piece : α → List Char) (part : α → NameSet)
    (each : ∀ item ∈ items, readPart (piece item) = some (part item)) :
    (items.map piece).mapM readPart = some (items.map part) := by
  induction items with
  | nil => rfl
  | cons item items ih =>
    rw [List.map_cons, List.mapM_cons, each item List.mem_cons_self,
      ih fun other member => each other (List.mem_cons_of_mem _ member)]
    rfl

theorem readParts_plain {parts : List (List Char)} (free : ∀ part ∈ parts, ',' ∉ part) :
    parts.mapM readPart =
      some (parts.map fun part => NameSet.singleton (String.ofList (trim part))) := by
  have read := readParts_map id _ fun part member => readPart_plain (free part member)
  rw [List.map_id] at read
  exact read

theorem parse_plain (plain : isWildcardText text = false) (filled : isBlankText text = false) :
    Wildcard.parse text = .ok (.ofPlain text) := by
  have free : ∀ part ∈ pieces ':' (trim text.toList), ',' ∉ part := fun part isPart comma =>
    (free_of_plain plain (mem_of_mem_trim (mem_of_mem_pieces isPart comma))).2 rfl
  have kept : (trim text.toList).isEmpty = false := filled
  unfold Wildcard.parse
  simp only [kept, readParts_plain free]
  rfl

-- Whether constant or not, the form in which a permission is compared is what its text reads as.
theorem form_eq {permission : Permission} {form : Wildcard} (parsed : parse text = .ok permission)
    (read : Wildcard.parse text = .ok form) : permission.form = form := by
  unfold parse at parsed
  cases blank : isBlankText text with
  | true => simp [blank] at parsed
  | false =>
    cases shape : isWildcardText text with
    | true =>
      rw [blank, shape, read] at parsed
      cases parsed
      rfl
    | false =>
      rw [blank, shape] at parsed
      cases parsed
      exact Except.ok.inj ((parse_plain shape blank).symm.trans read)

theorem constant_of_parse {permission : Permission} (parsed : parse text = .ok permission)
    (constant : permission.isConstant = true) :
    permission = .constant text ∧ isWildcardText text = false := by
  unfold parse at parsed
  cases blank : isBlankText text with
  | true => simp [blank] at parsed
  | false =>
    cases shape : isWildcardText text with
    | true =>
      rw [blank, shape] at parsed
      cases read : Wildcard.parse text with
      | ok form =>
        rw [read] at parsed
        cases parsed
        cases constant
      | error malformed =>
        rw [read] at parsed
        cases parsed
    | false =>
      rw [blank, shape] at parsed
      cases parsed
      exact ⟨rfl, rfl⟩

theorem anything_not_field (plain : isWildcardText text = false) : anything ∉ fields text := by
  intro member
  obtain ⟨part, isPart, same⟩ := List.mem_map.mp member
  have star : '*' ∈ trim part := by
    have chars := congrArg String.toList same
    rw [String.toList_ofList] at chars
    rw [chars]
    exact List.mem_cons_self
  have inText := mem_of_mem_trim (mem_of_mem_pieces isPart (mem_of_mem_trim star))
  exact (free_of_plain plain inText).1 rfl

theorem covers_singletons {own other : String} (plain : own ≠ anything) :
    covers (NameSet.singleton own) (NameSet.singleton other) = decide (own = other) := by
  rw [Bool.eq_iff_iff, decide_eq_true_iff]
  simp only [covers, Bool.or_eq_true, decide_eq_true_eq, NameSet.subset_iff, NameSet.mem_singleton,
    forall_eq]
  rw [or_iff_right (Ne.symm plain)]
  exact eq_comm

-- Plain values are compared field by field; the side that ends first grants the rest.
theorem partsImply_singletons {own : List String} (plain : anything ∉ own) (other : List String) :
    partsImply (own.map NameSet.singleton) (other.map NameSet.singleton) = own.isPrefixOf other := by
  induction own generalizing other with
  | nil => simp [partsImply]
  | cons field own ih =>
    rw [List.mem_cons, not_or] at plain
    cases other with
    | nil => simp [partsImply, NameSet.mem_singleton, plain.1]
    | cons first other =>
      rw [List.map_cons, List.map_cons, partsImply, covers_singletons (Ne.symm plain.1), ih plain.2,
        List.isPrefixOf_cons_cons]
      rfl

theorem ofPlain_implies {asked : String} (plain : isWildcardText text = false) :
    (Wildcard.ofPlain text).implies (.ofPlain asked) = (fields text).isPrefixOf (fields asked) := by
  unfold Wildcard.implies
  rw [parts_ofPlain, parts_ofPlain]
  exact partsImply_singletons (anything_not_field plain) (fields asked)

theorem implies_by_form {held asked : Permission}
    (mixed : ¬ (held.isConstant = true ∧ asked.isConstant = true)) :
    held.implies asked = held.form.implies asked.form := by
  cases held with
  | wildcard form => cases asked <;> rfl
  | constant text =>
    cases asked with
    | wildcard form => rfl
    | constant other => exact absurd ⟨rfl, rfl⟩ mixed

-- Comparing two permissions comes to the same as comparing what their texts read as wildcard
-- permissions, except for two constants of different texts of which the second goes on where the
-- fields of the first end.
theorem implies_eq_wildcard_iff {held asked : String} {p q : Permission} {v w : Wildcard}
    (parsedHeld : parse held = .ok p) (parsedAsked : parse asked = .ok q)
    (readHeld : Wildcard.parse held = .ok v) (readAsked : Wildcard.parse asked = .ok w) :
    p.implies q = v.implies w ↔
      ¬ (p.isConstant = true ∧ q.isConstant = true ∧ held ≠ asked ∧
        fields held <+: fields asked) := by
  rw [← form_eq parsedHeld readHeld, ← form_eq parsedAsked readAsked]
  by_cases constants : p.isConstant = true ∧ q.isConstant = true
  · obtain ⟨rfl, plain⟩ := constant_of_parse parsedHeld constants.1
    obtain ⟨rfl, _⟩ := constant_of_parse parsedAsked constants.2
    show decide (held = asked) = (Wildcard.ofPlain held).implies (.ofPlain asked) ↔ _
    rw [ofPlain_implies plain]
    by_cases same : held = asked
    · have self : (fields asked).isPrefixOf (fields asked) = true :=
        List.isPrefixOf_iff_prefix.mpr (List.prefix_refl _)
      simp [same, self]
    · rw [decide_eq_false same, eq_comm, Bool.eq_false_iff, Ne, List.isPrefixOf_iff_prefix]
      exact ⟨fun apart exception => apart exception.2.2.2, fun alike start => alike ⟨rfl, rfl, same, start⟩⟩
  · have alike := implies_by_form constants
    exact ⟨fun _ exception => constants ⟨exception.1, exception.2.1⟩, fun _ => alike⟩

theorem shorter_constant_refuses :
    let longer := Permission.constant "a:b"
    parse "a" = .ok (.constant "a") ∧ parse "a:b" = .ok longer ∧
      Wildcard.parse "a" = .ok (.ofPlain "a") ∧ Wildcard.parse "a:b" = .ok (.ofPlain "a:b") ∧
        (Permission.constant "a").implies longer ≠
          (Wildcard.ofPlain "a").implies (.ofPlain "a:b") := by
  have parsedHeld : parse "a" = .ok (.constant "a") := rfl
  have parsedAsked : parse "a:b" = .ok (.constant "a:b") := rfl
  have readHeld : Wildcard.parse "a" = .ok (.ofPlain "a") := parse_plain rfl rfl
  have readAsked : Wildcard.parse "a:b" = .ok (.ofPlain "a:b") := parse_plain rfl rfl
  have exception := implies_eq_wildcard_iff parsedHeld parsedAsked readHeld readAsked
  refine ⟨parsedHeld, parsedAsked, readHeld, readAsked, fun alike => exception.mp alike ?_⟩
  exact ⟨rfl, rfl, by decide +kernel, by decide +kernel⟩

end Permission
end RepositoryAccess
