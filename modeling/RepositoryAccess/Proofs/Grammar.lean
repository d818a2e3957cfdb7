import Mathlib.Data.List.Forall2
import RepositoryAccess.Proofs.Constants

namespace RepositoryAccess

namespace Text

theorem join_tight {separator : Char} (solid : isBlank separator = false) {parts : List (List Char)}
    (all : ∀ part ∈ parts, Tight part) : Tight (join separator parts) := by
  induction parts with
  | nil => exact ⟨nofun, nofun⟩
  | cons part parts ih =>
    cases parts with
    | nil => exact all part List.mem_cons_self
    | cons next parts =>
      have front := all part List.mem_cons_self
      have behind := ih fun other member => all other (List.mem_cons_of_mem _ member)
      refine ⟨?_, ?_⟩
      · intro c isFirst
        cases part with
        | nil => cases isFirst; exact solid
        | cons d rest => exact front.first c isFirst
      · intro c isLast
        unfold join at isLast
        rw [List.getLast?_append, List.getLast?_cons] at isLast
        cases ended : (join separator (next :: parts)).getLast? with
        | none => simp [ended] at isLast; rw [← isLast]; exact solid
        | some d => simp [ended] at isLast; rw [← isLast]; exact behind.last d ended

end Text

namespace Permission
open RepositoryAccess.Text

variable {piece : List Char} {part : NameSet} {parts : List NameSet} {text : String}

-- A piece that holds a comma and nothing besides commas and blanks.
def Bare (piece : List Char) : Prop := ',' ∈ piece ∧ ∀ c ∈ piece, c = ',' ∨ isBlank c = true

def Admissible (text : String) : Prop :=
  (∃ c ∈ text.toList, isBlank c = false) ∧ ∀ piece ∈ pieces ':' (trim text.toList), ¬ Bare piece

-- The part that a piece between colons stands for.
inductive Denotes (piece : List Char) : NameSet → Prop
  | nothing : (∀ c ∈ piece, isBlank c = true) → Denotes piece (.singleton "")
  | names {part : NameSet} : (∃ c ∈ piece, isBlank c = false) →
      (∀ name, name ∈ part ↔ ∃ inner ∈ pieces ',' piece, trim inner ≠ [] ∧
        name = String.ofList (trim inner)) → Denotes piece part

-- No part is without alternatives, no alternative could be taken for several or loses anything when it is
-- trimmed, and the empty alternative stands alone.
structure Proper (part : NameSet) : Prop where
  filled : ∃ name, name ∈ part
  plain : ∀ name ∈ part, ':' ∉ name.toList ∧ ',' ∉ name.toList ∧ Tight name.toList
  alone : "" ∈ part → part = .singleton ""

def renderPart (part : NameSet) : List Char := join ',' (part.names.map String.toList)

def render (parts : List NameSet) : String := String.ofList (join ':' (parts.map renderPart))

theorem mem_alternatives (name : String) : name ∈ alternatives piece ↔
    ∃ inner ∈ pieces ',' piece, trim inner ≠ [] ∧ name = String.ofList (trim inner) := by
  simp only [alternatives, List.mem_map, List.mem_filter, Bool.not_eq_true', List.isEmpty_eq_false_iff]
  constructor
  · intro ⟨kept, ⟨⟨inner, isPiece, trimmed⟩, filled⟩, same⟩
    exact ⟨inner, isPiece, trimmed ▸ filled, trimmed ▸ same.symm⟩
  · intro ⟨inner, isPiece, filled, same⟩
    exact ⟨trim inner, ⟨⟨inner, isPiece, rfl⟩, filled⟩, same.symm⟩

theorem alternatives_eq_nil :
    alternatives piece = [] ↔ ∀ c ∈ piece, c = ',' ∨ isBlank c = true := by
  rw [List.eq_nil_iff_forall_not_mem]
  constructor
  · intro none_ c member
    by_cases comma : c = ','
    · exact .inl comma
    · obtain ⟨inner, isPiece, within⟩ := exists_piece member comma
      have blank : trim inner = [] := by
        by_contra filled
        exact none_ _ ((mem_alternatives _).mpr ⟨inner, isPiece, filled, rfl⟩)
      exact .inr ((trim_eq_nil inner).mp blank c within)
  · intro all name member
    obtain ⟨inner, isPiece, filled, _⟩ := (mem_alternatives name).mp member
    apply filled
    rw [trim_eq_nil]
    intro c within
    have divided : c ≠ ',' := fun comma => pieces_free ',' piece inner isPiece (comma ▸ within)
    exact (all c (mem_of_mem_pieces isPiece within)).resolve_left divided

theorem readPart_cases (piece : List Char) :
    Bare piece ∧ readPart piece = none ∨
      (∀ c ∈ piece, isBlank c = true) ∧ readPart piece = some (.singleton "") ∨
        alternatives piece ≠ [] ∧ readPart piece = some (.ofList (alternatives piece)) := by
  unfold readPart
  cases found : alternatives piece with
  | cons name names => exact .inr (.inr ⟨List.cons_ne_nil _ _, rfl⟩)
  | nil =>
    have all := alternatives_eq_nil.mp found
    by_cases comma : ',' ∈ piece
    · exact .inl ⟨⟨comma, all⟩, if_pos comma⟩
    · have blank : ∀ c ∈ piece, isBlank c = true :=
        fun c member => (all c member).resolve_left fun same => comma (same ▸ member)
      refine .inr (.inl ⟨blank, ?_⟩)
      rw [(trim_eq_nil piece).mpr blank]
      exact if_neg comma

theorem comma_visible : isBlank ',' = false := rfl

theorem readPart_eq_none : readPart piece = none ↔ Bare piece := by
  constructor
  · intro refused
    rcases readPart_cases piece with ⟨bare, _⟩ | ⟨_, read⟩ | ⟨_, read⟩
    · exact bare
    · rw [refused] at read; cases read
    · rw [refused] at read; cases read
  · intro bare
    rcases readPart_cases piece with ⟨_, refused⟩ | ⟨blank, _⟩ | ⟨filled, _⟩
    · exact refused
    · have comma := blank ',' bare.1
      rw [comma_visible] at comma
      cases comma
    · exact absurd (alternatives_eq_nil.mpr bare.2) filled

theorem readPart_denotes (read : readPart piece = some part) : Denotes piece part := by
  rcases readPart_cases piece with ⟨_, refused⟩ | ⟨blank, same⟩ | ⟨filled, same⟩
  · rw [refused] at read; cases read
  · rw [same] at read
    cases read
    exact .nothing blank
  · rw [same] at read
    cases read
    refine .names ?_ fun name => (NameSet.mem_ofList _ name).trans (mem_alternatives name)
    by_contra blank
    apply filled
    rw [alternatives_eq_nil]
    intro c member
    exact .inr ((Bool.not_eq_false _).mp fun visible => blank ⟨c, member, visible⟩)

theorem Denotes.blank (denotes : Denotes piece part) (empty : "" ∈ part) :
    ∀ c ∈ piece, isBlank c = true := by
  cases denotes with
  | nothing blank => exact blank
  | names _ members =>
    obtain ⟨inner, _, filled, same⟩ := (members "").mp empty
    have chars : [] = (String.ofList (trim inner)).toList := congrArg String.toList same
    exact absurd (String.toList_ofList.symm.trans chars.symm) filled

theorem Denotes.proper (denotes : Denotes piece part) (free : ':' ∉ piece) (divides : ¬ Bare piece) :
    Proper part := by
  have blank := denotes.blank
  cases denotes with
  | nothing =>
    refine ⟨⟨"", (NameSet.mem_singleton _ _).mpr rfl⟩, ?_, fun _ => rfl⟩
    intro name member
    rw [(NameSet.mem_singleton _ _).mp member]
    exact ⟨nofun, nofun, nofun, nofun⟩
  | names visible members =>
    have within : ∀ {inner : List Char} {c : Char}, inner ∈ pieces ',' piece → c ∈ trim inner →
        c ∈ piece := fun isPiece member => mem_of_mem_pieces isPiece (mem_of_mem_trim member)
    refine ⟨?_, ?_, ?_⟩
    · obtain ⟨name, found⟩ : ∃ name, name ∈ alternatives piece := by
        apply List.exists_mem_of_ne_nil
        intro none_
        have all := alternatives_eq_nil.mp none_
        obtain ⟨c, member, isVisible⟩ := visible
        have comma := (all c member).resolve_right (by simp [isVisible])
        exact divides ⟨comma ▸ member, all⟩
      exact ⟨name, (members name).mpr ((mem_alternatives name).mp found)⟩
    · intro name member
      obtain ⟨inner, isPiece, _, same⟩ := (members name).mp member
      rw [same, String.toList_ofList]
      refine ⟨fun colon => free (within isPiece colon), fun comma => ?_, trim_tight inner⟩
      exact pieces_free ',' piece inner isPiece (mem_of_mem_trim comma)
    · intro empty
      obtain ⟨c, member, isVisible⟩ := visible
      rw [blank empty c member] at isVisible
      cases isVisible

theorem Proper.tight (proper : Proper part) : Tight (renderPart part) := by
  apply join_tight comma_visible
  intro chars member
  obtain ⟨name, isName, same⟩ := List.mem_map.mp member
  rw [← same]
  exact (proper.plain name isName).2.2

theorem Proper.colon_free (proper : Proper part) : ':' ∉ renderPart part := by
  intro colon
  rcases mem_join colon with same | ⟨chars, member, inner⟩
  · cases same
  · obtain ⟨name, isName, rfl⟩ := List.mem_map.mp member
    exact (proper.plain name isName).1 inner

theorem alternatives_join {names : List String} (free : ∀ name ∈ names, ',' ∉ name.toList)
    (tight : ∀ name ∈ names, Tight name.toList) (filled : "" ∉ names) (nonempty : names ≠ []) :
    alternatives (join ',' (names.map String.toList)) = names := by
  have divided : ∀ chars ∈ names.map String.toList, ',' ∉ chars := List.forall_mem_map.mpr free
  have kept : names.map (trim ∘ String.toList) = names.map String.toList :=
    List.map_congr_left fun name member => (tight name member).trim
  have visible : (names.map String.toList).filter (!·.isEmpty) = names.map String.toList := by
    rw [List.filter_eq_self]
    intro chars member
    obtain ⟨name, isName, rfl⟩ := List.mem_map.mp member
    have nonblank : name.toList ≠ [] := fun empty => filled (String.toList_eq_nil_iff.mp empty ▸ isName)
    simpa using nonblank
  unfold alternatives
  rw [pieces_join divided (mt List.map_eq_nil_iff.mp nonempty), List.map_map, kept, visible, List.map_map]
  exact (List.map_congr_left fun name _ => String.ofList_toList).trans (List.map_id _)

theorem readPart_join {names : List String} (free : ∀ name ∈ names, ',' ∉ name.toList)
    (tight : ∀ name ∈ names, Tight name.toList) (filled : "" ∉ names) (nonempty : names ≠ []) :
    readPart (join ',' (names.map String.toList)) = some (.ofList names) := by
  unfold readPart
  rw [alternatives_join free tight filled nonempty]
  cases names with
  | nil => exact absurd rfl nonempty
  | cons name names => rfl

theorem ofList_names (part : NameSet) : NameSet.ofList part.names = part :=
  NameSet.ext_mem fun name => NameSet.mem_ofList part.names name

theorem readPart_renderPart (proper : Proper part) : readPart (renderPart part) = some part := by
  by_cases empty : "" ∈ part
  · rw [proper.alone empty]
    rfl
  · have nonempty : part.names ≠ [] := by
      obtain ⟨name, member⟩ := proper.filled
      exact List.ne_nil_of_mem member
    have read := readPart_join (fun name member => (proper.plain name member).2.1)
      (fun name member => (proper.plain name member).2.2) empty nonempty
    rw [ofList_names] at read
    exact read

theorem readParts_eq_none {pieces : List (List Char)} :
    pieces.mapM readPart = none ↔ ∃ piece ∈ pieces, Bare piece := by
  induction pieces with
  | nil => simp
  | cons piece pieces ih =>
    rw [List.mapM_cons]
    cases read : readPart piece with
    | none => exact iff_of_true rfl ⟨piece, List.mem_cons_self, readPart_eq_none.mp read⟩
    | some part =>
      have divides : ¬ Bare piece := fun bare => by
        rw [readPart_eq_none.mpr bare] at read
        cases read
      simp only [List.mem_cons, exists_eq_or_imp, divides, false_or, ← ih]
      cases pieces.mapM readPart <;> simp

theorem readParts_denote {pieces : List (List Char)} (read : pieces.mapM readPart = some parts) :
    List.Forall₂ Denotes pieces parts := by
  induction pieces generalizing parts with
  | nil => cases read; exact .nil
  | cons piece pieces ih =>
    rw [List.mapM_cons] at read
    obtain ⟨part, isPart, rest⟩ := Option.bind_eq_some_iff.mp read
    obtain ⟨others, areOthers, same⟩ := Option.bind_eq_some_iff.mp rest
    cases same
    exact .cons (readPart_denotes isPart) (ih areOthers)

theorem readParts_render (proper : ∀ part ∈ parts, Proper part) :
    (parts.map renderPart).mapM readPart = some parts := by
  have read := readParts_map renderPart id fun part member => readPart_renderPart (proper part member)
  rw [List.map_id] at read
  exact read

structure Canonical (parts : List NameSet) : Prop where
  proper : ∀ part ∈ parts, Proper part
  nonempty : parts ≠ []
  visible : parts ≠ [.singleton ""]

namespace Wildcard

variable {form other : Wildcard}

theorem parse_cases (text : String) :
    (∀ c ∈ text.toList, isBlank c = true) ∧ parse text = .error .blankWildcard ∨
      (∃ c ∈ text.toList, isBlank c = false) ∧
        ((pieces ':' (trim text.toList)).mapM readPart = none ∧
            parse text = .error (.barePart (String.ofList (trim text.toList))) ∨
          ∃ parts, (pieces ':' (trim text.toList)).mapM readPart = some parts ∧
            parse text = .ok ⟨String.ofList (trim text.toList), parts⟩) := by
  unfold parse
  by_cases blank : ∀ c ∈ text.toList, isBlank c = true
  · have nothing := (trim_eq_nil text.toList).mpr blank
    exact .inl ⟨blank, by rw [nothing]; rfl⟩
  · have visible : ∃ c ∈ text.toList, isBlank c = false := by simpa using blank
    have kept : (trim text.toList).isEmpty = false := by
      rw [List.isEmpty_eq_false_iff, Ne, trim_eq_nil]
      exact blank
    refine .inr ⟨visible, ?_⟩
    simp only [kept]
    cases read : (pieces ':' (trim text.toList)).mapM readPart with
    | none => exact .inl ⟨rfl, rfl⟩
    | some parts => exact .inr ⟨parts, rfl, rfl⟩

theorem parse_parts (read : parse text = .ok form) :
    (∃ c ∈ text.toList, isBlank c = false) ∧ form.text = String.ofList (trim text.toList) ∧
      (pieces ':' (trim text.toList)).mapM readPart = some form.parts := by
  rcases parse_cases text with ⟨_, refused⟩ | ⟨visible, ⟨_, refused⟩ | ⟨parts, areParts, same⟩⟩
  · rw [refused] at read; cases read
  · rw [refused] at read; cases read
  · rw [same] at read
    cases read
    exact ⟨visible, rfl, areParts⟩

theorem parse_iff_admissible : (∃ form, parse text = .ok form) ↔ Admissible text := by
  constructor
  · intro ⟨form, read⟩
    obtain ⟨visible, _, areParts⟩ := parse_parts read
    refine ⟨visible, fun piece isPiece bare => ?_⟩
    rw [readParts_eq_none.mpr ⟨piece, isPiece, bare⟩] at areParts
    cases areParts
  · intro ⟨visible, divides⟩
    obtain ⟨c, member, isVisible⟩ := visible
    rcases parse_cases text with ⟨blank, _⟩ | ⟨_, ⟨refused, _⟩ | ⟨parts, _, read⟩⟩
    · rw [blank c member] at isVisible; cases isVisible
    · obtain ⟨piece, isPiece, bare⟩ := readParts_eq_none.mp refused
      exact absurd bare (divides piece isPiece)
    · exact ⟨_, read⟩

theorem parse_denotes (read : parse text = .ok form) :
    List.Forall₂ Denotes (pieces ':' (trim text.toList)) form.parts :=
  readParts_denote (parse_parts read).2.2

theorem parse_canonical (read : parse text = .ok form) : Canonical form.parts := by
  have denote := parse_denotes read
  obtain ⟨c, member, isVisible⟩ := (parse_parts read).1
  have divides := (parse_iff_admissible.mp ⟨form, read⟩).2
  refine ⟨?_, ?_, ?_⟩
  · intro part isPart
    obtain ⟨i, within, here⟩ := List.getElem_of_mem isPart
    have sameLength := denote.length_eq
    have isPiece := List.getElem_mem (l := pieces ':' (trim text.toList)) (sameLength ▸ within)
    have one := denote.get (sameLength ▸ within) within
    rw [List.get_eq_getElem, List.get_eq_getElem, here] at one
    exact one.proper (pieces_free ':' _ _ isPiece) (divides _ isPiece)
  · intro none_
    rw [none_] at denote
    cases denote
  · intro empty
    have whole := join_pieces ':' (trim text.toList)
    rw [empty] at denote
    generalize pieces ':' (trim text.toList) = found at denote whole
    cases denote with
    | @cons piece _ _ _ one none_ =>
      cases none_
      have whole : piece = trim text.toList := whole
      have blank := (trim_eq_nil piece).mpr (one.blank ((NameSet.mem_singleton _ _).mpr rfl))
      rw [whole, trim_trim, trim_eq_nil] at blank
      rw [blank c member] at isVisible
      cases isVisible

theorem parse_trimText (text : String) : parse (trimText text) = parse text := by
  simp only [parse, trimText, String.toList_ofList, trim_trim]

theorem parse_join {pieces : List (List Char)} (free : ∀ piece ∈ pieces, ':' ∉ piece)
    (tight : ∀ piece ∈ pieces, Tight piece) (visible : join ':' pieces ≠ [])
    (read : pieces.mapM readPart = some parts) :
    parse (String.ofList (join ':' pieces)) = .ok ⟨String.ofList (join ':' pieces), parts⟩ := by
  have whole : Tight (join ':' pieces) := join_tight rfl tight
  have nonempty : pieces ≠ [] := by
    rintro rfl
    exact visible rfl
  have kept : (join ':' pieces).isEmpty = false := List.isEmpty_eq_false_iff.mpr visible
  unfold parse
  simp only [String.toList_ofList, whole.trim, kept, pieces_join free nonempty, read]
  rfl

theorem parse_render (canonical : Canonical parts) :
    parse (render parts) = .ok ⟨render parts, parts⟩ := by
  have free : ∀ piece ∈ parts.map renderPart, ':' ∉ piece :=
    List.forall_mem_map.mpr fun part isPart => (canonical.proper part isPart).colon_free
  have tight : ∀ piece ∈ parts.map renderPart, Tight piece :=
    List.forall_mem_map.mpr fun part isPart => (canonical.proper part isPart).tight
  have nonempty : parts.map renderPart ≠ [] := mt List.map_eq_nil_iff.mp canonical.nonempty
  refine parse_join free tight (fun nothing => ?_) (readParts_render canonical.proper)
  have single : [[]] = parts.map renderPart := by
    rw [← pieces_join free nonempty, nothing]
    rfl
  obtain ⟨part, only, empty⟩ := List.map_eq_singleton_iff.mp single.symm
  have again := readPart_renderPart (canonical.proper part (only ▸ List.mem_cons_self))
  rw [empty] at again
  exact canonical.visible (only.trans (congrArg ([·]) (Option.some.inj again).symm))

end Wildcard

theorem isWildcardText_eq_false :
    isWildcardText text = false ↔ '*' ∉ text.toList ∧ ',' ∉ text.toList := by
  simp only [isWildcardText, List.any_eq_false, Bool.or_eq_true, beq_iff_eq, not_or]
  constructor
  · intro plain
    exact ⟨fun star => (plain _ star).1 rfl, fun comma => (plain _ comma).2 rfl⟩
  · intro ⟨star, comma⟩ c member
    exact ⟨fun same => star (same ▸ member), fun same => comma (same ▸ member)⟩

theorem isBlankText_eq_true : isBlankText text = true ↔ ∀ c ∈ text.toList, isBlank c = true := by
  rw [isBlankText, List.isEmpty_iff, trim_eq_nil]

theorem parse_cases (text : String) :
    (∀ c ∈ text.toList, isBlank c = true) ∧ parse text = .error .blank ∨
      (∃ c ∈ text.toList, isBlank c = false) ∧
        (isWildcardText text = false ∧ parse text = .ok (.constant text) ∨
          isWildcardText text = true ∧ parse text = (Wildcard.parse text).map .wildcard) := by
  unfold parse
  by_cases blank : ∀ c ∈ text.toList, isBlank c = true
  · exact .inl ⟨blank, if_pos (isBlankText_eq_true.mpr blank)⟩
  · have visible : ∃ c ∈ text.toList, isBlank c = false := by simpa using blank
    refine .inr ⟨visible, ?_⟩
    rw [if_neg (mt isBlankText_eq_true.mp blank)]
    cases shape : isWildcardText text with
    | false => exact .inl ⟨rfl, rfl⟩
    | true => exact .inr ⟨rfl, rfl⟩

theorem parse_iff_admissible : (∃ permission, parse text = .ok permission) ↔
    (∃ c ∈ text.toList, isBlank c = false) ∧
      ('*' ∉ text.toList ∧ ',' ∉ text.toList ∨ ∃ form, Wildcard.parse text = .ok form) := by
  rw [← isWildcardText_eq_false]
  rcases parse_cases text with ⟨blank, refused⟩ | ⟨visible, ⟨plain, read⟩ | ⟨shape, read⟩⟩
  · refine iff_of_false ?_ ?_
    · intro ⟨permission, parsed⟩
      rw [refused] at parsed
      cases parsed
    · intro ⟨⟨c, member, visible⟩, _⟩
      rw [blank c member] at visible
      cases visible
  · exact iff_of_true ⟨_, read⟩ ⟨visible, .inl plain⟩
  · rw [read, shape]
    cases form : Wildcard.parse text with
    | error malformed => simp [Except.map]
    | ok form => simp [Except.map, visible]

theorem read_of_parse {permission : Permission} (parsed : parse text = .ok permission) :
    Wildcard.parse text = .ok permission.form := by
  rcases parse_cases text with ⟨_, refused⟩ | ⟨visible, ⟨plain, same⟩ | ⟨_, same⟩⟩
  · rw [refused] at parsed; cases parsed
  · rw [same] at parsed
    cases parsed
    apply parse_plain plain
    rw [← Bool.not_eq_true, isBlankText_eq_true]
    simpa using visible
  · rw [same] at parsed
    cases read : Wildcard.parse text with
    | error malformed => rw [read] at parsed; cases parsed
    | ok form => rw [read] at parsed; cases parsed; rfl

theorem isWildcardText_trimText (text : String) :
    isWildcardText (trimText text) = isWildcardText text := by
  rw [Bool.eq_iff_iff]
  simp only [isWildcardText, trimText, String.toList_ofList, List.any_eq_true, Bool.or_eq_true,
    beq_iff_eq]
  constructor
  · intro ⟨c, member, sign⟩
    exact ⟨c, mem_of_mem_trim member, sign⟩
  · intro ⟨c, member, sign⟩
    refine ⟨c, mem_trim member ?_, sign⟩
    rcases sign with star | comma
    · rw [star]; rfl
    · rw [comma]; rfl

-- Outer blanks are part of a constant, and of nothing else.
theorem parse_trimText (shape : isWildcardText text = true) : parse (trimText text) = parse text := by
  have blank : isBlankText (trimText text) = isBlankText text := by
    simp only [isBlankText, trimText, String.toList_ofList, trim_trim]
  unfold parse
  rw [blank, isWildcardText_trimText, Wildcard.parse_trimText, shape]
  rfl

theorem parse_text {permission : Permission} (parsed : parse text = .ok permission) :
    parse permission.text = .ok permission := by
  rcases parse_cases text with ⟨_, refused⟩ | ⟨visible, ⟨plain, same⟩ | ⟨shape, same⟩⟩
  · rw [refused] at parsed; cases parsed
  · rw [same] at parsed
    cases parsed
    exact same
  · cases read : Wildcard.parse text with
    | error malformed => rw [same, read] at parsed; cases parsed
    | ok form =>
      have whole : form.text = trimText text := (Wildcard.parse_parts read).2.1
      rw [same, read] at parsed
      cases parsed
      show parse form.text = _
      rw [whole, parse_trimText shape, same, read]
      rfl

-- Texts are accepted by the grammar alone; what is accepted has the parts that its pieces denote, which
-- can be written out and read again, and a permission can be read again from its own text.
theorem accepted_exactly_and_read_back (text : String) :
    ((∃ form, Wildcard.parse text = .ok form) ↔ Admissible text) ∧
    ((∃ permission, parse text = .ok permission) ↔ (∃ c ∈ text.toList, isBlank c = false) ∧
      ('*' ∉ text.toList ∧ ',' ∉ text.toList ∨ ∃ form, Wildcard.parse text = .ok form)) ∧
    (∀ form, Wildcard.parse text = .ok form →
      List.Forall₂ Denotes (pieces ':' (trim text.toList)) form.parts ∧
      (∀ part ∈ form.parts, Proper part) ∧
      (∃ again, Wildcard.parse (render form.parts) = .ok again ∧ again.parts = form.parts) ∧
      ∀ other otherForm, Wildcard.parse other = .ok otherForm →
        (form.same otherForm = true ↔ render form.parts = render otherForm.parts)) ∧
    ∀ permission, parse text = .ok permission →
      Wildcard.parse text = .ok permission.form ∧ parse permission.text = .ok permission := by
  refine ⟨Wildcard.parse_iff_admissible, parse_iff_admissible, ?_,
    fun permission parsed => ⟨read_of_parse parsed, parse_text parsed⟩⟩
  intro form read
  have canonical := Wildcard.parse_canonical read
  have again := Wildcard.parse_render canonical
  refine ⟨Wildcard.parse_denotes read, canonical.proper, ⟨_, again, rfl⟩, ?_⟩
  intro other otherForm readOther
  have againOther := Wildcard.parse_render (Wildcard.parse_canonical readOther)
  constructor
  · intro same
    rw [of_decide_eq_true same]
  · intro alike
    rw [alike] at again
    have forms := Except.ok.inj (again.symm.trans againOther)
    exact decide_eq_true (congrArg Wildcard.parts forms :)

-- Blanks at three levels, alternatives out of order and twice, an empty piece between commas, and two
-- blank parts at the end.
theorem spaced_text_read_back :
    let text := "\t nexus: npm , maven,,npm :*,read : :"
    let parts : List NameSet := [.ofList ["nexus"], .ofList ["maven", "npm"], .ofList ["*", "read"],
      .ofList [""], .ofList [""]]
    ∃ form again, Wildcard.parse text = .ok form ∧ form.parts = parts ∧ (∀ part ∈ parts, Proper part) ∧
      render parts = "nexus:maven,npm:*,read::" ∧
      Wildcard.parse "nexus:maven,npm:*,read::" = .ok again ∧ again.parts = parts ∧
      parse text = .ok (.wildcard form) ∧ parse form.text = .ok (.wildcard form) := by
  intro text parts
  have read : Wildcard.parse text = .ok ⟨"nexus: npm , maven,,npm :*,read : :", parts⟩ := by
    decide +kernel
  have rendered : render parts = "nexus:maven,npm:*,read::" := by decide +kernel
  have parsed : parse text = .ok (.wildcard ⟨"nexus: npm , maven,,npm :*,read : :", parts⟩) := by
    decide +kernel
  obtain ⟨_, _, forms, permissions⟩ := accepted_exactly_and_read_back text
  obtain ⟨_, proper, ⟨again, readAgain, same⟩, _⟩ := forms _ read
  obtain ⟨_, textAgain⟩ := permissions _ parsed
  rw [rendered] at readAgain
  exact ⟨_, again, read, rfl, proper, rendered, readAgain, same, parsed, textAgain⟩

end Permission
end RepositoryAccess
