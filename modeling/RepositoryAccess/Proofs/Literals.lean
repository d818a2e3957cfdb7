import RepositoryAccess.Proofs.Anchoring

namespace RepositoryAccess.Target
open RepositoryAccess.Text RepositoryAccess.Pattern

-- No escape is one of an angle bracket, which stands for the edge of a word.
def edgeFree : List Char → Bool
  | '\\' :: c :: rest => c != '<' && c != '>' && edgeFree rest
  | _ :: rest => edgeFree rest
  | [] => true

inductive Spells : List Char → List Char → Prop
  | nothing : Spells [] []
  | escaped {c : Char} {text literal : List Char} (sign : isAsciiPunctuation c = true) (plain : c ≠ '<' ∧ c ≠ '>')
      (others : Spells text literal) : Spells ('\\' :: c :: text) (c :: literal)
  | itself {c : Char} {text literal : List Char} (plain : c ≠ '\\' ∧ c ∉ metaCharacters)
      (others : Spells text literal) : Spells (c :: text) (c :: literal)

variable {pattern text literal path : List Char} {run more : List Piece} {c : Char}

theorem spells_of_literal (same : literal? text = some literal) (free : edgeFree text = true) : Spells text literal := by
  fun_induction literal? text generalizing literal with
  | case1 => cases same; exact .nothing
  | case2 c rest sign ih =>
    obtain ⟨others, found, rfl⟩ := Option.map_eq_some_iff.mp same
    simp only [edgeFree, Bool.and_eq_true, bne_iff_ne] at free
    exact .escaped sign free.1 (ih found free.2)
  | case3 c rest sign => cases same
  | case4 c rest other special => cases same
  | case5 c rest other plain ih =>
    obtain ⟨others, found, rfl⟩ := Option.map_eq_some_iff.mp same
    simp only [Bool.or_eq_true, beq_iff_eq, List.contains_iff_mem, not_or] at plain
    rw [edgeFree.eq_2 c rest (fun d left same _ => plain.1 same)] at free
    exact .itself plain (ih found free)

theorem Spells.length_le (spells : Spells text literal) : literal.length ≤ text.length := by
  induction spells with
  | nothing => exact Nat.le_refl 0
  | escaped sign plain others ih => simp; omega
  | itself plain others ih => simp; omega

def operators : List Char := ['(', ')', '|', '[', '?', '*', '+', '{', '\\', '.', '^', '$']

theorem not_operator (plain : c ≠ '\\' ∧ c ∉ metaCharacters) : c ∉ operators := by
  have special : operators.all (fun d => d == '\\' || metaCharacters.contains d) = true := by decide
  intro member
  have found := List.all_eq_true.mp special c member
  simp only [Bool.or_eq_true, beq_iff_eq, List.contains_iff_mem] at found
  exact found.elim plain.1 plain.2

def letter (c : Char) : Piece := ⟨.one (.only c), 0, true⟩

def anyRun : Piece := ⟨.loop (.one (.complement (.only '\n'))) 0 none true, 1, true⟩

theorem step_sign (reading : Reading) (sign : isAsciiPunctuation c = true) (plain : c ≠ '<' ∧ c ≠ '>') (rest : List Char) :
    reading.step '\\' (c :: rest) = some (reading.push ⟨charRegex reading.flags c, 0, true⟩, rest) := by
  simp only [isAsciiPunctuation, Bool.and_eq_true, decide_eq_true_eq, Bool.not_eq_true'] at sign
  have other (d : Char) (alphanum : d.isAlphanum = true) : (c == d) = false := by
    rw [beq_eq_false_iff_ne]
    rintro rfl
    rw [alphanum] at sign
    cases sign.2
  have itself : standsForItself c = true := by
    have small : c.toNat < 128 := by omega
    simp [standsForItself, small, sign.2, plain]
  simp [Reading.step, readEscape, other, itself, atomRegex]

-- A text is read as a run of parts, whatever comes before and behind it.  A question mark behind it might
-- have belonged to its last part.
def ReadAs (text : List Char) (run : List Piece) : Prop :=
  ∀ before rest, rest.head? ≠ some '?' → ReadTo { run := before } (text ++ rest) { run := run.reverse ++ before } rest

theorem ReadAs.append {text' : List Char} (first : ReadAs text run) (second : ReadAs text' more)
    (apart : text'.head? ≠ some '?') : ReadAs (text ++ text') (run ++ more) := by
  intro before rest behind
  have next : (text' ++ rest).head? ≠ some '?' := by
    cases text' with
    | nil => exact behind
    | cons c others => exact apart
  have reads := (first before (text' ++ rest) next).trans (second (run.reverse ++ before) rest behind)
  simpa using reads

theorem readAs_matchAll : ReadAs matchAll [anyRun] := by
  intro before rest behind
  have greedy : readLaziness rest = (true, rest) := by
    cases rest with
    | nil => rfl
    | cons c others =>
      rw [readLaziness_cons, if_neg]
      simpa using behind
  refine .part (c := '.') rfl rfl (.part (c := '*') rfl ?_ (.stay _ _))
  show Reading.step _ '*' rest = _
  rw [(step_repeats _ _).2.1, repeated, greedy]
  rfl

theorem Spells.head (spells : Spells text literal) : text.head? ≠ some '?' := by
  cases spells with
  | nothing => simp
  | escaped sign plain others => simp
  | itself plain others =>
    rintro same
    cases same
    exact plain.2 (by decide)

theorem Spells.head_append {tail : List Char} (spells : Spells text literal) (next : tail.head? ≠ some '?') :
    (text ++ tail).head? ≠ some '?' := by
  cases text with
  | nil => exact next
  | cons c others => exact spells.head

theorem Spells.readAs (spells : Spells text literal) : ReadAs text (literal.map letter) := by
  intro before rest behind
  induction spells generalizing before with
  | nothing => exact .stay _ _
  | @escaped c text literal sign plain others ih =>
    have reads := ih (letter c :: before)
    rw [List.map_cons, List.reverse_cons, List.append_assoc]
    exact .part rfl (step_sign _ sign plain _) reads
  | @itself c text literal plain others ih =>
    have reads := ih (letter c :: before)
    rw [List.map_cons, List.reverse_cons, List.append_assoc]
    exact .part rfl (step_plain _ (not_operator plain) _) reads

theorem Spells.readAs_around (spells : Spells text literal) :
    ReadAs (matchAll ++ (text ++ matchAll)) (anyRun :: literal.map letter ++ [anyRun]) :=
  readAs_matchAll.append (spells.readAs.append readAs_matchAll (by decide)) (spells.head_append (by decide))

theorem runPiece_regex (run : List Piece) : (runPiece run).regex = .seqAll (run.reverse.map (·.regex)) := by
  rcases run with _ | ⟨piece, _ | ⟨other, others⟩⟩
  · rfl
  · rfl
  · rfl

theorem runPiece_depth (shallow : ∀ piece ∈ run, piece.depth ≤ 1) : (runPiece run).depth ≤ 2 := by
  have deepest (depths : List Nat) (least : Nat) (small : ∀ depth ∈ depths, depth ≤ 1) (start : least ≤ 1) :
      depths.foldl max least ≤ 1 := by
    induction depths generalizing least with
    | nil => exact start
    | cons depth others ih =>
      have here := small depth (by simp)
      exact ih (max least depth) (fun other member => small other (List.mem_cons_of_mem _ member)) (by omega)
  rcases run with _ | ⟨piece, _ | ⟨other, others⟩⟩
  · exact Nat.zero_le 2
  · exact Nat.le_succ_of_le (shallow piece (by simp))
  · have small := deepest ((piece :: other :: others).map (·.depth)) 0 (by simpa using shallow) (by omega)
    show 1 + _ ≤ 2
    exact Nat.add_le_add_left small 1

theorem ReadAs.whole (read : ReadAs pattern run) : Regex.Whole pattern (runPiece run.reverse) := by
  have reads := read [] [] (by simp)
  rw [List.append_nil, List.append_nil] at reads
  exact ⟨_, [], reads, rfl, rfl, rfl⟩

theorem ReadAs.visible (read : ReadAs pattern run) : ¬Regex.WellFormed (pattern ++ ending) :=
  fun formed => formed.not_unopened ⟨_, ending, ['$'], read [] ending (by decide), rfl, rfl⟩

theorem ReadAs.shallow (shallow : ∀ piece ∈ run, piece.depth ≤ 1) : (runPiece run.reverse).depth + 2 ≤ nestLimit := by
  have depth : (runPiece run.reverse).depth ≤ 2 := runPiece_depth (by simpa using shallow)
  exact Nat.le_trans (Nat.add_le_add_right depth 2) (by decide)

theorem ReadAs.read (read : ReadAs pattern run) (shallow : ∀ piece ∈ run, piece.depth ≤ 1) :
    Regex.read pattern = some (.seqAll (run.map (·.regex))) := by
  have room := ReadAs.shallow shallow
  refine Regex.read_iff.mpr ⟨_, read.whole, by omega, ?_⟩
  rw [runPiece_regex, List.reverse_reverse]

theorem ReadAs.expression (read : ReadAs pattern run) (shallow : ∀ piece ∈ run, piece.depth ≤ 1)
    (regular : looksAround pattern = false) : ∃ shape, Shape.expression pattern = .ok shape ∧
      ∀ path, shape.matchesPath path = true ↔ (Regex.seqAll (run.map (·.regex))).Spans path.toArray 0 path.length := by
  have inside : ¬Regex.Unopened pattern := Regex.WellFormed.not_unopened ⟨_, read.whole⟩
  refine ⟨_, (Shape.expression_anchored regular inside _).mpr
    ⟨_, read.whole, ReadAs.shallow shallow, read.visible, rfl⟩, ?_⟩
  intro path
  refine isMatch_anchored.trans ?_
  rw [runPiece_regex, List.reverse_reverse]

section Spans
variable {first last : Nat} {regexes : List Regex} {text : Array Char}

theorem spans_seqAll_cons (regex : Regex) : (Regex.seqAll (regex :: regexes)).Spans text first last ↔
    ∃ middle, regex.Spans text first middle ∧ (Regex.seqAll regexes).Spans text middle last := by
  cases regexes with
  | cons other others => rfl
  | nil =>
    constructor
    · intro spans
      exact ⟨last, spans, rfl⟩
    · rintro ⟨middle, spans, rfl⟩
      exact spans

theorem spans_letter : (letter c).regex.Spans path.toArray first last ↔ path[first]? = some c ∧ last = first + 1 := by
  simp only [letter, Regex.Spans, CharSet.contains, beq_iff_eq, List.getElem?_toArray]
  constructor
  · rintro ⟨d, found, rfl, rfl⟩
    exact ⟨found, rfl⟩
  · rintro ⟨found, rfl⟩
    exact ⟨c, found, rfl, rfl⟩

theorem cons_prefix_drop :
    c :: literal <+: path.drop first ↔ path[first]? = some c ∧ literal <+: path.drop (first + 1) := by
  by_cases inside : first < path.length
  · rw [List.drop_eq_getElem_cons inside, List.cons_prefix_cons, List.getElem?_eq_getElem inside, Option.some.injEq]
    exact and_congr_left' eq_comm
  · have none : path.length ≤ first := Nat.le_of_not_lt inside
    simp [List.drop_eq_nil_of_le none, none]

theorem spans_letters : (Regex.seqAll ((literal.map letter).map (·.regex) ++ regexes)).Spans path.toArray first last ↔
    literal <+: path.drop first ∧ (Regex.seqAll regexes).Spans path.toArray (first + literal.length) last := by
  induction literal generalizing first with
  | nil => simp
  | cons c others ih =>
    simp only [List.map_cons, List.cons_append, spans_seqAll_cons, spans_letter, ih, cons_prefix_drop, List.length_cons]
    constructor
    · rintro ⟨_, ⟨here, rfl⟩, occurs, spans⟩
      exact ⟨⟨here, occurs⟩, by rwa [Nat.add_right_comm] at spans⟩
    · rintro ⟨⟨here, occurs⟩, spans⟩
      exact ⟨first + 1, ⟨here, rfl⟩, occurs, by rwa [Nat.add_right_comm]⟩

-- Without a line feed in the path, the dot matches whatever there is.
theorem spans_dot (line : '\n' ∉ path) : (Regex.one (.complement (.only '\n'))).Spans path.toArray first last ↔
    first < path.length ∧ last = first + 1 := by
  simp only [Regex.Spans, CharSet.contains, List.getElem?_toArray, Bool.not_eq_true', beq_eq_false_iff_ne]
  constructor
  · rintro ⟨c, found, -, rfl⟩
    exact ⟨(List.getElem?_eq_some_iff.mp found).1, rfl⟩
  · rintro ⟨inside, rfl⟩
    refine ⟨path[first], List.getElem?_eq_getElem inside, ?_, rfl⟩
    intro same
    exact line (same ▸ List.getElem_mem inside)

theorem rounds_dot {count : Nat} (line : '\n' ∉ path) (within : first ≤ path.length) :
    Rounds ((Regex.one (.complement (.only '\n'))).Spans path.toArray) count first last ↔
      last = first + count ∧ last ≤ path.length := by
  induction count generalizing first with
  | zero =>
    constructor
    · rintro rfl
      exact ⟨rfl, within⟩
    · rintro ⟨rfl, -⟩
      rfl
  | succ count ih =>
    simp only [Rounds, spans_dot line]
    constructor
    · rintro ⟨_, ⟨inside, rfl⟩, rest⟩
      obtain ⟨rfl, inside⟩ := (ih inside).mp rest
      exact ⟨by omega, inside⟩
    · rintro ⟨rfl, inside⟩
      exact ⟨first + 1, ⟨by omega, rfl⟩, (ih (by omega)).mpr ⟨by omega, inside⟩⟩

theorem spans_anyRun (line : '\n' ∉ path) (within : first ≤ path.length) :
    anyRun.regex.Spans path.toArray first last ↔ first ≤ last ∧ last ≤ path.length := by
  constructor
  · rintro ⟨count, -, -, rounds⟩
    obtain ⟨rfl, inside⟩ := (rounds_dot line within).mp rounds
    exact ⟨Nat.le_add_right first count, inside⟩
  · rintro ⟨ordered, inside⟩
    exact ⟨last - first, Nat.zero_le _, by simp, (rounds_dot line within).mpr ⟨by omega, inside⟩⟩

theorem occursIn_iff : occursIn literal path = true ↔ ∃ place ≤ path.length, literal <+: path.drop place := by
  induction path with
  | nil => simp [occursIn]
  | cons c others ih =>
    simp only [occursIn, Bool.or_eq_true, List.isPrefixOf_iff_prefix, ih]
    constructor
    · rintro (here | ⟨place, inside, later⟩)
      · exact ⟨0, Nat.zero_le _, here⟩
      · exact ⟨place + 1, Nat.succ_le_succ inside, later⟩
    · rintro ⟨place, inside, found⟩
      cases place with
      | zero => exact .inl found
      | succ place => exact .inr ⟨place, Nat.le_of_succ_le_succ inside, found⟩

theorem prefix_drop_le (occurs : literal <+: path.drop first) (within : first ≤ path.length) :
    first + literal.length ≤ path.length := by
  have shorter := occurs.length_le
  rw [List.length_drop] at shorter
  omega

theorem spans_around (line : '\n' ∉ path) (within : first ≤ path.length) :
    (Regex.seqAll ((anyRun :: literal.map letter ++ [anyRun]).map (·.regex))).Spans path.toArray first last ↔
      ∃ place, first ≤ place ∧ literal <+: path.drop place ∧ place + literal.length ≤ last ∧ last ≤ path.length := by
  simp only [List.map_append, List.map_cons, List.cons_append, List.map_nil, spans_seqAll_cons, spans_letters,
    spans_anyRun line within]
  constructor
  · rintro ⟨place, ⟨ordered, inside⟩, occurs, _, spans, rfl⟩
    obtain ⟨further, stop⟩ := (spans_anyRun line (prefix_drop_le occurs inside)).mp spans
    exact ⟨place, ordered, occurs, further, stop⟩
  · rintro ⟨place, ordered, occurs, further, stop⟩
    have inside : place ≤ path.length := by omega
    exact ⟨place, ⟨ordered, inside⟩, occurs,
      last, (spans_anyRun line (prefix_drop_le occurs inside)).mpr ⟨further, stop⟩, rfl⟩

end Spans

section Quiet
variable {token tail : List Char}

theorem not_look (next : tail.head? ≠ some '?') (token : List Char) :
    ('(' :: '?' :: token).isPrefixOf (c :: tail) = false := by
  cases tail with
  | nil => simp [List.isPrefixOf]
  | cons d others =>
    have other : '?' ≠ d := by
      rintro rfl
      exact next rfl
    simp [List.isPrefixOf, other]

theorem Spells.quiet (spells : Spells text literal) (next : tail.head? ≠ some '?')
    (quiet : occursIn ('(' :: '?' :: token) tail = false) : occursIn ('(' :: '?' :: token) (text ++ tail) = false := by
  induction spells with
  | nothing => exact quiet
  | escaped sign plain others ih =>
    simp only [List.cons_append, occursIn, ih, not_look (others.head_append next), Bool.or_false]
    rfl
  | itself plain others ih =>
    simp only [List.cons_append, occursIn, ih, not_look (others.head_append next), Bool.or_false]

theorem Spells.regular (spells : Spells text literal) (next : tail.head? ≠ some '?') (quiet : looksAround tail = false) :
    looksAround (text ++ tail) = false := by
  simp only [looksAround, lookTokens, List.map_cons, List.map_nil, List.any_cons, List.any_nil, Bool.or_false,
    Bool.or_eq_false_iff] at quiet ⊢
  exact ⟨spells.quiet next quiet.1, spells.quiet next quiet.2.1, spells.quiet next quiet.2.2.1,
    spells.quiet next quiet.2.2.2⟩

end Quiet

section Shapes

theorem edgeFree_of_append (tail : List Char) (free : edgeFree (text ++ tail) = true) : edgeFree text = true := by
  fun_induction edgeFree text with
  | case1 c rest ih =>
    simp only [List.cons_append, edgeFree, Bool.and_eq_true] at free ⊢
    exact ⟨free.1, ih free.2⟩
  | case2 c rest other ih =>
    cases rest with
    | nil => rfl
    | cons d others =>
      apply ih
      by_cases slash : c = '\\'
      · exact absurd rfl (other d others slash)
      · simpa [edgeFree, slash] using free
  | case3 => rfl

theorem stripEnd_eq {back left : List Char} (same : stripEnd back text = some left) : text = left ++ back := by
  unfold stripEnd at same
  split at same
  · rename_i found
    cases same
    obtain ⟨front, rfl⟩ := List.isSuffixOf_iff_suffix.mp found
    simp
  · cases same

theorem stripStart_eq {front left : List Char} (same : stripStart front text = some left) : text = front ++ left := by
  unfold stripStart at same
  split at same
  · rename_i found
    cases same
    obtain ⟨back, rfl⟩ := List.isPrefixOf_iff_prefix.mp found
    simp
  · cases same

theorem stripBoth_eq {front back left : List Char} (same : stripBoth front back text = some left) :
    text = front ++ (left ++ back) := by
  obtain ⟨middle, start, stop⟩ := Option.bind_eq_some_iff.mp same
  rw [stripStart_eq start, stripEnd_eq stop]

inductive Shaped : List Char → Shape → Prop
  | any : Shaped matchAll .any
  | excluding {text literal : List Char} (same : literal? text = some literal) :
      Shaped (excludeOpening ++ (text ++ excludeEnding)) (.excluding literal)
  | containing {text literal : List Char} (same : literal? text = some literal) :
      Shaped (matchAll ++ (text ++ matchAll)) (.containing literal)
  | startingWith {text literal : List Char} (same : literal? text = some literal) :
      Shaped (text ++ matchAll) (.startingWith literal)
  | exactly {text literal : List Char} (same : literal? text = some literal) : Shaped text (.exactly literal)

theorem shaped_of_simple {shape : Shape} (simple : Shape.simple? pattern = some shape) : Shaped pattern shape := by
  unfold Shape.simple? at simple
  split at simple
  · rename_i whole
    rw [beq_iff_eq] at whole
    cases simple
    rw [whole]
    exact .any
  · simp only [Option.orElse_eq_orElse, Option.orElse_eq_or, Option.or_eq_some_iff, Option.map_eq_some_iff,
      Option.bind_eq_some_iff] at simple
    rcases simple with ⟨literal, ⟨text, stripped, same⟩, rfl⟩ | ⟨-, ⟨literal, ⟨text, stripped, same⟩, rfl⟩ |
      ⟨-, ⟨literal, ⟨text, stripped, same⟩, rfl⟩ | ⟨-, literal, same, rfl⟩⟩⟩
    · rw [stripBoth_eq stripped]
      exact .excluding same
    · rw [stripBoth_eq stripped]
      exact .containing same
    · rw [stripEnd_eq stripped]
      exact .startingWith same
    · exact .exactly same

-- The machine that looks around keeps a way back for each character of a path, and has room for so many.
def RoomFor (pattern path : List Char) : Prop := looksAround pattern = true → path.length + 1 < Lookaround.wayLimit

-- Paths without a line feed are told apart by the expression as they are by the shape.
def Agreeing (pattern : List Char) (shape : Shape) : Prop := ∃ engine, Shape.expression pattern = .ok engine ∧
  ∀ path, '\n' ∉ path → RoomFor pattern path → engine.matchesPath path = shape.matchesPath path

theorem ReadAs.agreeing {shape : Shape} (read : ReadAs pattern run) (shallow : ∀ piece ∈ run, piece.depth ≤ 1)
    (regular : looksAround pattern = false)
    (same : ∀ path, '\n' ∉ path →
      ((Regex.seqAll (run.map (·.regex))).Spans path.toArray 0 path.length ↔ shape.matchesPath path = true)) :
    Agreeing pattern shape := by
  obtain ⟨engine, accepted, covers⟩ := read.expression shallow regular
  refine ⟨engine, accepted, ?_⟩
  intro path line room
  rw [Bool.eq_iff_iff, covers path]
  exact same path line

theorem letters_shallow (literal : List Char) : ∀ piece ∈ literal.map letter, piece.depth ≤ 1 := by
  intro piece member
  obtain ⟨c, -, rfl⟩ := List.mem_map.mp member
  exact Nat.zero_le 1

theorem anyRun_shallow : ∀ piece ∈ [anyRun], piece.depth ≤ 1 := by decide

theorem around_shallow (literal : List Char) : ∀ piece ∈ anyRun :: literal.map letter ++ [anyRun], piece.depth ≤ 1 :=
  List.forall_mem_append.mpr ⟨List.forall_mem_append.mpr ⟨anyRun_shallow, letters_shallow literal⟩, anyRun_shallow⟩

theorem agreeing_any : Agreeing matchAll .any := by
  refine readAs_matchAll.agreeing anyRun_shallow (by decide) ?_
  intro path line
  exact iff_of_true ((spans_anyRun line (Nat.zero_le _)).mpr ⟨Nat.zero_le _, Nat.le_refl _⟩) rfl

theorem Spells.agreeing_exactly (spells : Spells text literal) : Agreeing text (.exactly literal) := by
  have regular : looksAround (text ++ []) = false := spells.regular (by simp) (by decide)
  rw [List.append_nil] at regular
  refine spells.readAs.agreeing (letters_shallow literal) regular ?_
  intro path line
  have spans := @spans_letters literal path 0 path.length []
  rw [List.append_nil] at spans
  refine spans.trans ?_
  simp only [Shape.matchesPath, beq_iff_eq, List.drop_zero, Nat.zero_add]
  constructor
  · rintro ⟨⟨back, rfl⟩, whole⟩
    have none : back = [] := by simpa [Regex.seqAll, Regex.Spans] using whole
    rw [none, List.append_nil]
  · rintro rfl
    exact ⟨List.prefix_refl _, rfl⟩

theorem Spells.agreeing_startingWith (spells : Spells text literal) :
    Agreeing (text ++ matchAll) (.startingWith literal) := by
  have read := spells.readAs.append readAs_matchAll (by decide)
  have shallow := List.forall_mem_append.mpr ⟨letters_shallow literal, anyRun_shallow⟩
  refine read.agreeing shallow (spells.regular (by decide) (by decide)) ?_
  intro path line
  rw [List.map_append]
  refine spans_letters.trans ?_
  simp only [Shape.matchesPath, List.isPrefixOf_iff_prefix, List.drop_zero, Nat.zero_add]
  constructor
  · intro found
    exact found.1
  · intro found
    exact ⟨found, (spans_anyRun line found.length_le).mpr ⟨found.length_le, Nat.le_refl _⟩⟩

theorem Spells.agreeing_containing (spells : Spells text literal) :
    Agreeing (matchAll ++ (text ++ matchAll)) (.containing literal) := by
  have regular : looksAround (matchAll ++ (text ++ matchAll)) = false := spells.regular (by decide) (by decide)
  refine spells.readAs_around.agreeing (around_shallow literal) regular ?_
  intro path line
  refine (spans_around line (Nat.zero_le _)).trans ?_
  simp only [Shape.matchesPath, occursIn_iff]
  constructor
  · rintro ⟨place, -, occurs, further, -⟩
    exact ⟨place, by omega, occurs⟩
  · rintro ⟨place, inside, occurs⟩
    exact ⟨place, Nat.zero_le _, occurs, prefix_drop_le occurs inside, Nat.le_refl _⟩

end Shapes
end RepositoryAccess.Target
