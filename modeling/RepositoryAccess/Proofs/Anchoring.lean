import RepositoryAccess.Proofs.Reads
import RepositoryAccess.Target.Shape

namespace RepositoryAccess.Target
open RepositoryAccess.Text RepositoryAccess.Pattern

def anchorGroup : Around := ⟨{}, [⟨.look .textStart, 0, true⟩], []⟩

def anchored (whole : Piece) : Piece :=
  ⟨.seqAll [.look .textStart, whole.regex, .look .textEnd], whole.depth + 2, true⟩

variable {pattern path : List Char} {whole piece : Piece}

theorem anchor_begins (pattern : List Char) :
    ReadTo {} (anchor pattern) (Reading.under anchorGroup {}) (pattern ++ ending) := by
  refine .part (c := '^') rfl rfl ?_
  refine .part (c := '(') rfl rfl ?_
  exact .stay _ _

theorem anchor_ends {last : Reading} {cs : List Char} (closed : last.around = []) (skipped : last.flags.skip cs = ending) :
    ∃ final, ReadTo (last.under anchorGroup) cs final [] ∧ final.around = [] ∧ final.inner = anchored last.inner := by
  have closes : (last.under anchorGroup).leave =
      some ⟨{}, [⟨last.inner.regex, 1 + last.inner.depth, true⟩, ⟨.look .textStart, 0, true⟩], [], [], last.names⟩ := by
    simp [Reading.leave, Reading.under, closed, anchorGroup, Reading.inner]
  refine ⟨_, .part skipped (congrArg (Option.map (·, ['$'])) closes) (.part (c := '$') rfl rfl (.stay _ _)), rfl, ?_⟩
  generalize last.inner = whole
  simp [Reading.inner, Reading.push, branchPiece, runPiece, anchored, maxDepth, endPlace]
  omega

theorem whole_anchored (read : Regex.Whole pattern whole) (visible : ¬Regex.WellFormed (pattern ++ ending)) :
    Regex.Whole (anchor pattern) (anchored whole) := by
  obtain ⟨last, after, reads, done, closed, rfl⟩ := read
  have swallowed (lost : List Char) (further : ReadTo {} (pattern ++ ending) last lost) : last.flags.skip lost ≠ [] :=
    fun spent => visible ⟨last.inner, last, lost, further, spent, closed, rfl⟩
  rcases reads.behind with further | ⟨-, lost, further, spent⟩
  · rcases last.flags.skip_ending after with same | ⟨-, spent⟩
    · rw [done] at same
      obtain ⟨final, rest, alone, inner⟩ := anchor_ends closed same
      exact ⟨final, [], ((anchor_begins pattern).trans (further.under anchorGroup)).trans rest, skip_nil _, alone, inner⟩
    · exact (swallowed _ further spent).elim
  · exact (swallowed _ further spent).elim

theorem formed_of_anchored (read : Regex.Whole (anchor pattern) piece) (inside : ¬Regex.Unopened pattern) :
    Regex.WellFormed pattern ∧ ¬Regex.WellFormed (pattern ++ ending) := by
  obtain ⟨last, after, reads, done, closed, -⟩ := read
  have open_ (own : Reading) : (own.under anchorGroup).around ≠ [] := by simp [Reading.under]
  have further : ReadTo (Reading.under anchorGroup {}) (pattern ++ ending) last after := by
    rcases (anchor_begins pattern).linear reads with further | further
    · exact further
    · obtain ⟨same, -⟩ := further.at_end done
      rw [← same] at closed
      exact (open_ _ closed).elim
  rcases further.of_under with ⟨own, -, rfl⟩ | ⟨own, middle, rest, reads, skipped, alone, -⟩
  · exact (open_ own closed).elim
  · have unopened : Regex.Unopened (pattern ++ ending) := ⟨own, middle, rest, reads, skipped, alone⟩
    refine ⟨?_, fun formed => formed.not_unopened unopened⟩
    obtain ⟨left, own_reads, rfl⟩ := reads.of_behind skipped
    rcases own.flags.skip_ending left with same | ⟨-, lost⟩
    · cases done : own.flags.skip left with
      | nil => exact ⟨own.inner, own, left, own_reads, done, alone, rfl⟩
      | cons d others =>
        rw [done, skipped] at same
        cases same
        exact (inside ⟨own, left, others, own_reads, done, alone⟩).elim
    · rw [skipped] at lost
      cases lost

theorem whole_anchor_iff (inside : ¬Regex.Unopened pattern) : Regex.Whole (anchor pattern) piece ↔
    ∃ whole, Regex.Whole pattern whole ∧ ¬Regex.WellFormed (pattern ++ ending) ∧ anchored whole = piece := by
  constructor
  · intro read
    obtain ⟨⟨whole, own⟩, visible⟩ := formed_of_anchored read inside
    exact ⟨whole, own, visible, Regex.whole_unique (whole_anchored own visible) read⟩
  · rintro ⟨whole, own, visible, rfl⟩
    exact whole_anchored own visible

theorem spans_anchored {first last : Nat} : (anchored whole).regex.Spans path.toArray first last ↔
    first = 0 ∧ last = path.length ∧ whole.regex.Spans path.toArray 0 path.length := by
  simp only [anchored, Regex.seqAll, Regex.Spans, Place.holds]
  constructor
  · rintro ⟨_, ⟨start, rfl⟩, middle, spans, finish, rfl⟩
    simp at start finish
    subst start finish
    exact ⟨rfl, rfl, spans⟩
  · rintro ⟨rfl, rfl, spans⟩
    exact ⟨0, by simp, path.length, spans, by simp⟩

theorem isMatch_anchored : (anchored whole).regex.isMatch path = true ↔ whole.regex.Spans path.toArray 0 path.length := by
  rw [Regex.isMatch_iff]
  constructor
  · rintro ⟨first, -, last, spans⟩
    exact (spans_anchored.mp spans).2.2
  · intro spans
    exact ⟨0, Nat.zero_le _, path.length, spans_anchored.mpr ⟨rfl, rfl, spans⟩⟩

namespace Shape

def expression (pattern : List Char) : Except PatternFault Shape :=
  if looksAround pattern then
    match Lookaround.Matcher.read (anchor pattern) with
    | some matcher => .ok (.lookaround (anchor pattern) matcher)
    | none => .error .lookaround
  else
    match Regex.read (anchor pattern) with
    | some regex => .ok (.pattern (anchor pattern) regex)
    | none => .error .pattern

theorem compile_general (general : simple? pattern = none) : compile pattern = expression pattern := by
  simp only [compile, general]
  rfl

theorem expression_regular (regular : looksAround pattern = false) (shape : Shape) : expression pattern = .ok shape ↔
    ∃ regex, Regex.read (anchor pattern) = some regex ∧ shape = .pattern (anchor pattern) regex := by
  simp only [expression, regular, Bool.false_eq_true, if_false]
  cases Regex.read (anchor pattern) with
  | none => simp
  | some regex => simp [eq_comm]

theorem expression_anchored (regular : looksAround pattern = false) (inside : ¬Regex.Unopened pattern) (shape : Shape) :
    expression pattern = .ok shape ↔
      ∃ whole, Regex.Whole pattern whole ∧ whole.depth + 2 ≤ nestLimit ∧ ¬Regex.WellFormed (pattern ++ ending) ∧
        shape = .pattern (anchor pattern) (anchored whole).regex := by
  rw [expression_regular regular]
  simp only [Regex.read_iff, whole_anchor_iff inside]
  constructor
  · rintro ⟨regex, ⟨piece, ⟨whole, own, visible, rfl⟩, shallow, rfl⟩, rfl⟩
    exact ⟨whole, own, shallow, visible, rfl⟩
  · rintro ⟨whole, own, shallow, visible, rfl⟩
    exact ⟨_, ⟨anchored whole, ⟨whole, own, visible, rfl⟩, shallow, rfl⟩, rfl⟩

end Shape

example : Regex.Unopened ['a', ')', '|', '(', 'b'] ∧ ∃ shape, Shape.compile ['a', ')', '|', '(', 'b'] = .ok shape ∧
    shape.matchesPath ['a', 'x'] = true :=
  ⟨⟨_, _, _, .part (c := 'a') rfl rfl (.stay _ _), rfl, rfl⟩, _, rfl, by decide +kernel⟩

end RepositoryAccess.Target
