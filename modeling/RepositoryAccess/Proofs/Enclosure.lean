import RepositoryAccess.Proofs.WholeMatches

namespace RepositoryAccess.Lookaround
open RepositoryAccess.Text RepositoryAccess.Pattern RepositoryAccess.Target

section Programs
variable {expr : Expr}

theorem search_placed (expr : Expr) (slots : Nat) : search expr 0 slots =
    (piece true expr 4 slots).map fun placed =>
      ([.split 3 1, .any, .jump 0, .save 0] ++ placed.1 ++ [.save 1], placed.2) := by
  have whole : search expr = Piece.nothing.append ((Piece.concat [(Piece.ofList [.any]).star false,
      ((Piece.ofList [.save 0]).append (piece true expr)).append (Piece.ofList [.save 1])]).append Piece.nothing) := rfl
  rw [whole]
  cases placed : piece true expr 4 slots with
  | none => simp [Piece.append, Piece.concat, Piece.nothing, Piece.star, Piece.ofList, placed]
  | some placed => simp [Piece.append, Piece.concat, Piece.nothing, Piece.star, Piece.ofList, Piece.ordered, placed]

theorem program_searching (expr : Expr) (groups : Nat) : Program.ofExpr expr groups =
    (piece true expr 4 (2 * (groups + 1))).map fun placed => ⟨(searching placed.1).toArray, placed.2⟩ := by
  rw [Program.ofExpr, search_placed]
  cases piece true expr 4 (2 * (groups + 1)) with
  | none => rfl
  | some placed => simp [searching]

theorem append_nothing (piece : Piece) : piece.append Piece.nothing = piece := by
  funext start slots
  simp only [Piece.append, Piece.nothing]
  cases piece start slots with
  | none => rfl
  | some placed => simp

def enclosed (expr : Expr) : Expr := .concat [.place .textStart, expr, .place .textEnd]

theorem piece_enclosed (hard : expr.isHard = true) : piece true (enclosed expr) =
    (Piece.ofList [.plain (.look .textStart)]).append
      ((piece true expr).append (Piece.ofList [.plain (.look .textEnd)])) := by
  have first : handOver [.place .textStart] = Piece.ofList [.plain (.look .textStart)] := rfl
  have last : handOver [.place .textEnd] = Piece.ofList [.plain (.look .textEnd)] := rfl
  have alone : Piece.concat [piece true expr] = piece true expr := append_nothing _
  simp [enclosed, piece, pieces, concatPiece, hard, Expr.isHard, Expr.isConstSize, isWordPlace, first, last, alone]

theorem program_enclosed (hard : expr.isHard = true) (groups : Nat) : Program.ofExpr (enclosed expr) groups =
    (piece true expr 4 (2 * (groups + 1))).map fun placed => ⟨(searchingWhole placed.1).toArray, placed.2⟩ := by
  rw [program_searching, piece_enclosed hard]
  have moved := (placed_piece true expr).moves 1 4 (2 * (groups + 1))
  cases placed : piece true expr 4 (2 * (groups + 1)) with
  | none =>
    rw [placed] at moved
    simp [Piece.append, Piece.ofList, moved]
  | some placed =>
    rw [placed] at moved
    simp [Piece.append, Piece.ofList, moved, searching, searchingWhole, skipping]

end Programs

section Start
variable {code : List Instruction} {text : Array Char} {slots fuel : Nat}

-- The machine at the first place, with no way to skip it.
def Machine.atFirst (slots : Nat) : Machine := { Machine.start slots with address := 3 }

-- A run between the ends of the text finds what the program by itself can come to the end with.
theorem run_whole_iff (stays : ∀ instruction ∈ code, instruction.Stays 4 (4 + code.length))
    (affords : (Machine.start slots).Affords (searchingWhole code).toArray text fuel) :
    Machine.run (searchingWhole code).toArray text fuel (Machine.start slots) = true ↔
      (Machine.atFirst slots).Covers (searching code).toArray text := by
  obtain ⟨before, fresh⟩ : ∃ before, before = (Machine.start slots).slots := ⟨_, rfl⟩
  have room : 0 < wayLimit := by decide
  have forks : (Machine.start slots).step (searchingWhole code).toArray text =
      .running ⟨3, 0, before, [⟨1, 0, before⟩], 1, 0⟩ := by
    rw [fresh]
    exact step_split rfl room
  have saves : Machine.step (searchingWhole code).toArray text ⟨3, 0, before, [⟨1, 0, before⟩], 1, 0⟩ =
      .running ⟨4, 0, before.set 0 0, [⟨1, 0, before⟩], 1, 0⟩ := rfl
  have starts : Machine.step (searchingWhole code).toArray text ⟨4, 0, before.set 0 0, [⟨1, 0, before⟩], 1, 0⟩ =
      .running (Machine.lifted before ⟨4, 0, before.set 0 0, [], 0, 0⟩) := by
    rw [fresh]
    exact step_plain rfl start_holds
  have own : (Machine.atFirst slots).step (searching code).toArray text =
      .running ⟨4, 0, before.set 0 0, [], 0, 0⟩ := by
    rw [fresh]
    rfl
  obtain ⟨_, rfl, forked⟩ := affords.running forks
  obtain ⟨_, rfl, saved⟩ := forked.running saves
  obtain ⟨_, rfl, started⟩ := saved.running starts
  rw [run_step forks, run_step saves, run_step starts, covers_running own]
  exact run_lifted stays ⟨⟨Nat.le_refl 4, Nat.le_add_right 4 _⟩, by simp, rfl⟩ started

end Start

section Matchers
variable {pattern : List Char} {expr : Expr} {after : Reading} {matcher : Matcher}

-- The expression of the pattern looks around, and is not one that an ordinary expression could do as well.
def Looking (pattern : List Char) : Prop := ∀ expr groups, Expr.read pattern = some (expr, groups) → expr.isHard = true

namespace Matcher

-- The matcher decides about the text without coming to a limit.
def Affords (matcher : Matcher) (text : List Char) : Prop :=
  match matcher with
  | .plain _ => True
  | .search expr program => (Machine.start program.slots).Affords program.code text.toArray (steps expr text.length)

instance (matcher : Matcher) (text : List Char) : Decidable (matcher.Affords text) :=
  match matcher with
  | .plain _ => isTrue trivial
  | .search expr program =>
    inferInstanceAs (Decidable ((Machine.start program.slots).Affords program.code text.toArray
      (steps expr text.length)))

-- What is matched is the whole of the text.
def Covers (matcher : Matcher) (text : List Char) : Prop :=
  match matcher with
  | .plain regex => regex.Spans text.toArray 0 text.length
  | .search _ program => (Machine.atFirst program.slots).Covers program.code text.toArray

def ofPiece (expr : Expr) (placed : List Instruction × Nat) : Matcher :=
  .search expr ⟨(searching placed.1).toArray, placed.2⟩

def ofPieceWhole (expr : Expr) (placed : List Instruction × Nat) : Matcher :=
  .search (enclosed expr) ⟨(searchingWhole placed.1).toArray, placed.2⟩

end Matcher

theorem mark_between (hard : (expr.mark after.referenced).isHard = true) :
    (Expr.concat (between expr)).mark after.referenced = enclosed (expr.mark after.referenced) := by
  cases expr
  case empty => cases hard
  all_goals rfl

theorem matcher_nests (looking : Looking pattern) (nests : Nests pattern expr after) : Matcher.read pattern =
    (piece true (expr.mark after.referenced) 4 (2 * (after.groups + 1))).map
      (Matcher.ofPiece (expr.mark after.referenced)) := by
  have hard := looking _ _ nests.read
  rw [Matcher.read, nests.read]
  simp only [Option.bind_eq_bind, Option.bind_some, hard, if_true, program_searching]
  cases piece true (expr.mark after.referenced) 4 (2 * (after.groups + 1)) <;> rfl

theorem matcher_enclosed (looking : Looking pattern) (inside : ¬Unopened pattern) (nests : Nests pattern expr after)
    (visible : Expr.read (pattern ++ ending) = none) (consistent : Consistent after) : Matcher.read (anchor pattern) =
      (piece true (expr.mark after.referenced) 4 (2 * (after.groups + 1))).map
        (Matcher.ofPieceWhole (expr.mark after.referenced)) := by
  have hard := looking _ _ nests.read
  have whole := (anchored_read inside).mpr ⟨expr, after, nests, visible, consistent, rfl⟩
  have anyHard : (enclosed (expr.mark after.referenced)).isHard = true := by
    simp [enclosed, Expr.isHard, Expr.anyHard, hard]
  rw [Matcher.read, whole, mark_between hard]
  simp only [Option.bind_eq_bind, Option.bind_some, anyHard, if_true, program_enclosed hard]
  cases piece true (expr.mark after.referenced) 4 (2 * (after.groups + 1)) <;> rfl

theorem matcher_anchored (looking : Looking pattern) (inside : ¬Unopened pattern) :
    Matcher.read (anchor pattern) = some matcher ↔
    ∃ expr after placed, Nests pattern expr after ∧ Expr.read (pattern ++ ending) = none ∧ Consistent after ∧
      piece true (expr.mark after.referenced) 4 (2 * (after.groups + 1)) = some placed ∧
      matcher = Matcher.ofPieceWhole (expr.mark after.referenced) placed := by
  constructor
  · intro read
    obtain ⟨found, whole, -⟩ := Option.bind_eq_some_iff.mp read
    obtain ⟨expr, after, nests, visible, consistent, -⟩ := (anchored_read inside).mp whole
    rw [matcher_enclosed looking inside nests visible consistent] at read
    obtain ⟨placed, piece, same⟩ := Option.map_eq_some_iff.mp read
    exact ⟨expr, after, placed, nests, visible, consistent, piece, same.symm⟩
  · rintro ⟨expr, after, placed, nests, visible, consistent, piece, rfl⟩
    rw [matcher_enclosed looking inside nests visible consistent, piece]
    rfl

theorem isMatch_ofPieceWhole {placed : List Instruction × Nat} {slots : Nat} {path : List Char}
    (found : piece true expr 4 slots = some placed)
    (affords : (Matcher.ofPieceWhole expr placed).Affords path) :
    (Matcher.ofPieceWhole expr placed).isMatch path = true ↔ (Matcher.ofPiece expr placed).Covers path :=
  run_whole_iff ((placed_piece true expr).stays _ _ _ _ found) affords

end Matchers
end RepositoryAccess.Lookaround

namespace RepositoryAccess.Target
open RepositoryAccess.Text RepositoryAccess.Pattern RepositoryAccess.Lookaround

variable {pattern : List Char}

theorem Shape.expression_looking (looks : looksAround pattern = true) (shape : Shape) :
    Shape.expression pattern = .ok shape ↔
    ∃ matcher, Matcher.read (anchor pattern) = some matcher ∧ shape = .lookaround (anchor pattern) matcher := by
  simp only [Shape.expression, looks, if_true]
  cases Matcher.read (anchor pattern) with
  | none => simp
  | some matcher => simp [eq_comm]

-- A pattern that looks around and closes no group but its own is accepted just when it is accepted by itself, in a
-- group too, and does not hide what is put behind it; then it has to match the whole path.
theorem looking_compiles_iff (general : Shape.simple? pattern = none) (looks : looksAround pattern = true)
    (looking : Looking pattern) (inside : ¬Lookaround.Unopened pattern) :
    ((∃ shape, Shape.compile pattern = .ok shape) ↔ (∃ matcher, Matcher.read pattern = some matcher) ∧
      (∃ expr after, Nests pattern expr after ∧ Consistent after) ∧ Expr.read (pattern ++ ending) = none) ∧
    ∀ shape own whole, Shape.compile pattern = .ok shape → Matcher.read pattern = some own →
      Matcher.read (anchor pattern) = some whole → ∀ path, whole.Affords path → (shape.matchesPath path = true ↔ own.Covers path) := by
  have compiled := Shape.expression_looking looks
  rw [Shape.compile_general general]
  refine ⟨⟨?_, ?_⟩, ?_⟩
  · rintro ⟨shape, accepted⟩
    obtain ⟨matcher, read, -⟩ := (compiled shape).mp accepted
    obtain ⟨expr, after, placed, nests, visible, consistent, found, -⟩ := (matcher_anchored looking inside).mp read
    have own := matcher_nests looking nests
    rw [found] at own
    exact ⟨⟨_, own⟩, ⟨expr, after, nests, consistent⟩, visible⟩
  · rintro ⟨⟨matcher, own⟩, ⟨expr, after, nests, consistent⟩, visible⟩
    rw [matcher_nests looking nests] at own
    obtain ⟨placed, found, -⟩ := Option.map_eq_some_iff.mp own
    have read := (matcher_anchored looking inside).mpr ⟨expr, after, placed, nests, visible, consistent, found, rfl⟩
    exact ⟨_, (compiled _).mpr ⟨_, read, rfl⟩⟩
  · intro shape own whole accepted read anchored path affords
    obtain ⟨matcher, same, rfl⟩ := (compiled shape).mp accepted
    obtain rfl : matcher = whole := Option.some.inj (same.symm.trans anchored)
    obtain ⟨expr, after, placed, nests, -, -, found, rfl⟩ := (matcher_anchored looking inside).mp same
    rw [matcher_nests looking nests, found] at read
    cases read
    exact isMatch_ofPieceWhole found affords

def twoFromA : List Char := "(?=a)..".toList

theorem twoFromA_covers : ∃ shape own, Shape.compile twoFromA = .ok shape ∧ Matcher.read twoFromA = some own ∧
    own.Covers "ab".toList ∧ ¬own.Covers "abc".toList := by
  have looking : Looking twoFromA := by
    have hard : (Expr.read twoFromA).all (fun found => found.1.isHard) = true := by decide +kernel
    intro expr groups read
    rwa [read] at hard
  have inside : ¬Lookaround.Unopened twoFromA := by
    have nothing : (readAt (byteSize twoFromA) 0 twoFromA).map (·.2) = some [] := by decide +kernel
    rintro ⟨expr, after, rest, read⟩
    rw [read] at nothing
    cases nothing
  have general : Shape.simple? twoFromA = none := rfl
  have looks : looksAround twoFromA = true := by decide
  have accepted : (Matcher.read twoFromA).isSome = true ∧ ∃ whole ∈ Matcher.read (anchor twoFromA),
      (whole.Affords "ab".toList ∧ whole.Affords "abc".toList) ∧ whole.isMatch "ab".toList = true ∧
        whole.isMatch "abc".toList = false := by
    decide +kernel
  obtain ⟨read, whole, anchored, ⟨short, long⟩, covered, beyond⟩ := accepted
  obtain ⟨own, read⟩ := Option.isSome_iff_exists.mp read
  have compiled : Shape.compile twoFromA = .ok (.lookaround (anchor twoFromA) whole) := by
    rw [Shape.compile_general general]
    exact (Shape.expression_looking looks _).mpr ⟨whole, anchored, rfl⟩
  have covers := (looking_compiles_iff general looks looking inside).2 _ own whole compiled read anchored
  exact ⟨_, own, compiled, read, (covers _ short).mp covered, mt (covers _ long).mpr (Bool.eq_false_iff.mp beyond)⟩

end RepositoryAccess.Target
