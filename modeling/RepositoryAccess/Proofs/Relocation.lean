import RepositoryAccess.Lookaround.Program

namespace RepositoryAccess.Lookaround
open RepositoryAccess.Pattern

namespace Instruction

def shift (distance : Nat) : Instruction → Instruction
  | .split first second => .split (first + distance) (second + distance)
  | .jump target => .jump (target + distance)
  | .rounds least most next slot greedy => .rounds least most (next + distance) slot greedy
  | .nonemptyRounds least next slot check greedy => .nonemptyRounds least (next + distance) slot check greedy
  | other => other

@[simp] theorem shift_split (first second distance : Nat) :
    (split first second).shift distance = .split (first + distance) (second + distance) := rfl

@[simp] theorem shift_jump (target distance : Nat) : (jump target).shift distance = .jump (target + distance) := rfl

@[simp] theorem shift_failLook (distance : Nat) : failLook.shift distance = .failLook := rfl

@[simp] theorem shift_reset (slot distance : Nat) : (reset slot).shift distance = .reset slot := rfl

-- An instruction that leads no further than from the first to the last address, and does not end the program.
def Stays (first last : Nat) : Instruction → Prop
  | .finish => False
  | .split one two => (first ≤ one ∧ one ≤ last) ∧ first ≤ two ∧ two ≤ last
  | .jump target => first ≤ target ∧ target ≤ last
  | .rounds _ _ next _ _ => first ≤ next ∧ next ≤ last
  | .nonemptyRounds _ next _ _ _ => first ≤ next ∧ next ≤ last
  | _ => True

theorem Stays.mono {first last lower upper : Nat} {instruction : Instruction} (stays : instruction.Stays first last)
    (below : lower ≤ first)
    (above : last ≤ upper) : instruction.Stays lower upper := by
  have further {target : Nat} (inside : first ≤ target ∧ target ≤ last) : lower ≤ target ∧ target ≤ upper :=
    ⟨Nat.le_trans below inside.1, Nat.le_trans inside.2 above⟩
  cases instruction
  case split => exact ⟨further stays.1, further stays.2⟩
  case jump | rounds | nonemptyRounds => exact further stays
  all_goals exact stays

end Instruction

namespace Piece
variable {piece first second body test yes no : Piece} {greedy : Bool}

-- A piece is the same wherever it stands, and leads nowhere but to itself and to what stands behind it.
structure Placed (piece : Piece) : Prop where
  moves : ∀ distance start slots, piece (start + distance) slots =
    (piece start slots).map fun placed => (placed.1.map (·.shift distance), placed.2)
  stays : ∀ start slots code used, piece start slots = some (code, used) →
    ∀ instruction ∈ code, instruction.Stays start (start + code.length)

theorem placed_nothing : Placed nothing where
  moves _ _ _ := rfl
  stays := by
    rintro start slots code used ⟨⟩ instruction member
    cases member

theorem placed_single (instruction : Instruction) (alone : ∀ distance, instruction.shift distance = instruction)
    (stays : ∀ first last, instruction.Stays first last) : Placed (ofList [instruction]) where
  moves distance _ _ := by simp [ofList, alone]
  stays := by
    rintro start slots code used ⟨⟩ other member
    rw [List.mem_singleton.mp member]
    exact stays _ _

theorem Placed.append (one : Placed first) (two : Placed second) : Placed (first.append second) where
  moves distance start slots := by
    simp only [Piece.append, Option.bind_eq_bind, one.moves, Option.bind_map, Function.comp_def, Option.map_bind,
      List.length_map, Nat.add_right_comm start distance, two.moves, Option.map_map, List.map_append, Option.pure_def,
      Option.map_some]
  stays := by
    intro start slots code used found
    obtain ⟨⟨front, middle⟩, taken, found⟩ := Option.bind_eq_some_iff.mp found
    obtain ⟨⟨behind, last⟩, taken', found⟩ := Option.bind_eq_some_iff.mp found
    cases found
    intro instruction member
    simp only [List.length_append]
    rcases List.mem_append.mp member with member | member
    · exact (one.stays _ _ _ _ taken _ member).mono (Nat.le_refl _) (by omega)
    · exact (two.stays _ _ _ _ taken' _ member).mono (Nat.le_add_right _ _) (by omega)

theorem placed_concat {pieces : List Piece} (all : ∀ piece ∈ pieces, Placed piece) : Placed (concat pieces) := by
  induction pieces with
  | nil => exact placed_nothing
  | cons piece rest ih =>
    exact (all piece List.mem_cons_self).append (ih fun other member => all other (List.mem_cons_of_mem _ member))

-- A piece with some instructions before and behind it, which may use slots of their own.
def around (front extra : Nat) (before behind : Nat → Nat → Nat → List Instruction)
    (body : Piece) : Piece := fun start slots => do
  let (code, used) ← body (start + front) (slots + extra)
  return (before start code.length slots ++ code ++ behind start code.length slots, used)

theorem Placed.around {front extra : Nat} {before behind : Nat → Nat → Nat → List Instruction} (placed : Placed body)
    (length : ∀ start length slots, (before start length slots).length = front)
    (moves : ∀ distance start length slots, before (start + distance) length slots =
      (before start length slots).map (·.shift distance) ∧
      behind (start + distance) length slots = (behind start length slots).map (·.shift distance))
    (stays : ∀ start length slots, ∀ instruction ∈ before start length slots ++ behind start length slots,
      instruction.Stays start (start + front + length + (behind start length slots).length)) :
    Placed (body.around front extra before behind) where
  moves distance start slots := by
    simp only [Piece.around, Option.bind_eq_bind, Nat.add_right_comm start distance, placed.moves, Option.bind_map,
      Function.comp_def, Option.map_bind, List.length_map, moves, Option.pure_def, Option.map_some, List.map_append]
  stays := by
    intro start slots code used found instruction member
    obtain ⟨⟨inner, last⟩, taken, found⟩ := Option.bind_eq_some_iff.mp found
    cases found
    have own := stays start inner.length slots instruction
    simp only [List.length_append, length]
    rcases List.mem_append.mp member with member | member
    · rcases List.mem_append.mp member with member | member
      · exact (own (List.mem_append_left _ member)).mono (Nat.le_refl _) (by omega)
      · exact (placed.stays _ _ _ _ taken _ member).mono (Nat.le_add_right _ _) (by omega)
    · exact (own (List.mem_append_right _ member)).mono (Nat.le_refl _) (by omega)

theorem ordered_shift (greedy : Bool) (inside outside distance : Nat) :
    (ordered greedy inside outside).shift distance = ordered greedy (inside + distance) (outside + distance) := by
  cases greedy <;> rfl

theorem ordered_stays {first last inside outside : Nat} (one : first ≤ inside ∧ inside ≤ last)
    (two : first ≤ outside ∧ outside ≤ last) :
    (ordered greedy inside outside).Stays first last := by
  cases greedy
  · exact ⟨two, one⟩
  · exact ⟨one, two⟩

theorem Placed.optional (placed : Placed body) : Placed (body.optional greedy) := by
  have whole : body.optional greedy =
      body.around 1 0 (fun start length _ => [ordered greedy (start + 1) (start + 1 + length)]) fun _ _ _ => [] := by
    funext start slots
    simp [Piece.optional, Piece.around]
  rw [whole]
  refine placed.around (fun _ _ _ => rfl) (fun distance start length slots => ?_)
    fun start length slots instruction member => ?_
  · simp [ordered_shift, Nat.add_right_comm]
  · obtain rfl : instruction = ordered greedy (start + 1) (start + 1 + length) := by simpa using member
    exact ordered_stays (by simp) (by simp; omega)

theorem Placed.star (placed : Placed body) : Placed (body.star greedy) := by
  show Placed (body.around 1 0 (fun start length _ => [ordered greedy (start + 1) (start + length + 2)])
    fun start _ _ => [.jump start])
  refine placed.around (fun _ _ _ => rfl) (fun distance start length slots => ?_)
    fun start length slots instruction member => ?_
  · simp [ordered_shift, Nat.add_right_comm]
  · simp only [List.cons_append, List.nil_append, List.mem_cons, List.not_mem_nil, or_false] at member
    rcases member with rfl | rfl
    · exact ordered_stays (by simp; omega) (by simp; omega)
    · exact ⟨Nat.le_refl _, by omega⟩

theorem Placed.plus (placed : Placed body) : Placed (body.plus greedy) := by
  show Placed (body.around 0 0 (fun _ _ _ => []) fun start length _ => [ordered greedy start (start + length + 1)])
  refine placed.around (fun _ _ _ => rfl) (fun distance start length slots => ?_)
    fun start length slots instruction member => ?_
  · simp [ordered_shift, Nat.add_right_comm]
  · obtain rfl : instruction = ordered greedy start (start + length + 1) := by simpa using member
    exact ordered_stays (by simp; omega) (by simp; omega)

theorem Placed.counted {slotCount : Nat} {control : Nat → Nat → Instruction} (placed : Placed body)
    (shifts : ∀ distance next slot, (control next slot).shift distance = control (next + distance) slot)
    (stays : ∀ first last next slot, first ≤ next → next ≤ last → (control next slot).Stays first last) :
    Placed (body.counted slotCount control) := by
  show Placed (body.around 2 slotCount (fun start length slots => [.reset slots, control (start + length + 3) slots])
    fun start _ _ => [.jump (start + 1)])
  refine placed.around (fun _ _ _ => rfl) (fun distance start length slots => ?_)
    fun start length slots instruction member => ?_
  · simp [shifts, Nat.add_right_comm]
  · simp only [List.cons_append, List.nil_append, List.mem_cons, List.not_mem_nil, or_false] at member
    rcases member with rfl | rfl | rfl
    · trivial
    · exact stays _ _ _ _ (by omega) (by simp; omega)
    · exact ⟨Nat.le_succ _, by omega⟩

theorem Placed.positive (placed : Placed body) : Placed body.positive := by
  show Placed (body.around 1 1 (fun _ _ slots => [.save slots]) fun _ _ slots => [.restore slots])
  refine placed.around (fun _ _ _ => rfl) (fun _ _ _ _ => ⟨rfl, rfl⟩) fun start length slots instruction member => ?_
  simp only [List.cons_append, List.nil_append, List.mem_cons, List.not_mem_nil, or_false] at member
  rcases member with rfl | rfl <;> trivial

theorem Placed.negative (placed : Placed body) : Placed body.negative := by
  show Placed (body.around 1 0 (fun start length _ => [.split (start + 1) (start + length + 2)])
    fun _ _ _ => [.failLook])
  refine placed.around (fun _ _ _ => rfl) (fun distance start length slots => ?_)
    fun start length slots instruction member => ?_
  · simp [Nat.add_right_comm]
  · simp only [List.cons_append, List.nil_append, List.mem_cons, List.not_mem_nil, or_false] at member
    rcases member with rfl | rfl
    · exact ⟨by omega, by simp; omega⟩
    · trivial

theorem Placed.choice (one : Placed first) (two : Placed second) : Placed (choice first second) where
  moves distance start slots := by
    have further (length : Nat) : start + distance + 1 + length + 1 = start + 1 + length + 1 + distance := by omega
    simp only [Piece.choice, Option.bind_eq_bind, Nat.add_right_comm start distance, one.moves, Option.bind_map,
      Function.comp_def, Option.map_bind, List.length_map, two.moves, Option.pure_def, Option.map_some, List.map_append,
      List.map_cons, Instruction.shift_split, Instruction.shift_jump, Nat.add_right_comm _ distance]
  stays := by
    intro start slots code used found instruction member
    obtain ⟨⟨front, middle⟩, taken, found⟩ := Option.bind_eq_some_iff.mp found
    obtain ⟨⟨behind, last⟩, taken', found⟩ := Option.bind_eq_some_iff.mp found
    cases found
    simp only [List.cons_append, List.length_cons, List.length_append, List.mem_cons, List.mem_append] at member ⊢
    rcases member with rfl | member | rfl | member
    · exact ⟨by omega, by omega⟩
    · exact (one.stays _ _ _ _ taken _ member).mono (by omega) (by omega)
    · exact ⟨by omega, by omega⟩
    · exact (two.stays _ _ _ _ taken' _ member).mono (by omega) (by omega)

theorem placed_alternatives {pieces : List Piece} (all : ∀ piece ∈ pieces, Placed piece) :
    Placed (alternatives pieces) := by
  induction pieces with
  | nil => exact placed_nothing
  | cons piece rest ih =>
    have behind := ih fun other member => all other (List.mem_cons_of_mem _ member)
    cases rest with
    | nil => exact all piece List.mem_cons_self
    | cons second others => exact (all piece List.mem_cons_self).choice behind

theorem Placed.conditional (one : Placed test) (two : Placed yes) (three : Placed no) :
    Placed (conditional test yes no) := by
  have atomic := (one.append (placed_single .endAtomic (fun _ => rfl) fun _ _ => trivial)).append two
  exact (placed_single .beginAtomic (fun _ => rfl) fun _ _ => trivial).append (atomic.choice three)

end Piece

section Pieces
open Piece
variable {hard greedy : Bool} {body : Piece} {kind : Look} {child : Expr}

theorem placed_handOver (parts : List Expr) : Placed (handOver parts) := by
  unfold handOver
  split
  · exact placed_nothing
  · split
    · exact placed_single (.literal _) (fun _ => rfl) fun _ _ => trivial
    · refine ⟨fun distance start slots => ?_, fun start slots code used found => ?_⟩
      · simp only [Option.map_map]
        rfl
      · obtain ⟨regex, -, same⟩ := Option.map_eq_some_iff.mp found
        cases same
        intro instruction member
        rw [List.mem_singleton.mp member]
        trivial

theorem placed_lookBody (placed : Placed body) : Placed (lookBody kind child body) := by
  unfold lookBody
  split
  · exact placed
  · split
    · exact (placed_single (.goBack _) (fun _ => rfl) fun _ _ => trivial).append placed
    · exact ⟨fun _ _ _ => rfl, by rintro _ _ _ _ ⟨⟩⟩

theorem placed_lookPiece (placed : Placed body) : Placed (lookPiece kind child body) := by
  unfold lookPiece
  dsimp only
  split
  · exact (placed_lookBody placed).negative
  · exact (placed_lookBody placed).positive

theorem placed_lookWhole {bodies : List Piece} (placed : Placed body) (all : ∀ piece ∈ bodies, Placed piece) :
    Placed (lookWhole kind child body bodies) := by
  unfold lookWhole
  split
  · split
    · have each (branches : List Expr) : ∀ piece ∈ (branches.zip bodies).map fun pair => lookPiece kind pair.1 pair.2,
          Placed piece := by
        intro piece member
        obtain ⟨pair, zipped, rfl⟩ := List.mem_map.mp member
        exact placed_lookPiece (all pair.2 (List.of_mem_zip zipped).2)
      unfold lookEach
      dsimp only
      split
      · exact placed_concat (each _)
      · exact placed_alternatives (each _)
    · exact placed_lookPiece placed
  · exact placed_lookPiece placed

theorem placed_concatPiece (parts : List Expr) {pieces : List Piece} (all : ∀ piece ∈ pieces, Placed piece) :
    Placed (concatPiece hard parts pieces) := by
  unfold concatPiece
  refine (placed_handOver _).append ((placed_concat fun piece member => ?_).append (placed_handOver _))
  exact all piece (List.mem_of_mem_drop (List.mem_of_mem_take member))

theorem placed_loopPiece (childMin least : Nat) (most : Option Nat) (placed : Placed body) :
    Placed (loopPiece childMin least most greedy body) := by
  unfold loopPiece
  split
  · split
    · exact placed.counted (fun _ _ _ => rfl) fun _ _ _ _ below above => ⟨below, above⟩
    · split
      · exact placed.star
      · exact placed.plus
      · exact placed.counted (fun _ _ _ => rfl) fun _ _ _ _ below above => ⟨below, above⟩
  · exact placed.counted (fun _ _ _ => rfl) fun _ _ _ _ below above => ⟨below, above⟩

mutual
theorem placed_piece (hard : Bool) (expr : Expr) : Placed (piece hard expr) := by
  cases expr <;> unfold piece
  case empty =>
    split
    · exact placed_nothing
    · exact placed_handOver _
  case any newline =>
    split
    · split
      · exact placed_single .any (fun _ => rfl) fun _ _ => trivial
      · exact placed_single .anyButNewline (fun _ => rfl) fun _ _ => trivial
    · exact placed_handOver _
  case char | plain => exact placed_handOver _
  case place kind =>
    split
    · exact placed_single (.place kind) (fun _ => rfl) fun _ _ => trivial
    · exact placed_handOver _
  case concat parts =>
    split
    · exact placed_handOver _
    · exact placed_concatPiece parts (placed_pieces true parts)
  case alt branches =>
    split
    · exact placed_handOver _
    · exact placed_alternatives (placed_pieces hard branches)
  case group number referenced child =>
    split
    · exact placed_handOver _
    · exact ((placed_single (.save _) (fun _ => rfl) fun _ _ => trivial).append (placed_piece hard child)).append
        (placed_single (.save _) (fun _ => rfl) fun _ _ => trivial)
  case loop child least most greedy =>
    split
    · exact placed_handOver _
    · split
      · exact (placed_piece hard child).optional
      · exact placed_loopPiece _ _ _ (placed_piece true child)
  case look kind child => exact placed_lookWhole (placed_piece false child) (placed_branchPieces child)
  case backref number => exact placed_single (.backref number) (fun _ => rfl) fun _ _ => trivial
  case matched number => exact placed_single (.matched number) (fun _ => rfl) fun _ _ => trivial
  case atomic child =>
    exact ((placed_single .beginAtomic (fun _ => rfl) fun _ _ => trivial).append (placed_piece false child)).append
      (placed_single .endAtomic (fun _ => rfl) fun _ _ => trivial)
  case keepOut => exact placed_single (.save 0) (fun _ => rfl) fun _ _ => trivial
  case searchStart => exact placed_single .searchStart (fun _ => rfl) fun _ _ => trivial
  case condition test yes no =>
    exact (placed_piece hard test).conditional (placed_piece hard yes) (placed_piece hard no)

theorem placed_pieces (hard : Bool) (parts : List Expr) : ∀ piece ∈ pieces hard parts, Placed piece := by
  cases parts with
  | nil => intro piece member; cases member
  | cons part rest =>
    intro other member
    rcases List.mem_cons.mp member with rfl | member
    · exact placed_piece hard part
    · exact placed_pieces hard rest other member

theorem placed_branchPieces (expr : Expr) : ∀ piece ∈ branchPieces expr, Placed piece := by
  cases expr
  case alt branches => exact placed_pieces false branches
  all_goals
    intro piece member
    cases member
end

end Pieces
end RepositoryAccess.Lookaround
