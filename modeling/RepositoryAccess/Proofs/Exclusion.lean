import RepositoryAccess.Proofs.Ends
import RepositoryAccess.Proofs.Literals

namespace RepositoryAccess.Lookaround
open RepositoryAccess.Text RepositoryAccess.Pattern RepositoryAccess.Target

section Reading
variable {α β : Type} {size depth fuel : Nat} {cs rest after : List Char} {atom part child : Expr} {parts : List Expr}
  {c : Char}

def Gives (read : Read α) (x : α) : Prop := read {} = some (x, {})

theorem Gives.bind {read : Read α} {x : α} {next : α → Read β} {y : β} (first : Gives read x)
    (onward : Gives (next x) y) : Gives (read >>= next) y := by
  unfold Gives at *
  show (read {} >>= fun p => next p.1 p.2) = _
  rw [first]
  exact onward

theorem gives_pure (x : α) : Gives (pure x) x := rfl

theorem gives_get : Gives get ({} : Reading) := rfl

theorem gives_lift {found : Option α} {x : α} (same : found = some x) : Gives (liftM found) x := by
  rw [same]
  rfl

-- No comment begins here, and nothing that repeats what was read before.
def Onward (cs : List Char) : Prop :=
  (∀ rest, cs ≠ '(' :: '?' :: '#' :: rest) ∧ ∀ c ∈ cs.head?, c ∉ ['?', '*', '+', '{']

theorem skipGap_open (open_ : ∀ rest, cs ≠ '(' :: '?' :: '#' :: rest) : skipGap false .blanks cs = some cs := by
  unfold skipGap
  split
  all_goals first
    | rfl
    | simp_all

theorem gives_skip (open_ : ∀ rest, cs ≠ '(' :: '?' :: '#' :: rest) : Gives (skip cs) cs := by
  show (skipGap false .blanks cs >>= fun cs => some (cs, ({} : Reading))) = _
  rw [skipGap_open open_]
  rfl

theorem gives_part (read : Gives (readAtom size depth fuel cs) (atom, rest)) (onward : Onward rest) :
    Gives (readPart size depth (fuel + 1) cs) (atom, rest) := by
  unfold readPart
  refine read.bind ((gives_skip onward.1).bind (gives_get.bind ?_))
  cases rest with
  | nil => exact gives_pure _
  | cons c others =>
    have single := onward.2 c rfl
    simp only [List.mem_cons, List.not_mem_nil, or_false, not_or] at single
    have uncounted : count? false (c :: others) = none := by simp [count?, single]
    simp only [uncounted]
    exact gives_pure _

theorem gives_star (read : Gives (readAtom size depth fuel cs) (atom, '*' :: rest))
    (repeatable : atom.isRepeatable = true) (onward : Onward rest) : Gives (readPart size depth (fuel + 1) cs) (.loop atom 0 none true, rest) := by
  unfold readPart
  refine read.bind ((gives_skip (by simp)).bind (gives_get.bind ?_))
  simp only [repeatable, Bool.not_true, Bool.false_eq_true, if_false]
  refine (gives_skip onward.1).bind ?_
  cases rest with
  | nil => exact gives_pure _
  | cons c others =>
    have single := onward.2 c rfl
    simp only [List.mem_cons, List.not_mem_nil, or_false, not_or] at single
    simp [readLaziness_cons, possessive, single]
    exact gives_pure _

theorem gives_run (nonempty : cs ≠ []) (read : Gives (readPart size depth fuel cs) (part, rest))
    (shorter : rest.length < cs.length) (something : part.isEmpty = false) {result : Expr × List Char}
    (others : Gives (readRun size depth fuel (part :: parts) rest) result) :
    Gives (readRun size depth (fuel + 1) parts cs) result := by
  unfold readRun
  simp only [List.isEmpty_iff, nonempty, if_false]
  refine read.bind ?_
  simp only [beq_iff_eq, shorter.ne, something, if_false, Bool.false_eq_true]
  exact others

theorem gives_run_end : Gives (readRun size depth (fuel + 1) parts []) (joinParts parts.reverse, []) := by
  unfold readRun
  exact gives_pure _

theorem gives_run_closed :
    Gives (readRun size depth (fuel + 3) parts (')' :: rest)) (joinParts parts.reverse, ')' :: rest) := by
  have nothing : Gives (readAtom size depth (fuel + 1) (')' :: rest)) (.empty, ')' :: rest) := by
    unfold readAtom
    exact (gives_skip (by simp)).bind (gives_get.bind (gives_pure _))
  unfold readRun
  refine (gives_part nothing ⟨by simp, by simp⟩).bind ?_
  simp only [beq_self_eq_true, if_true]
  exact gives_pure _

theorem gives_branches (read : Gives (readRun size depth fuel [] cs) (part, rest))
    (stop : rest = [] ∨ ∃ others, rest = ')' :: others) :
    Gives (readBranches size depth (fuel + 1) cs) (part, rest) := by
  unfold readBranches
  refine read.bind ?_
  rcases stop with rfl | ⟨others, rfl⟩
  · refine (gives_skip (by simp)).bind ?_
    exact gives_pure _
  · refine (gives_skip (by simp)).bind ?_
    exact gives_pure _

theorem gives_closing : Gives (closing (')' :: rest)) rest := by
  unfold closing
  exact (gives_skip (by simp)).bind (gives_pure _)

theorem gives_look (shallow : depth + 1 < depthLimit)
    (read : Gives (readBranches size (depth + 1) fuel cs) (child, ')' :: rest)) :
    Gives (readAtom size depth (fuel + 2) ('(' :: '?' :: '!' :: cs)) (.look ⟨false, true⟩ child, rest) := by
  have group : Gives (readGroup size depth (fuel + 1) ('?' :: '!' :: cs)) (.look ⟨false, true⟩ child, rest) := by
    unfold readGroup
    simp only [ge_iff_le, Nat.not_le.mpr shallow, if_false]
    refine (gives_skip (by simp)).bind ?_
    refine (gives_lift (x := (Opening.look ⟨false, true⟩, cs)) rfl).bind ?_
    exact read.bind (gives_closing.bind (gives_pure _))
  unfold readAtom
  exact (gives_skip (by simp)).bind (gives_get.bind group)

theorem gives_group (shallow : depth + 1 < depthLimit)
    (read : Gives (readBranches size (depth + 1) fuel cs) (child, ')' :: rest)) :
    Gives (readAtom size depth (fuel + 2) ('(' :: '?' :: ':' :: cs)) (child, rest) := by
  have colon : Gives (readFlags ((':' :: cs).length + 1) 0 false (':' :: cs)) (false, cs) := by
    unfold readFlags
    exact (gives_skip (by simp)).bind (gives_pure _)
  have group : Gives (readGroup size depth (fuel + 1) ('?' :: ':' :: cs)) (child, rest) := by
    unfold readGroup
    simp only [ge_iff_le, Nat.not_le.mpr shallow, if_false]
    refine (gives_skip (by simp)).bind ?_
    refine (gives_lift (x := (Opening.flags, ':' :: cs)) rfl).bind ?_
    refine gives_get.bind (colon.bind (read.bind (gives_closing.bind ?_)))
    rfl
  unfold readAtom
  exact (gives_skip (by simp)).bind (gives_get.bind group)

theorem gives_dot : Gives (readAtom size depth (fuel + 1) ('.' :: rest)) (.any false, rest) := by
  unfold readAtom
  exact (gives_skip (by simp)).bind (gives_get.bind (gives_pure _))

theorem gives_start : Gives (readAtom size depth (fuel + 1) ('^' :: rest)) (.place .textStart, rest) := by
  unfold readAtom
  exact (gives_skip (by simp)).bind (gives_get.bind (gives_pure _))

theorem gives_finish : Gives (readAtom size depth (fuel + 1) ('$' :: rest)) (.place .textEnd, rest) := by
  unfold readAtom
  exact (gives_skip (by simp)).bind (gives_get.bind (gives_pure _))

theorem gives_itself (plain : c ≠ '\\' ∧ c ∉ metaCharacters) :
    Gives (readAtom size depth (fuel + 1) (c :: rest)) (.char c false, rest) := by
  have single := not_operator plain
  simp only [operators, List.mem_cons, List.not_mem_nil, or_false, not_or] at single
  unfold readAtom
  refine (gives_skip ?_).bind (gives_get.bind ?_)
  · rintro others same
    cases same
    exact single.1 rfl
  · simp [single]
    exact gives_pure _

theorem toLower_sign (sign : c.isAlphanum = false) : c.toLower = c := by
  unfold Char.toLower
  rw [dif_neg]
  intro upper
  have capital : c.isUpper = true := decide_eq_true upper
  have kinds : c.isAlphanum = (c.isUpper || c.isLower || c.isDigit) := rfl
  rw [kinds, capital] at sign
  cases sign

theorem gives_sign (sign : isAsciiPunctuation c = true) (plain : c ≠ '<' ∧ c ≠ '>') :
    Gives (readAtom size depth (fuel + 1) ('\\' :: c :: rest)) (.char c false, rest) := by
  simp only [isAsciiPunctuation, Bool.and_eq_true, Bool.not_eq_true'] at sign
  have other (d : Char) (alphanum : d.isAlphanum = true) : c ≠ d := by
    rintro rfl
    rw [alphanum] at sign
    cases sign.2
  have kind : c.isAlpha = false ∧ c.isDigit = false := Bool.or_eq_false_iff.mp sign.2
  have itself : otherEscape? c = some (.char c false) := by
    unfold otherEscape?
    split
    all_goals first
      | exact absurd rfl (other _ (by decide))
      | simp only [kind.1, Bool.false_and, Bool.false_eq_true, if_false]
  have single (flags : Flags) : singleEscape? false flags c = some (.char c false) := by
    simp [singleEscape?, toLower_sign sign.2, other]
    unfold placeEscape?
    split
    all_goals first
      | exact absurd rfl (other _ (by decide))
      | exact absurd rfl plain.1
      | exact absurd rfl plain.2
      | exact itself
  have escape : Gives (readEscape false size (c :: rest)) (.char c false, rest) := by
    refine gives_get.bind ?_
    simp [kind.2, other, single]
    rfl
  unfold readAtom
  exact (gives_skip (by simp)).bind (gives_get.bind (escape.bind (gives_pure _)))

def Calm (cs : List Char) : Prop := cs.head? ≠ some '(' ∧ ∀ c ∈ cs.head?, c ∉ ['?', '*', '+', '{']

theorem Calm.onward (calm : Calm cs) : Onward cs := by
  refine ⟨?_, calm.2⟩
  rintro rest rfl
  exact calm.1 rfl

theorem Calm.append {text literal tail : List Char} (calm : Calm tail) (spells : Spells text literal) :
    Calm (text ++ tail) := by
  cases spells with
  | nothing => exact calm
  | escaped sign plain others => exact ⟨by simp, by simp⟩
  | @itself c text literal plain others =>
    have single := not_operator plain
    simp only [operators, List.mem_cons, List.not_mem_nil, or_false, not_or] at single
    exact ⟨by simp [single], by simp [single]⟩

theorem gives_letters {text literal tail : List Char} (spells : Spells text literal) (calm : Calm tail)
    {result : Expr × List Char}
    (others : Gives (readRun size depth (fuel + 2) ((literal.map (Expr.char · false)).reverse ++ parts) tail) result) :
    Gives (readRun size depth (fuel + 2 + literal.length) parts (text ++ tail)) result := by
  induction spells generalizing parts with
  | nothing => exact others
  | @escaped c text literal sign plain rest ih =>
    have part : Gives (readPart size depth (fuel + literal.length + 2) ('\\' :: c :: text ++ tail))
        (.char c false, text ++ tail) := gives_part (gives_sign sign plain) (calm.append rest).onward
    rw [Nat.add_right_comm] at part
    have shorter : (text ++ tail).length < ('\\' :: c :: text ++ tail).length := by
      simp only [List.cons_append, List.length_cons]
      omega
    exact gives_run (by simp) part shorter rfl (ih (by simpa using others))
  | @itself c text literal plain rest ih =>
    have part : Gives (readPart size depth (fuel + literal.length + 2) (c :: text ++ tail))
        (.char c false, text ++ tail) := gives_part (gives_itself plain) (calm.append rest).onward
    rw [Nat.add_right_comm] at part
    exact gives_run (by simp) part (by simp) rfl (ih (by simpa using others))

def anything : Expr := .loop (.any false) 0 none true

theorem gives_anything (onward : Onward rest) :
    Gives (readPart size depth (fuel + 2) ('.' :: '*' :: rest)) (anything, rest) := gives_star gives_dot rfl onward

-- The characters with anything before and behind them, and what has nothing of the kind from its start to
-- its end.
def around (literal : List Char) : Expr := .concat (anything :: literal.map (Expr.char · false) ++ [anything])

def exclusion (literal : List Char) : Expr :=
  .concat [.place .textStart, .concat [.look ⟨false, true⟩ (around literal), anything], .place .textEnd]

theorem gives_around {text literal : List Char} (spells : Spells text literal) (rest : List Char) :
    Gives (readBranches size depth (fuel + literal.length + 6) ('.' :: '*' :: (text ++ '.' :: '*' :: ')' :: rest)))
      (around literal, ')' :: rest) := by
  have closed : Onward (')' :: rest) := ⟨by simp, by simp⟩
  have calm : Calm ('.' :: '*' :: ')' :: rest) := ⟨by simp, by simp⟩
  refine gives_branches ?_ (.inr ⟨rest, rfl⟩)
  refine gives_run (by simp) (gives_anything (calm.append spells).onward) ?_ rfl ?_
  · simp only [List.length_cons]
    omega
  have same : fuel + literal.length + 4 = fuel + 2 + 2 + literal.length := by omega
  rw [same]
  refine gives_letters spells calm (gives_run (by simp) (gives_anything closed) (by simp) rfl ?_)
  have joined : joinParts (anything :: ((literal.map (Expr.char · false)).reverse ++ [anything])).reverse =
      around literal := by
    simp only [List.reverse_cons, List.reverse_append, List.reverse_reverse, List.reverse_nil, List.nil_append,
      List.cons_append, around]
    cases literal <;> rfl
  rw [← joined]
  exact gives_run_closed

theorem anchor_eq (pattern : List Char) : anchor pattern = '^' :: '(' :: '?' :: ':' :: (pattern ++ [')', '$']) := rfl

theorem excluding_eq (text rest : List Char) : excludeOpening ++ (text ++ excludeEnding) ++ rest =
    '(' :: '?' :: '!' :: '.' :: '*' :: (text ++ '.' :: '*' :: ')' :: '.' :: '*' :: rest) := by
  have opening : excludeOpening = ['(', '?', '!', '.', '*'] := rfl
  have behind : excludeEnding = ['.', '*', ')', '.', '*'] := rfl
  rw [opening, behind, List.append_assoc, List.append_assoc]
  rfl

theorem gives_excluding {text literal : List Char} (spells : Spells text literal) (shallow : depth + 1 < depthLimit)
    (rest : List Char) :
    Gives (readBranches size depth (fuel + literal.length + 11)
      (excludeOpening ++ (text ++ excludeEnding) ++ ')' :: rest)) (.concat [.look ⟨false, true⟩ (around literal), anything], ')' :: rest) := by
  have look : Gives (readAtom size depth (fuel + literal.length + 8)
      ('(' :: '?' :: '!' :: '.' :: '*' :: (text ++ '.' :: '*' :: ')' :: '.' :: '*' :: ')' :: rest)))
      (.look ⟨false, true⟩ (around literal), '.' :: '*' :: ')' :: rest) := gives_look shallow (gives_around spells _)
  have next : Onward ('.' :: '*' :: ')' :: rest) := ⟨by simp, by simp⟩
  have closed : Onward (')' :: rest) := ⟨by simp, by simp⟩
  rw [excluding_eq]
  refine gives_branches (gives_run (by simp) (gives_part look next) ?_ rfl ?_) (.inr ⟨rest, rfl⟩)
  · simp only [List.length_cons, List.length_append]
    omega
  exact gives_run (by simp) (gives_anything closed) (by simp) rfl gives_run_closed

theorem gives_exclusion {text literal : List Char} (spells : Spells text literal) :
    Gives (readBranches size 0 (fuel + literal.length + 17) (anchor (excludeOpening ++ (text ++ excludeEnding))))
      (exclusion literal, []) := by
  have group : Gives (readAtom size 0 (fuel + literal.length + 13)
      ('(' :: '?' :: ':' :: (excludeOpening ++ (text ++ excludeEnding) ++ [')', '$'])))
      (.concat [.look ⟨false, true⟩ (around literal), anything], ['$']) :=
    gives_group (by decide) (gives_excluding spells (by decide) ['$'])
  have next (cs : List Char) : Onward ('(' :: '?' :: ':' :: cs) := ⟨by simp, by simp⟩
  have finish : Onward ['$'] := ⟨by simp, by simp⟩
  have done : Onward [] := ⟨by simp, by simp⟩
  rw [anchor_eq]
  refine gives_branches (gives_run (by simp) (gives_part gives_start (next _)) (by simp) rfl ?_) (.inl rfl)
  refine gives_run (by simp) (gives_part group finish) (by simp) rfl ?_
  exact gives_run (by simp) (gives_part gives_finish done) (by simp) rfl gives_run_end

theorem markAll_same {referenced : List Nat} (same : ∀ part ∈ parts, part.mark referenced = part) :
    Expr.markAll referenced parts = parts := by
  induction parts with
  | nil => rfl
  | cons part others ih =>
    rw [Expr.markAll, same part (by simp), ih fun other member => same other (List.mem_cons_of_mem _ member)]

theorem mark_exclusion (literal : List Char) (referenced : List Nat) :
    (exclusion literal).mark referenced = exclusion literal := by
  have inner : (around literal).mark referenced = around literal := by
    rw [around, Expr.mark, markAll_same]
    intro part member
    rcases List.mem_append.mp member with inside | last
    · rcases List.mem_cons.mp inside with rfl | inside
      · rfl
      · obtain ⟨c, -, rfl⟩ := List.mem_map.mp inside
        rfl
    · rw [List.mem_singleton.mp last]
      rfl
  simp only [exclusion, Expr.mark, Expr.markAll, inner]
  rfl

theorem read_exclusion {text literal : List Char} (spells : Spells text literal) :
    Expr.read (anchor (excludeOpening ++ (text ++ excludeEnding))) = some (exclusion literal, 0) := by
  have enough : ∃ fuel, 8 * (anchor (excludeOpening ++ (text ++ excludeEnding))).length + 16 =
      fuel + literal.length + 17 := by
    have shorter := spells.length_le
    refine ⟨8 * (anchor (excludeOpening ++ (text ++ excludeEnding))).length + 16 - literal.length - 17, ?_⟩
    rw [anchor_eq, excluding_eq]
    simp only [List.length_cons, List.length_append]
    omega
  obtain ⟨fuel, same⟩ := enough
  have read (size : Nat) := @gives_exclusion size fuel text literal spells
  simp only [Expr.read, same, StateT.run]
  rw [read]
  simp [mark_exclusion]

end Reading

section Program
variable {literal : List Char}

theorem sign_of_needsEscape {c : Char} (needs : needsEscape c = true) :
    isAsciiPunctuation c = true ∧ c ≠ '<' ∧ c ≠ '>' := by
  have signs : "\\.+*?()|[]\x7b\x7d^$#".toList.all (fun d => isAsciiPunctuation d && d != '<' && d != '>') = true := by
    decide
  have found := List.all_eq_true.mp signs c (by simpa [needsEscape] using needs)
  simpa [and_assoc] using found

theorem plain_of_not_needsEscape {c : Char} (needs : needsEscape c = false) : c ≠ '\\' ∧ c ∉ metaCharacters := by
  have special : ('\\' :: metaCharacters).all needsEscape = true := by decide
  have other (member : c ∈ '\\' :: metaCharacters) : False := by
    rw [List.all_eq_true.mp special c member] at needs
    cases needs
  exact ⟨fun same => other (by simp [same]), fun member => other (List.mem_cons_of_mem _ member)⟩

theorem spells_escaped (literal : List Char) : Spells (literal.flatMap escaped) literal := by
  induction literal with
  | nil => exact .nothing
  | cons c others ih =>
    rw [List.flatMap_cons, escaped]
    cases needs : needsEscape c with
    | true =>
      obtain ⟨sign, plain⟩ := sign_of_needsEscape needs
      exact .escaped sign plain ih
    | false => exact .itself (plain_of_not_needsEscape needs) ih

def aroundRegex (literal : List Char) : Regex :=
  .seqAll ((anyRun :: literal.map letter ++ [anyRun]).map (·.regex))

theorem read_around (literal : List Char) :
    Regex.read (matchAll ++ (literal.flatMap escaped ++ matchAll)) = some (aroundRegex literal) :=
  (Spells.readAs_around (spells_escaped literal)).read (around_shallow literal)

theorem text_around (literal : List Char) :
    (around literal).text 1 = matchAll ++ (literal.flatMap escaped ++ matchAll) := by
  have letters (rest : List Expr) : Expr.concatText (literal.map (Expr.char · false) ++ rest) =
      literal.flatMap escaped ++ Expr.concatText rest := by
    induction literal with
    | nil => rfl
    | cons c others ih =>
      simp only [List.map_cons, List.cons_append, Expr.concatText, ih, List.flatMap_cons, List.append_assoc]
      rfl
  have whole : (around literal).text 1 =
      matchAll ++ Expr.concatText (literal.map (Expr.char · false) ++ [anything]) := rfl
  rw [whole, letters]
  rfl

theorem plain_around (literal : List Char) :
    Expr.anyHard (anything :: literal.map (Expr.char · false) ++ [anything]) = false := by
  rw [List.cons_append, Expr.anyHard]
  induction literal with
  | nil => rfl
  | cons c others ih => exact ih

theorem piece_around (literal : List Char) :
    piece false (around literal) = Piece.ofList [.plain (aroundRegex literal)] := by
  have texts : [around literal].flatMap (·.text 1) = matchAll ++ (literal.flatMap escaped ++ matchAll) := by
    rw [← text_around]
    simp
  have plain : piece false (around literal) = handOver [around literal] := by
    simp only [around, piece, plain_around, Bool.not_false, Bool.and_self, if_true]
  have whole : Expr.literals? [around literal] = none := rfl
  rw [plain, handOver, whole, texts, read_around]
  rfl

-- How the search for a pattern begins that has to begin where the text does.
def skipping : List Instruction := [.split 3 1, .any, .jump 0, .save 0, .plain (.look .textStart)]

def exclusionCode (literal : List Char) : List Instruction :=
  skipping ++ [.split 6 8, .plain (aroundRegex literal), .failLook, .split 9 11, .anyButNewline, .jump 8, .plain (.look .textEnd),
    .save 1, .finish]

theorem program_exclusion (literal : List Char) :
    Program.ofExpr (exclusion literal) 0 = some ⟨(exclusionCode literal).toArray, 2⟩ := by
  have look : piece true (.look ⟨false, true⟩ (around literal)) =
      (Piece.ofList [.plain (aroundRegex literal)]).negative := by
    rw [← piece_around]
    rfl
  have inner : piece true (.concat [.look ⟨false, true⟩ (around literal), anything]) = Piece.nothing.append
      ((Piece.concat [(Piece.ofList [.plain (aroundRegex literal)]).negative,
        (Piece.ofList [.anyButNewline]).star true]).append Piece.nothing) := by
    rw [← look]
    rfl
  have whole : search (exclusion literal) = Piece.nothing.append ((Piece.concat [(Piece.ofList [.any]).star false,
      ((Piece.ofList [.save 0]).append ((Piece.ofList [.plain (.look .textStart)]).append ((Piece.concat [
        piece true (.concat [.look ⟨false, true⟩ (around literal), anything])]).append
          (Piece.ofList [.plain (.look .textEnd)])))).append (Piece.ofList [.save 1])]).append Piece.nothing) := rfl
  rw [Program.ofExpr, whole, inner]
  rfl

end Program

section Running
variable {literal path : List Char} {text : Array Char} {code : Array Instruction} {machine next : Machine}
  {address place count gone fuel first second last : Nat} {slots : Slots} {way : Way} {ways : List Way} {regex : Regex}

theorem run_step (stepped : machine.step code text = .running next) :
    Machine.run code text (fuel + 1) machine = Machine.run code text fuel next := by
  rw [Machine.run, stepped]

theorem step_split (here : code[address]? = some (.split first second)) (room : count < wayLimit) :
    Machine.step code text ⟨address, place, slots, ways, count, gone⟩ =
      .running ⟨first, place, slots, ⟨second, place, slots⟩ :: ways, count + 1, gone⟩ := by
  simp only [Machine.step, here, Machine.obey, Machine.fork, ge_iff_le, Nat.not_le.mpr room, if_false]

theorem step_plain (here : code[address]? = some (.plain regex)) (found : regex.preferredEnd text place = some last) :
    Machine.step code text ⟨address, place, slots, ways, count, gone⟩ =
      .running ⟨address + 1, last, slots, ways, count, gone⟩ := by
  simp only [Machine.step, here, Machine.obey, found, Machine.moveTo]

theorem back_way (seldom : gone < backLimit) : Machine.back ⟨address, place, slots, way :: ways, count, gone⟩ =
    .running ⟨way.address, way.place, way.slots, ways, count - 1, gone + 1⟩ := by
  simp [Machine.back, seldom]

theorem step_notPlain (here : code[address]? = some (.plain regex)) (missing : regex.preferredEnd text place = none)
    (seldom : gone < backLimit) :
    Machine.step code text ⟨address, place, slots, way :: ways, count, gone⟩ =
      .running ⟨way.address, way.place, way.slots, ways, count - 1, gone + 1⟩ := by
  have back : Machine.step code text ⟨address, place, slots, way :: ways, count, gone⟩ =
      Machine.back ⟨address, place, slots, way :: ways, count, gone⟩ := by
    simp only [Machine.step, here, Machine.obey, missing]
  exact back.trans (back_way seldom)

theorem step_any (here : code[address]? = some .any) :
    Machine.step code text ⟨address, place, slots, ways, count, gone⟩ = if place < text.size
    then .running ⟨address + 1, place + 1, slots, ways, count, gone⟩ else Machine.back ⟨address, place, slots, ways, count, gone⟩ := by
  simp only [Machine.step, here, Machine.obey, Machine.moveTo]

theorem step_character {c : Char} (here : code[address]? = some .anyButNewline) (found : text[place]? = some c)
    (other : c ≠ '\n') : Machine.step code text ⟨address, place, slots, ways, count, gone⟩ =
      .running ⟨address + 1, place + 1, slots, ways, count, gone⟩ := by
  simp [Machine.step, here, Machine.obey, found, other, Machine.moveTo]

theorem step_noCharacter (here : code[address]? = some .anyButNewline) (ended : text[place]? = none)
    (seldom : gone < backLimit) :
    Machine.step code text ⟨address, place, slots, way :: ways, count, gone⟩ =
      .running ⟨way.address, way.place, way.slots, ways, count - 1, gone + 1⟩ := by
  have back : Machine.step code text ⟨address, place, slots, way :: ways, count, gone⟩ =
      Machine.back ⟨address, place, slots, way :: ways, count, gone⟩ := by
    simp only [Machine.step, here, Machine.obey, ended]
  exact back.trans (back_way seldom)

theorem start_holds : (Regex.look .textStart).preferredEnd text 0 = some 0 := rfl

theorem end_holds : (Regex.look .textEnd).preferredEnd path.toArray path.length = some path.length := by
  simp [Regex.preferredEnd, Regex.ends, Place.holds]

-- Past the start of the text, nothing that the program tries can match.
inductive Lost : Machine → Prop
  | skip (place : Nat) (slots : Slots) (count gone : Nat) : Lost ⟨1, place, slots, [], count, gone⟩
  | jump (place : Nat) (slots : Slots) (count gone : Nat) : Lost ⟨2, place + 1, slots, [], count, gone⟩
  | split (place : Nat) (slots : Slots) (count gone : Nat) : Lost ⟨0, place + 1, slots, [], count, gone⟩
  | save (place : Nat) (slots before : Slots) (count gone : Nat) :
      Lost ⟨3, place + 1, slots, [⟨1, place + 1, before⟩], count, gone⟩
  | start (place : Nat) (slots before : Slots) (count gone : Nat) :
      Lost ⟨4, place + 1, slots, [⟨1, place + 1, before⟩], count, gone⟩

theorem Lost.step (lost : Lost machine) (others : List Instruction) (text : Array Char) :
    machine.step (skipping ++ others).toArray text = .unmatched ∨
      ∃ next, machine.step (skipping ++ others).toArray text = .running next ∧ Lost next := by
  cases lost with
  | skip place slots count gone =>
    by_cases inside : place < text.size
    · exact .inr ⟨_, (step_any rfl).trans (if_pos inside), .jump place slots count gone⟩
    · exact .inl ((step_any rfl).trans (if_neg inside))
  | jump place slots count gone => exact .inr ⟨_, rfl, .split place slots count gone⟩
  | split place slots count gone =>
    by_cases room : count < wayLimit
    · exact .inr ⟨_, step_split rfl room, .save place slots slots (count + 1) gone⟩
    · exact .inl (if_pos (Nat.le_of_not_lt room))
  | save place slots before count gone => exact .inr ⟨_, rfl, .start place _ before count gone⟩
  | start place slots before count gone =>
    have missing : (Regex.look .textStart).preferredEnd text (place + 1) = none := rfl
    by_cases seldom : gone < backLimit
    · exact .inr ⟨_, step_notPlain rfl missing seldom, .skip (place + 1) before (count - 1) (gone + 1)⟩
    · exact .inl (if_pos (Nat.le_of_not_lt seldom))

theorem Lost.run (lost : Lost machine) (others : List Instruction) (text : Array Char) (fuel : Nat) :
    Machine.run (skipping ++ others).toArray text fuel machine = false := by
  induction fuel generalizing machine with
  | zero => rfl
  | succ fuel ih =>
    rcases lost.step others text with stopped | ⟨next, stepped, lost⟩
    · rw [Machine.run, stopped]
    · rw [run_step stepped]
      exact ih lost

-- Behind the look ahead the machine goes on to the end of the path, keeping a way back for each place.
theorem run_behind (line : '\n' ∉ path) (left : Nat) (whole : place + left = path.length)
    (few : count + left < wayLimit) (seldom : gone < backLimit) :
    Machine.run (exclusionCode literal).toArray path.toArray (fuel + 3 * left + 5)
      ⟨8, place, slots, ways, count, gone⟩ = true := by
  induction left generalizing place ways count with
  | zero =>
    cases whole
    have ended : path.toArray[path.length]? = none := by simp
    refine (run_step (step_split rfl few)).trans ?_
    refine (run_step (step_noCharacter rfl ended seldom)).trans ?_
    refine (run_step (step_plain rfl end_holds)).trans ?_
    rfl
  | succ left ih =>
    have inside : place < path.length := by omega
    have other : path[place] ≠ '\n' := fun same => line (same ▸ List.getElem_mem inside)
    have found : path.toArray[place]? = some path[place] := by simp [inside]
    have rounds : fuel + 3 * (left + 1) + 5 = fuel + 3 * left + 5 + 1 + 1 + 1 := by omega
    rw [rounds]
    refine (run_step (step_split rfl (by omega))).trans ?_
    have onward : place + 1 + left = path.length ∧ count + 1 + left < wayLimit := by omega
    exact (run_step (step_character rfl found other)).trans (ih onward.1 onward.2)

theorem run_without (line : '\n' ∉ path) (few : path.length + 1 < wayLimit)
    (missing : (aroundRegex literal).preferredEnd path.toArray 0 = none) :
    Machine.run (exclusionCode literal).toArray path.toArray (fuel + 3 * path.length + 10) (Machine.start 2) = true := by
  have first : 0 < wayLimit ∧ 1 < wayLimit ∧ 0 < backLimit := by decide
  refine (run_step (step_split rfl first.1)).trans ?_
  refine (run_step rfl).trans ?_
  refine (run_step (step_plain rfl start_holds)).trans ?_
  refine (run_step (step_split rfl first.2.1)).trans ?_
  refine (run_step (step_notPlain rfl missing first.2.2)).trans ?_
  exact run_behind line path.length (Nat.zero_add _) (by omega) (by decide)

theorem run_with (found : (aroundRegex literal).preferredEnd path.toArray 0 = some last) :
    Machine.run (exclusionCode literal).toArray path.toArray (fuel + 6) (Machine.start 2) = false := by
  have first : 0 < wayLimit ∧ 1 < wayLimit ∧ 0 < backLimit := by decide
  refine (run_step (step_split rfl first.1)).trans ?_
  refine (run_step rfl).trans ?_
  refine (run_step (step_plain rfl start_holds)).trans ?_
  refine (run_step (step_split rfl first.2.1)).trans ?_
  refine (run_step (step_plain rfl found)).trans ?_
  refine (run_step rfl).trans ?_
  exact Lost.run (.skip 0 _ _ _) _ path.toArray fuel

theorem preferredEnd_around (line : '\n' ∉ path) :
    ((aroundRegex literal).preferredEnd path.toArray 0).isSome = occursIn literal path := by
  rw [Bool.eq_iff_iff, Regex.preferredEnd_isSome, occursIn_iff]
  constructor
  · rintro ⟨last, spans⟩
    obtain ⟨place, -, occurs, further, stop⟩ := (spans_around line (Nat.zero_le _)).mp spans
    exact ⟨place, by omega, occurs⟩
  · rintro ⟨place, inside, occurs⟩
    exact ⟨path.length, (spans_around line (Nat.zero_le _)).mpr
      ⟨place, Nat.zero_le _, occurs, prefix_drop_le occurs inside, Nat.le_refl _⟩⟩

end Running

section Matching
variable {text literal path : List Char}

theorem matcher_exclusion (spells : Spells text literal) :
    Matcher.read (anchor (excludeOpening ++ (text ++ excludeEnding))) =
      some (.search (exclusion literal) ⟨(exclusionCode literal).toArray, 2⟩) := by
  have hard : (exclusion literal).isHard = true := by
    simp [exclusion, Expr.isHard, Expr.anyHard]
  simp [Matcher.read, read_exclusion spells, hard, program_exclusion]

theorem isMatch_exclusion (line : '\n' ∉ path) (few : path.length + 1 < wayLimit) :
    (Matcher.search (exclusion literal) ⟨(exclusionCode literal).toArray, 2⟩).isMatch path = !occursIn literal path := by
  obtain ⟨fuel, enough⟩ : ∃ fuel, Matcher.steps (exclusion literal) path.length = fuel + 3 * path.length + 10 := by
    unfold Matcher.steps
    have large := Nat.le_mul_of_pos_left ((path.length + 2) * 4 + (exclusion literal).span path.length + 8)
      (show 0 < backLimit + 2 by decide)
    generalize (backLimit + 2) * ((path.length + 2) * 4 + (exclusion literal).span path.length + 8) = rounds at large
    exact ⟨rounds - (3 * path.length + 10), by omega⟩
  rw [← preferredEnd_around line]
  simp only [Matcher.isMatch, enough]
  cases ended : (aroundRegex literal).preferredEnd path.toArray 0 with
  | none => exact run_without line few ended
  | some last => exact run_with ended

end Matching
end RepositoryAccess.Lookaround
