namespace RepositoryAccess.Text

-- The first piece and the pieces after it, so that no text has an empty list of pieces.
def cut (separator : Char) : List Char → List Char × List (List Char)
  | [] => ([], [])
  | c :: rest =>
    let (first, others) := cut separator rest
    if c = separator then ([], first :: others) else (c :: first, others)

def pieces (separator : Char) (cs : List Char) : List (List Char) :=
  let (first, others) := cut separator cs
  first :: others

def join (separator : Char) : List (List Char) → List Char
  | [] => []
  | [only] => only
  | first :: next :: others => first ++ separator :: join separator (next :: others)

theorem pieces_nil (separator : Char) : pieces separator [] = [[]] := rfl

theorem pieces_separator (separator : Char) (rest : List Char) :
    pieces separator (separator :: rest) = [] :: pieces separator rest := by
  simp [pieces, cut]

theorem pieces_other {separator c : Char} (rest : List Char) (other : c ≠ separator) :
    pieces separator (c :: rest) =
      (c :: (cut separator rest).1) :: (cut separator rest).2 := by
  simp [pieces, cut, other]

theorem join_pieces (separator : Char) (cs : List Char) : join separator (pieces separator cs) = cs := by
  induction cs with
  | nil => rfl
  | cons c rest ih =>
    unfold pieces at ih
    cases found : cut separator rest with
    | mk first others =>
      simp only [found] at ih
      by_cases same : c = separator
      · simp [pieces, cut, found, same, join, ih]
      · cases others with
        | nil => simp_all [pieces, cut, join]
        | cons next more => simp_all [pieces, cut, join]

theorem pieces_free (separator : Char) (cs : List Char) :
    ∀ piece ∈ pieces separator cs, separator ∉ piece := by
  induction cs with
  | nil => simp [pieces, cut]
  | cons c rest ih =>
    unfold pieces at ih
    cases found : cut separator rest with
    | mk first others =>
      simp only [found, List.mem_cons, forall_eq_or_imp] at ih
      by_cases same : c = separator
      · simp [pieces, cut, found, same]; exact ih
      · simp [pieces, cut, found, same, Ne.symm same]; exact ih

theorem pieces_whole {separator : Char} {cs : List Char} (free : separator ∉ cs) :
    pieces separator cs = [cs] := by
  induction cs with
  | nil => rfl
  | cons c rest ih =>
    simp only [List.mem_cons, not_or] at free
    have tail := ih free.2
    unfold pieces at tail
    cases found : cut separator rest with
    | mk first others =>
      simp only [found, List.cons.injEq] at tail
      simp [pieces, cut, found, Ne.symm free.1, tail.1, tail.2]

variable {separator c : Char} {cs piece : List Char} {parts : List (List Char)}

theorem pieces_front (free : separator ∉ piece) (rest : List Char) :
    pieces separator (piece ++ separator :: rest) = piece :: pieces separator rest := by
  induction piece with
  | nil => exact pieces_separator separator rest
  | cons c piece ih =>
    rw [List.mem_cons, not_or] at free
    have later := ih free.2
    rw [List.cons_append, pieces_other _ (Ne.symm free.1)]
    obtain ⟨same, others⟩ := List.cons.inj later
    rw [same, others]

theorem pieces_join (free : ∀ part ∈ parts, separator ∉ part)
    (nonempty : parts ≠ []) : pieces separator (join separator parts) = parts := by
  induction parts with
  | nil => exact absurd rfl nonempty
  | cons part parts ih =>
    cases parts with
    | nil => exact pieces_whole (free part List.mem_cons_self)
    | cons next parts =>
      rw [join, pieces_front (free part List.mem_cons_self)]
      rw [ih (fun other member => free other (List.mem_cons_of_mem _ member)) (List.cons_ne_nil _ _)]

theorem exists_piece (member : c ∈ cs) (other : c ≠ separator) :
    ∃ piece ∈ pieces separator cs, c ∈ piece := by
  induction cs with
  | nil => cases member
  | cons first rest ih =>
    by_cases same : first = separator
    · rw [same, pieces_separator]
      have later : c ∈ rest := (List.mem_cons.mp member).resolve_left fun h => other (h.trans same)
      obtain ⟨piece, isPiece, inner⟩ := ih later
      exact ⟨piece, List.mem_cons_of_mem _ isPiece, inner⟩
    · rw [pieces_other rest same]
      rcases List.mem_cons.mp member with rfl | later
      · exact ⟨_, List.mem_cons_self, List.mem_cons_self⟩
      · obtain ⟨piece, isPiece, inner⟩ := ih later
        rcases List.mem_cons.mp isPiece with rfl | after
        · exact ⟨_, List.mem_cons_self, List.mem_cons_of_mem _ inner⟩
        · exact ⟨piece, List.mem_cons_of_mem _ after, inner⟩

theorem mem_join (member : c ∈ join separator parts) :
    c = separator ∨ ∃ part ∈ parts, c ∈ part := by
  induction parts with
  | nil => cases member
  | cons part parts ih =>
    cases parts with
    | nil => exact .inr ⟨part, List.mem_cons_self, member⟩
    | cons next parts =>
      unfold join at member
      rcases List.mem_append.mp member with here | there
      · exact .inr ⟨part, List.mem_cons_self, here⟩
      · rcases List.mem_cons.mp there with same | later
        · exact .inl same
        · refine (ih later).imp_right fun ⟨other, isPart, inner⟩ => ?_
          exact ⟨other, List.mem_cons_of_mem _ isPart, inner⟩

theorem mem_join_of_mem (isPart : piece ∈ parts) (member : c ∈ piece) : c ∈ join separator parts := by
  induction parts with
  | nil => cases isPart
  | cons first parts ih =>
    cases parts with
    | nil => exact List.mem_singleton.mp isPart ▸ member
    | cons next parts =>
      rw [join, List.mem_append]
      rcases List.mem_cons.mp isPart with rfl | later
      · exact .inl member
      · exact .inr (List.mem_cons_of_mem _ (ih later))

theorem join_concat (separator : Char) (nonempty : parts ≠ []) (last : List Char) :
    join separator (parts ++ [last]) = join separator parts ++ separator :: last := by
  induction parts with
  | nil => exact absurd rfl nonempty
  | cons first parts ih =>
    cases parts with
    | nil => rfl
    | cons next parts =>
      have later := ih (List.cons_ne_nil _ _)
      rw [List.cons_append] at later
      rw [List.cons_append, List.cons_append, join, later, join, List.append_assoc, List.cons_append]

end RepositoryAccess.Text
