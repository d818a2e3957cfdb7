namespace RepositoryAccess.Text

-- Puts a name where it belongs in an ascending list; a name already there is not repeated.
def place (name : String) : List String → List String
  | [] => [name]
  | head :: rest =>
    if name < head then name :: head :: rest
    else if name = head then head :: rest
    else head :: place name rest

theorem mem_place (name other : String) (names : List String) :
    other ∈ place name names ↔ other = name ∨ other ∈ names := by
  induction names with
  | nil => simp [place]
  | cons head rest ih =>
    unfold place
    split
    · simp
    · split
      · rename_i same; subst same; simp
      · simp [ih]; grind

theorem place_ascending (name : String) (names : List String) (ascending : names.Pairwise (· < ·)) :
    (place name names).Pairwise (· < ·) := by
  induction names with
  | nil => simp [place]
  | cons head rest ih =>
    obtain ⟨above, tail⟩ := List.pairwise_cons.mp ascending
    unfold place
    split
    · rename_i less
      refine List.pairwise_cons.mpr ⟨?_, ascending⟩
      intro other member
      rcases List.mem_cons.mp member with rfl | later
      · exact less
      · exact String.lt_trans less (above other later)
    · rename_i notLess
      split
      · exact ascending
      · rename_i different
        refine List.pairwise_cons.mpr ⟨?_, ih tail⟩
        intro other member
        rcases (mem_place _ _ _).mp member with rfl | later
        · rcases String.le_total other head with le | le
          · exact absurd (String.le_antisymm le (String.not_lt.mp notLess)) different
          · exact String.not_le.mp fun back => different (String.le_antisymm back le)
        · exact above other later

-- Ascending, so that two sets with the same members are the same value.
structure NameSet where
  names : List String
  ascending : names.Pairwise (· < ·)
  deriving DecidableEq

namespace NameSet

def empty : NameSet := ⟨[], .nil⟩

instance : Inhabited NameSet := ⟨empty⟩
instance : Membership String NameSet := ⟨fun set name => name ∈ set.names⟩
instance (name : String) (set : NameSet) : Decidable (name ∈ set) :=
  inferInstanceAs (Decidable (name ∈ set.names))

def insert (set : NameSet) (name : String) : NameSet :=
  ⟨place name set.names, place_ascending name set.names set.ascending⟩

def insertAll (set : NameSet) (names : List String) : NameSet := names.foldl insert set

def ofList (names : List String) : NameSet := empty.insertAll names

def singleton (name : String) : NameSet := empty.insert name

def erase (set : NameSet) (name : String) : NameSet :=
  ⟨set.names.filter (· ≠ name), set.ascending.filter _⟩

def size (set : NameSet) : Nat := set.names.length

def isEmpty (set : NameSet) : Bool := set.names.isEmpty

def subset (inner outer : NameSet) : Bool := inner.names.all (· ∈ outer.names)

theorem mem_insert (set : NameSet) (name other : String) :
    other ∈ set.insert name ↔ other = name ∨ other ∈ set := mem_place name other set.names

theorem mem_insertAll (set : NameSet) (names : List String) (other : String) :
    other ∈ set.insertAll names ↔ other ∈ names ∨ other ∈ set := by
  induction names generalizing set with
  | nil => simp [insertAll]
  | cons head rest ih =>
    have step := ih (set.insert head)
    rw [mem_insert] at step
    simp only [insertAll, List.foldl_cons] at step ⊢
    rw [step, List.mem_cons]
    grind

theorem not_mem_empty (name : String) : ¬ name ∈ empty := List.not_mem_nil

theorem mem_ofList (names : List String) (name : String) : name ∈ ofList names ↔ name ∈ names := by
  simp [ofList, mem_insertAll, not_mem_empty]

theorem mem_singleton (name other : String) : other ∈ singleton name ↔ other = name := by
  simp [singleton, mem_insert, not_mem_empty]

theorem mem_erase (set : NameSet) (name other : String) :
    other ∈ set.erase name ↔ other ∈ set ∧ other ≠ name := by
  show other ∈ set.names.filter (· ≠ name) ↔ _
  rw [List.mem_filter, decide_eq_true_iff]
  exact Iff.rfl

theorem mem_iff (set : NameSet) (name : String) : name ∈ set ↔ name ∈ set.names := Iff.rfl

theorem subset_iff (inner outer : NameSet) :
    inner.subset outer = true ↔ ∀ name, name ∈ inner → name ∈ outer := by
  simp [subset, mem_iff]

theorem ascending_unique {left right : List String} (l : left.Pairwise (· < ·))
    (r : right.Pairwise (· < ·)) (same : ∀ name, name ∈ left ↔ name ∈ right) : left = right := by
  induction left generalizing right with
  | nil =>
    cases right with
    | nil => rfl
    | cons head rest => exact absurd ((same head).mpr (by simp)) (by simp)
  | cons a as ih =>
    cases right with
    | nil => exact absurd ((same a).mp (by simp)) (by simp)
    | cons b bs =>
      obtain ⟨la, lt⟩ := List.pairwise_cons.mp l
      obtain ⟨rb, rt⟩ := List.pairwise_cons.mp r
      have heads : a = b := by
        rcases List.mem_cons.mp ((same a).mp (by simp)) with eq | inBs
        · exact eq
        · rcases List.mem_cons.mp ((same b).mpr (by simp)) with eq | inAs
          · exact eq.symm
          · exact absurd (String.lt_trans (la b inAs) (rb a inBs)) (String.lt_irrefl a)
      subst heads
      have tails : as = bs := ih lt rt fun name => by
        constructor
        · intro member
          rcases List.mem_cons.mp ((same name).mp (List.mem_cons_of_mem _ member)) with eq | found
          · subst eq; exact absurd (la name member) (String.lt_irrefl name)
          · exact found
        · intro member
          rcases List.mem_cons.mp ((same name).mpr (List.mem_cons_of_mem _ member)) with eq | found
          · subst eq; exact absurd (rb name member) (String.lt_irrefl name)
          · exact found
      rw [tails]

theorem ext_mem {left right : NameSet} (same : ∀ name, name ∈ left ↔ name ∈ right) : left = right := by
  obtain ⟨l, hl⟩ := left
  obtain ⟨r, hr⟩ := right
  have eq : l = r := ascending_unique hl hr same
  subst eq
  rfl

end NameSet
end RepositoryAccess.Text
