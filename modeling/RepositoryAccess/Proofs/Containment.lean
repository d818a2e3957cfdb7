import Mathlib.Data.List.Induction
import RepositoryAccess.Target.Register

namespace RepositoryAccess.Target
open RepositoryAccess.Text

def GoesWith {Class : Type} [Classification Class] (own other : Class) : Prop :=
  Classification.id own = Classification.id other ∨ Classification.isCompatible own other = true ∨
    Classification.isCompatible other own = true

theorem ContentClass.goesWith_iff (own other : ContentClass) :
    GoesWith own other ↔ own.id = other.id ∨ other.id ∈ own.compatible ∨ own.id ∈ other.compatible := by
  simp only [GoesWith, Classification.id, Classification.isCompatible, ContentClass.isCompatible, Bool.or_eq_true,
    decide_eq_true_eq]
  grind

def Compiles (pattern : String) : Prop := ∃ shape, Shape.compile pattern.toList = .ok shape

def Matches (pattern path : String) : Prop :=
  ∃ shape, Shape.compile pattern.toList = .ok shape ∧ shape.matchesPath path.toList = true

structure LeastFaulty (patterns : List String) (pattern : String) (fault : PatternFault) : Prop where
  given : pattern ∈ patterns
  faulty : Shape.compile pattern.toList = .error fault
  least : ∀ other ∈ patterns, other < pattern → Compiles other

variable {Class : Type} {id name : String} {own other : Class} {patterns others : List String}
  {target : Target Class}

theorem acceptsClass_iff [Classification Class] (target : Target Class) (other : Class) :
    target.acceptsClass other = true ↔ GoesWith target.contentClass other := by
  rw [acceptsClass, Bool.or_eq_true, Bool.or_eq_true, decide_eq_true_iff, or_assoc]
  rfl

theorem not_compiles_iff {pattern : String} :
    ¬ Compiles pattern ↔ ∃ fault, Shape.compile pattern.toList = .error fault := by
  unfold Compiles
  cases Shape.compile pattern.toList <;> simp

theorem compileAll_ok {shapes : List Shape} (compiled : compileAll id patterns = .ok shapes) :
    (∀ pattern ∈ patterns, Compiles pattern) ∧
      ∀ shape, shape ∈ shapes ↔ ∃ pattern ∈ patterns, Shape.compile pattern.toList = .ok shape := by
  induction patterns generalizing shapes with
  | nil =>
    cases compiled
    exact ⟨fun _ member => absurd member List.not_mem_nil, by simp⟩
  | cons pattern rest ih =>
    unfold compileAll at compiled
    cases first : Shape.compile pattern.toList with
    | error fault => simp [first] at compiled
    | ok shape =>
      cases later : compileAll id rest with
      | error invalid => simp [first, later, Except.map] at compiled
      | ok found =>
        simp only [first, later, Except.map, Except.ok.injEq] at compiled
        obtain ⟨compile, members⟩ := ih later
        refine ⟨List.forall_mem_cons.mpr ⟨⟨shape, first⟩, compile⟩, fun other => ?_⟩
        rw [← compiled]
        simp [members, first, eq_comm]

theorem leastFaulty_first {first pattern : String} {fault found : PatternFault}
    (ascending : (first :: patterns).Pairwise (· < ·)) (faulty : Shape.compile first.toList = .error found) :
    LeastFaulty (first :: patterns) pattern fault ↔ pattern = first ∧ fault = found := by
  obtain ⟨above, _⟩ := List.pairwise_cons.mp ascending
  constructor
  · intro least
    rcases List.mem_cons.mp least.given with rfl | later
    · exact ⟨rfl, Except.error.inj (least.faulty.symm.trans faulty)⟩
    · obtain ⟨shape, compiled⟩ := least.least first List.mem_cons_self (above pattern later)
      cases faulty.symm.trans compiled
  · intro same
    obtain ⟨rfl, rfl⟩ := same
    refine ⟨List.mem_cons_self, faulty, fun earlier member less => ?_⟩
    rcases List.mem_cons.mp member with rfl | later
    · exact absurd less (String.lt_irrefl _)
    · exact absurd (String.lt_trans less (above earlier later)) (String.lt_irrefl _)

theorem leastFaulty_later {first pattern : String} {fault : PatternFault} (compiles : Compiles first) :
    LeastFaulty (first :: patterns) pattern fault ↔ LeastFaulty patterns pattern fault := by
  constructor
  · intro least
    refine ⟨(List.mem_cons.mp least.given).resolve_left fun same => ?_, least.faulty, fun earlier member =>
      least.least earlier (List.mem_cons_of_mem _ member)⟩
    exact not_compiles_iff.mpr ⟨fault, least.faulty⟩ (same ▸ compiles)
  · intro least
    refine ⟨List.mem_cons_of_mem _ least.given, least.faulty, fun earlier member less => ?_⟩
    rcases List.mem_cons.mp member with rfl | later
    · exact compiles
    · exact least.least earlier later less

theorem compileAll_error {invalid : Invalid} (ascending : patterns.Pairwise (· < ·)) :
    compileAll id patterns = .error invalid ↔
      invalid.target = id ∧ LeastFaulty patterns invalid.pattern invalid.fault := by
  induction patterns with
  | nil => exact ⟨nofun, fun told => absurd told.2.given List.not_mem_nil⟩
  | cons pattern rest ih =>
    have ih := ih (List.pairwise_cons.mp ascending).2
    unfold compileAll
    cases first : Shape.compile pattern.toList with
    | error fault =>
      rw [leastFaulty_first ascending first]
      obtain ⟨named, text, why⟩ := invalid
      simp [eq_comm]
    | ok shape =>
      rw [leastFaulty_later ⟨shape, first⟩, ← ih]
      cases compileAll id rest <;> simp [Except.map]

-- A target is made unless `.*` is not among its patterns and one of them cannot be compiled.
theorem create_error {invalid : Invalid} : create id name own patterns = .error invalid ↔
    String.ofList matchAll ∉ patterns ∧ invalid.target = id ∧
      LeastFaulty patterns invalid.pattern invalid.fault := by
  have given : ∀ pattern, pattern ∈ (NameSet.ofList patterns).names ↔ pattern ∈ patterns :=
    NameSet.mem_ofList patterns
  have same {pattern : String} {fault : PatternFault} :
      LeastFaulty (NameSet.ofList patterns).names pattern fault ↔ LeastFaulty patterns pattern fault := by
    constructor
    · exact fun least => ⟨(given _).mp least.given, least.faulty, fun other member =>
        least.least other ((given _).mpr member)⟩
    · exact fun least => ⟨(given _).mpr least.given, least.faulty, fun other member =>
        least.least other ((given _).mp member)⟩
  unfold create
  dsimp only
  split
  · rename_i everything
    have everything := (NameSet.mem_ofList _ _).mp everything
    simp [everything]
  · rename_i some
    rw [NameSet.mem_ofList] at some
    rw [← same, ← compileAll_error (NameSet.ofList patterns).ascending]
    cases compileAll id (NameSet.ofList patterns).names <;> simp [Except.map, some]

theorem compile_matchAll : Shape.compile (String.ofList matchAll).toList = .ok .any := by
  rw [String.toList_ofList]
  rfl

-- What is made has the shapes of all patterns, in some order, or the one that makes them idle.
theorem create_parts (made : create id name own patterns = .ok target) :
    target.id = id ∧ target.contentClass = own ∧
    (String.ofList matchAll ∈ patterns ∧ target.shapes = [.any] ∨
      (∀ pattern ∈ patterns, Compiles pattern) ∧
        ∀ shape, shape ∈ target.shapes ↔ ∃ pattern ∈ patterns, Shape.compile pattern.toList = .ok shape) := by
  unfold create at made
  dsimp only at made
  split at made
  · rename_i everything
    cases made
    exact ⟨rfl, rfl, .inl ⟨(NameSet.mem_ofList _ _).mp everything, rfl⟩⟩
  · cases compiled : compileAll id (NameSet.ofList patterns).names with
    | error invalid => simp [compiled, Except.map] at made
    | ok shapes =>
      simp only [compiled, Except.map, Except.ok.injEq] at made
      obtain ⟨compile, members⟩ := compileAll_ok compiled
      have given : ∀ pattern, pattern ∈ (NameSet.ofList patterns).names ↔ pattern ∈ patterns :=
        NameSet.mem_ofList patterns
      rw [← made]
      refine ⟨rfl, rfl, .inr ⟨fun pattern member => ?_, fun shape => ?_⟩⟩
      · exact compile pattern ((given pattern).mpr member)
      · simp only [List.mem_mergeSort, members, given]

theorem any_matchesPath (made : create id name own patterns = .ok target) (path : String) :
    target.shapes.any (·.matchesPath path.toList) = true ↔ ∃ pattern ∈ patterns, Matches pattern path := by
  obtain ⟨_, _, ⟨everything, shapes⟩ | ⟨_, members⟩⟩ := create_parts made
  · rw [shapes]
    exact iff_of_true rfl ⟨_, everything, .any, compile_matchAll, rfl⟩
  · rw [List.any_eq_true]
    constructor
    · intro some
      obtain ⟨shape, isShape, fits⟩ := some
      obtain ⟨pattern, given, compiled⟩ := (members shape).mp isShape
      exact ⟨pattern, given, shape, compiled, fits⟩
    · intro some
      obtain ⟨pattern, given, shape, compiled, fits⟩ := some
      exact ⟨shape, (members shape).mpr ⟨pattern, given, compiled⟩, fits⟩

theorem containsPath_iff [Classification Class] (made : create id name own patterns = .ok target) (other : Class)
    (path : String) :
    target.containsPath other path = true ↔ GoesWith own other ∧ ∃ pattern ∈ patterns, Matches pattern path := by
  rw [containsPath, Bool.and_eq_true, acceptsClass_iff, any_matchesPath made, (create_parts made).2.1]

theorem create_fails_iff (some : String.ofList matchAll ∉ patterns) :
    (∃ invalid, create id name own patterns = .error invalid) ↔ ∃ pattern ∈ patterns, ¬ Compiles pattern := by
  constructor
  · intro fails
    obtain ⟨invalid, failed⟩ := fails
    obtain ⟨_, _, least⟩ := create_error.mp failed
    exact ⟨_, least.given, not_compiles_iff.mpr ⟨_, least.faulty⟩⟩
  · intro faulty
    obtain ⟨pattern, given, fails⟩ := faulty
    cases made : create id name own patterns with
    | error invalid => exact ⟨invalid, rfl⟩
    | ok target =>
      obtain ⟨_, _, ⟨everything, _⟩ | ⟨compile, _⟩⟩ := create_parts made
      · exact absurd everything some
      · exact absurd (compile pattern given) fails

theorem create_everything (everything : String.ofList matchAll ∈ patterns) :
    ∃ target, create id name own patterns = .ok target := by
  cases made : create id name own patterns with
  | error invalid => exact absurd everything (create_error.mp made).1
  | ok target => exact ⟨target, rfl⟩

theorem create_congr (same : ∀ pattern, pattern ∈ patterns ↔ pattern ∈ others) :
    create id name own patterns = create id name own others := by
  have sets : NameSet.ofList patterns = NameSet.ofList others :=
    NameSet.ext_mem fun pattern => by rw [NameSet.mem_ofList, NameSet.mem_ofList, same]
  rw [create, sets]
  rfl

namespace Register

inductive Change (Class : Type)
  | add (target : Target Class)
  | remove (id : String)

def Change.about : Change Class → String
  | add target => target.id
  | remove id => id

def after (register : Register Class) : Change Class → Register Class
  | .add target => (register.add target).2
  | .remove id => (register.remove id).2

def run (register : Register Class) (history : List (Change Class)) : Register Class :=
  history.foldl after register

-- The target was added, and nothing happened to its id later.
def Stands (history : List (Change Class)) (target : Target Class) : Prop :=
  ∃ earlier later, history = earlier ++ .add target :: later ∧ ∀ change ∈ later, change.about ≠ target.id

structure Lists (history : List (Change Class)) (register : Register Class) : Prop where
  apart : register.entries.Pairwise (·.id ≠ ·.id)
  members : ∀ target, target ∈ register.entries ↔ Stands history target

variable {register : Register Class} {history : List (Change Class)} {change : Change Class}
  {targets : List (Target Class)}

theorem not_stands_nil : ¬ Stands [] target := fun stands => by
  obtain ⟨earlier, later, whole, _⟩ := stands
  exact absurd whole.symm (List.append_ne_nil_of_right_ne_nil _ (List.cons_ne_nil _ _))

theorem stands_concat : Stands (history ++ [change]) target ↔
    change = .add target ∨ Stands history target ∧ change.about ≠ target.id := by
  constructor
  · intro stands
    obtain ⟨earlier, later, whole, still⟩ := stands
    cases later using List.reverseRecOn with
    | nil => exact .inl (List.singleton_inj.mp (List.append_inj' whole rfl).2)
    | append_singleton later last =>
      rw [← List.cons_append, ← List.append_assoc] at whole
      obtain ⟨before, same⟩ := List.append_inj' whole rfl
      cases same
      refine .inr ⟨⟨earlier, later, before, fun other member => ?_⟩, still change (List.mem_concat_self ..)⟩
      exact still other (List.mem_append_left _ member)
  · intro stands
    rcases stands with rfl | ⟨⟨earlier, later, rfl, still⟩, other⟩
    · exact ⟨history, [], rfl, fun _ member => absurd member List.not_mem_nil⟩
    · refine ⟨earlier, later ++ [change], by simp, fun next member => ?_⟩
      rcases List.mem_append.mp member with early | last
      · exact still next early
      · rw [List.mem_singleton.mp last]
        exact other

theorem mem_inOrder : target ∈ inOrder targets ↔ target ∈ targets := List.mem_mergeSort

theorem inOrder_ascending (apart : targets.Pairwise (·.id ≠ ·.id)) :
    (inOrder targets).Pairwise (·.id < ·.id) := by
  have passes (first second third : Target Class) (one : decide (first.id ≤ second.id) = true)
      (two : decide (second.id ≤ third.id) = true) : decide (first.id ≤ third.id) = true :=
    decide_eq_true (String.le_trans (of_decide_eq_true one) (of_decide_eq_true two))
  have decides (first second : Target Class) :
      (decide (first.id ≤ second.id) || decide (second.id ≤ first.id)) = true := by
    simpa using String.le_total first.id second.id
  have sorted : (inOrder targets).Pairwise (·.id ≤ ·.id) :=
    (List.pairwise_mergeSort passes decides targets).imp of_decide_eq_true
  have different : (inOrder targets).Pairwise (·.id ≠ ·.id) :=
    (List.mergeSort_perm targets _).symm.pairwise apart Ne.symm
  exact (sorted.and different).imp fun both => Std.lt_of_le_of_ne both.1 both.2

theorem lists_run (history : List (Change Class)) : (empty.run history).Lists history := by
  induction history using List.reverseRecOn with
  | nil => exact ⟨.nil, fun target => iff_of_false List.not_mem_nil not_stands_nil⟩
  | append_singleton history change ih =>
    have next : empty.run (history ++ [change]) = (empty.run history).after change := List.foldl_append
    rw [next]
    cases change with
    | add new =>
      refine ⟨List.pairwise_cons.mpr ⟨fun other member => ?_, ih.apart.filter _⟩, fun target => ?_⟩
      · have others := (List.mem_filter.mp member).2
        exact (of_decide_eq_true others).symm
      · rw [stands_concat, ← ih.members]
        show target ∈ new :: (empty.run history).entries.filter (·.id ≠ new.id) ↔ _
        rw [List.mem_cons, List.mem_filter, decide_eq_true_iff]
        refine or_congr ?_ (and_congr_right fun _ => ne_comm)
        exact ⟨fun same => congrArg Change.add same.symm, fun same => (Change.add.inj same).symm⟩
    | remove id =>
      refine ⟨ih.apart.filter _, fun target => ?_⟩
      rw [stands_concat, ← ih.members]
      show target ∈ (empty.run history).entries.filter (·.id ≠ id) ↔ _
      rw [List.mem_filter, decide_eq_true_iff]
      constructor
      · exact fun held => .inr ⟨held.1, held.2.symm⟩
      · exact fun held => held.elim nofun fun held => ⟨held.1, held.2.symm⟩

end Register

theorem contains_what_some_pattern_matches {Class : Type} [Classification Class] (id name : String) (own : Class)
    (patterns : List String) :
    (String.ofList matchAll ∈ patterns → ∃ target, create id name own patterns = .ok target ∧
      ∀ other path, GoesWith own other → target.containsPath other path = true) ∧
    (String.ofList matchAll ∉ patterns →
      ((∃ invalid, create id name own patterns = .error invalid) ↔ ∃ pattern ∈ patterns, ¬ Compiles pattern) ∧
      ∀ invalid, create id name own patterns = .error invalid ↔
        invalid.target = id ∧ LeastFaulty patterns invalid.pattern invalid.fault) ∧
    (∀ target, create id name own patterns = .ok target → ∀ other path,
      target.containsPath other path = true ↔ GoesWith own other ∧ ∃ pattern ∈ patterns, Matches pattern path) ∧
    (∀ others : List String, (∀ pattern, pattern ∈ patterns ↔ pattern ∈ others) →
      create id name own patterns = create id name own others) ∧
    ∀ (history : List (Register.Change Class)) (other : Class) (path : String),
      ((Register.empty.run history).matching other path).Pairwise (·.id < ·.id) ∧
      ∀ target, target ∈ (Register.empty.run history).matching other path ↔
        Register.Stands history target ∧ target.containsPath other path = true := by
  refine ⟨fun everything => ?_, fun some => ⟨create_fails_iff some, fun invalid => ?_⟩,
    fun target made => containsPath_iff made, fun others => create_congr, fun history other path => ?_⟩
  · have exists_target : ∃ target, create id name own patterns = .ok target := create_everything everything
    obtain ⟨target, made⟩ := exists_target
    refine ⟨target, made, fun other path goes => (containsPath_iff made other path).mpr ⟨goes, ?_⟩⟩
    exact ⟨_, everything, .any, compile_matchAll, rfl⟩
  · rw [create_error]
    exact and_iff_right some
  · have lists := Register.lists_run history
    refine ⟨Register.inOrder_ascending (lists.apart.filter _), fun target => ?_⟩
    rw [← lists.members]
    exact Register.mem_inOrder.trans List.mem_filter

def maven : ContentClass := ⟨"maven2", .empty⟩

theorem each_pattern_considered :
    (∃ all, create "all" "All" maven ["/org/[bad", ".*"] = .ok all ∧ all.containsPath maven "a/b" = true) ∧
    LeastFaulty ["b[", "a[", "a"] "a[" .pattern ∧
    create "foo" "Foo" maven ["foo.*", "/x"] = create "foo" "Foo" maven ["/x", "foo.*", "/x"] ∧
    ∃ earlier foo, create "foo" "Foo" maven ["bar"] = .ok earlier ∧
      create "foo" "Foo" maven ["foo.*", "/x"] = .ok foo ∧
      foo ∈ (Register.empty.run [.add earlier, .add foo, .remove "all"]).matching maven "foo/1" := by
  obtain ⟨everything, _⟩ := contains_what_some_pattern_matches "all" "All" maven ["/org/[bad", ".*"]
  obtain ⟨_, faults, _⟩ := contains_what_some_pattern_matches "bad" "Bad" maven ["b[", "a[", "a"]
  obtain ⟨_, _, contains, order, register⟩ :=
    contains_what_some_pattern_matches "foo" "Foo" maven ["foo.*", "/x"]
  refine ⟨?_, ?_, order _ (by simp [or_comm]), ?_⟩
  · obtain ⟨all, made, contained⟩ := everything (by decide)
    exact ⟨all, made, contained maven "a/b" (.inl rfl)⟩
  · exact (((faults (by decide)).2 ⟨"bad", "a[", .pattern⟩).mp rfl).2
  · refine ⟨_, _, rfl, rfl, ?_⟩
    have contained := (contains _ rfl maven "foo/1").mpr
      ⟨.inl rfl, "foo.*", by decide, .startingWith "foo".toList, rfl, by decide⟩
    refine ((register _ maven "foo/1").2 _).mpr ⟨⟨[_], [.remove "all"], rfl, fun change last => ?_⟩, contained⟩
    rw [List.mem_singleton.mp last]
    decide

end RepositoryAccess.Target
