namespace RepositoryAccess.Text

-- The starts of the runs in ascending order, with their tags.  A table is written as lengths and tags:
-- `32Cc1Zs3Po` tags the first 32 code points `Cc`, the next `Zs`, the three after it `Po`.
structure Runs where
  starts : Array (Nat × String)

structure RunsReading where
  start : Nat := 0
  length : Nat := 0
  tag : String := ""
  done : Array (Nat × String) := #[]

-- A digit after a tag begins the next run.
def RunsReading.next (reading : RunsReading) (c : Char) : RunsReading :=
  if c.isDigit then
    if reading.tag.isEmpty then
      { reading with length := reading.length * 10 + (c.toNat - '0'.toNat) }
    else
      { start := reading.start + reading.length, length := c.toNat - '0'.toNat, tag := "",
        done := reading.done.push (reading.start, reading.tag) }
  else { reading with tag := reading.tag.push c }

def Runs.read (lines : List String) : Runs :=
  let last := lines.foldl (fun reading line => line.foldl RunsReading.next reading) {}
  ⟨last.done.push (last.start, last.tag)⟩

-- Halves the stretch `lo … hi` of runs until one is left; the run at `lo` starts at or before `n`.
def Runs.search (runs : Runs) (n lo hi : Nat) : Nat :=
  if hi - lo ≤ 1 then lo
  else
    let middle := (lo + hi) / 2
    match runs.starts[middle]? with
    | none => lo
    | some (start, _) => if start ≤ n then runs.search n middle hi else runs.search n lo middle
termination_by hi - lo
decreasing_by all_goals omega

def Runs.tag (runs : Runs) (c : Char) : String :=
  match runs.starts[runs.search c.toNat 0 runs.starts.size]? with
  | some (_, tag) => tag
  | none => ""

def Runs.holds (runs : Runs) (c : Char) : Bool := runs.tag c == "+"

end RepositoryAccess.Text
