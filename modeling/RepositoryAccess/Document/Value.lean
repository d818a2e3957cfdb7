namespace RepositoryAccess.Document

-- A closed table is written between braces.  An open one has a header of its own.  The others exist
-- because something was put inside them: an implied table by a longer header, a dotted one by a
-- dotted key.
inductive Origin
  | closed
  | headed
  | implied
  | dotted
  deriving DecidableEq, Repr

-- Numbers with a fraction or an exponent, and moments, keep the form in which they are written.
inductive Value
  | text (content : String)
  | integer (value : Int)
  | decimal (written : String)
  | moment (written : String)
  | truth (value : Bool)
  | array (elements : List Value)
  | table (origin : Origin) (entries : List (String × Value))
  | tables (elements : List (List (String × Value)))

abbrev Entries := List (String × Value)

def Entries.find (entries : Entries) (key : String) : Option Value :=
  (entries.find? (·.1 = key)).map (·.2)

def Entries.set (entries : Entries) (key : String) (value : Value) : Entries :=
  match entries with
  | [] => [(key, value)]
  | (name, held) :: rest =>
    if name = key then (key, value) :: rest else (name, held) :: Entries.set rest key value

end RepositoryAccess.Document
