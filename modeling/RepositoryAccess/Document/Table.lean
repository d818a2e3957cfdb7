import RepositoryAccess.Document.Value

namespace RepositoryAccess.Document

-- Headers and dotted keys make tables on their way and differ in which ones they go through.
inductive Way
  | header
  | key

def Way.makes : Way → Origin
  | .header => .implied
  | .key => .dotted

def Way.enters : Way → Origin → Bool
  | .header, origin => origin ≠ .closed
  | .key, origin => origin = .implied || origin = .dotted

abbrev Edit := Origin → Entries → Option Entries

-- Goes down a path of keys and edits the table at its end.  Of several tables under one header the
-- last one is meant.
def within (way : Way) : List String → Edit → Edit
  | [], edit, origin, entries => edit origin entries
  | key :: path, edit, _, entries =>
    match entries.find key with
    | none => do
      let inner ← within way path edit way.makes []
      return entries.set key (.table way.makes inner)
    | some (.table origin inner) =>
      if way.enters origin then do
        let inner ← within way path edit origin inner
        return entries.set key (.table origin inner)
      else none
    | some (.tables elements) => do
      let last ← elements.getLast?
      let last ← within way path edit .headed last
      return entries.set key (.tables (elements.dropLast ++ [last]))
    | some _ => none

-- A new key; through a dotted path it may only get into tables that dotted keys made.
def addKey (dotted : Bool) (key : String) (value : Value) : Edit := fun origin entries =>
  if dotted && origin ≠ .dotted then none
  else match entries.find key with
    | some _ => none
    | none => some (entries.set key value)

def addAt (path : List String) (key : String) (value : Value) : Edit :=
  within .key path (addKey (!path.isEmpty) key value)

def openTable (key : String) : Edit := fun _ entries =>
  match entries.find key with
  | none => some (entries.set key (.table .headed []))
  | some (.table .implied inner) => some (entries.set key (.table .headed inner))
  | some _ => none

def openElement (key : String) : Edit := fun _ entries =>
  match entries.find key with
  | none => some (entries.set key (.tables [[]]))
  | some (.tables elements) => some (entries.set key (.tables (elements ++ [[]])))
  | some _ => none

structure Draft where
  entries : Entries := []
  place : List String := []

namespace Draft

def edit (draft : Draft) (path : List String) (edit : Edit) : Option Draft := do
  let entries ← within .header path edit .headed draft.entries
  return { draft with entries }

def addEntry (draft : Draft) (path : List String) (key : String) (value : Value) : Option Draft :=
  draft.edit draft.place (addAt path key value)

def addHeader (draft : Draft) (element : Bool) (path : List String) (key : String) :
    Option Draft := do
  let draft ← draft.edit path (if element then openElement key else openTable key)
  return { draft with place := path ++ [key] }

end Draft

def closedTable (pairs : List (List String × String × Value)) : Option Value := do
  let entries ← pairs.foldlM
    (fun entries (path, key, value) => addAt path key value .closed entries) ([] : Entries)
  return .table .closed entries

end RepositoryAccess.Document
