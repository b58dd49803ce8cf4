import TaskSpace.Toml.Value

namespace TaskSpace.Toml

-- How a table came to be: by a header of its own, by a longer header, or by a key with points.
inductive Origin
  | stated
  | implied
  | dotted
deriving DecidableEq

-- A document while it is read. What is written as one value is closed.
inductive Node
  | value (value : Value)
  | table (origin : Origin) (entries : List (String × Node))
  | tables (elements : List (List (String × Node)))

abbrev Entries := List (String × Node)

-- A value under a key, given by the parts before the last one and by that.
structure Assignment where
  path : List String
  key : String
  value : Value

-- The name of a table in brackets, or in double brackets if there may be more of that name.
structure Header where
  path : List String
  key : String
  repeated : Bool

-- The assignments under one header, or before the first.
structure Block where
  header : Option Header
  assignments : List Assignment

namespace Entries

-- Replaces the node of a key, or adds the key behind all others.
def put (entries : Entries) (key : String) (node : Node) : Entries :=
  if (entries.lookup key).isSome then
    entries.map fun (name, old) => if name == key then (name, node) else (name, old)
  else entries ++ [(key, node)]

-- Changes the table at the end of a path, making those that are missing. A path leads into the last
-- of repeated tables. The points of a key do not lead into a table that has a header.
def descend (made : Origin) (change : Origin → Entries → Option Entries) :
    List String → Origin → Entries → Option Entries
  | [], origin, entries => change origin entries
  | key :: path, _, entries =>
    match entries.lookup key with
    | none => do
      let inner ← descend made change path made []
      return entries.put key (.table made inner)
    | some (.table origin inner) =>
      if made = .dotted ∧ origin = .stated then none
      else do
        let inner ← descend made change path origin inner
        return entries.put key (.table origin inner)
    | some (.tables elements) => do
      let last ← elements.getLast?
      let inner ← descend made change path .stated last
      return entries.put key (.tables (elements.dropLast ++ [inner]))
    | some (.value _) => none

-- Only keys with points add to tables that such keys have made, and only to those.
def assign (entries : Entries) (assignment : Assignment) : Option Entries :=
  descend .dotted
    (fun origin entries =>
      if decide (origin = .dotted) == assignment.path.isEmpty then none
      else if (entries.lookup assignment.key).isSome then none
      else some (entries.put assignment.key (.value assignment.value)))
    assignment.path .stated entries

-- One after the other; no key may be given twice.
def assignAll (entries : Entries) (assignments : List Assignment) : Option Entries :=
  assignments.foldlM assign entries

-- A header may take up a table that only longer headers have implied.
def openTable (key : String) (assignments : List Assignment) (entries : Entries) : Option Entries :=
  match entries.lookup key with
  | none => return entries.put key (.table .stated (← assignAll [] assignments))
  | some (.table .implied inner) =>
    return entries.put key (.table .stated (← assignAll inner assignments))
  | some _ => none

-- A repeated header adds a table to those of its name.
def addTable (key : String) (assignments : List Assignment) (entries : Entries) : Option Entries :=
  match entries.lookup key with
  | none => return entries.put key (.tables [← assignAll [] assignments])
  | some (.tables elements) =>
    return entries.put key (.tables (elements ++ [← assignAll [] assignments]))
  | some _ => none

-- The path of a header may lead through tables that have headers of their own.
def add (entries : Entries) (block : Block) : Option Entries :=
  match block.header with
  | none => entries.assignAll block.assignments
  | some header =>
    let change := if header.repeated then addTable else openTable
    descend .implied (fun _ => change header.key block.assignments) header.path .stated entries

end Entries

mutual

def Node.toValue : Node → Value
  | .value value => value
  | .table _ entries => .table (Entries.toValues entries)
  | .tables elements => .array (Entries.toTables elements)

def Entries.toValues : List (String × Node) → List (String × Value)
  | [] => []
  | (key, node) :: rest => (key, node.toValue) :: Entries.toValues rest

def Entries.toTables : List (List (String × Node)) → List Value
  | [] => []
  | entries :: rest => .table (Entries.toValues entries) :: Entries.toTables rest

end

-- The table that the blocks of a document make, if no key is given twice.
def tableOfBlocks? (blocks : List Block) : Option Value :=
  (blocks.foldlM Entries.add []).map fun entries => .table (Entries.toValues entries)

end TaskSpace.Toml
