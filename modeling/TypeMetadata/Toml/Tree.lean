import TypeMetadata.Toml.Value

/-!
Tables under construction. The parts of a table may be spread over a document, but only in certain
ways, so each part remembers how it came about.
-/

namespace TypeMetadata.Toml

/-- How a table came about. -/
inductive Origin
  /-- It has a header of its own, is an element of an array of tables, or is the document. -/
  | defined
  /-- A header named something inside it. -/
  | implied
  /-- A dotted key named something inside it, and no header has it as its own. -/
  | dotted
deriving DecidableEq

inductive Node
  | leaf (value : Value)
  | table (origin : Origin) (entries : List (String × Node))
  /-- An array of tables, of which the last is open. -/
  | tables (elements : List (List (String × Node)))

abbrev Entries := List (String × Node)

/-- The keys that lead to an entry: those of the tables around it, from the outside in, and its
own. -/
structure KeyPath where
  parents : List String
  last : String

namespace Entries

def replace (entries : Entries) (key : String) (node : Node) : Entries :=
  entries.map fun entry => if entry.1 = key then (key, node) else entry

def append (entries : Entries) (key : String) (node : Node) : Entries :=
  entries ++ [(key, node)]

end Entries

/-- A way of following keys: the origin that a table has after it was entered, if it may be, and the
origin of the tables that are made where there are none. -/
structure Walk where
  enter? : Origin → Option Origin
  creates : Origin

namespace Walk

/-- Headers may lead through every table and leave it as it was. -/
def ofHeader : Walk := ⟨some, .implied⟩

/-- Dotted keys may not add to a table that has a header of its own, and a table that they have
entered gets none later. -/
def ofDottedKey : Walk where
  enter?
    | .defined => none
    | .implied | .dotted => some .dotted
  creates := .dotted

/-- Follow keys and change the entries of the table that they lead to. In an array of tables they
lead on into the last one; a finished value cannot be entered. -/
def alter? (walk : Walk) (change : Origin → Entries → Option Entries) :
    List String → Origin → Entries → Option Entries
  | [], origin, entries => change origin entries
  | key :: keys, _, entries =>
    match entries.lookup key with
    | none => do
      let inner ← walk.alter? change keys walk.creates []
      return entries.append key (.table walk.creates inner)
    | some (.table origin inner) => do
      let origin ← walk.enter? origin
      let inner ← walk.alter? change keys origin inner
      return entries.replace key (.table origin inner)
    | some (.tables elements) => do
      let last ← elements.getLast?
      let inner ← walk.alter? change keys .defined last
      return entries.replace key (.tables (elements.dropLast ++ [inner]))
    | some (.leaf _) => none

end Walk

namespace Entries

/-- Open a table by its header. A table may have one header only, and none if dotted keys have
made or entered it. -/
def openTable? (path : KeyPath) (entries : Entries) : Option Entries :=
  Walk.ofHeader.alter? (fun _ around =>
    match around.lookup path.last with
    | none => some (around.append path.last (.table .defined []))
    | some (.table .implied inner) => some (around.replace path.last (.table .defined inner))
    | some _ => none) path.parents .defined entries

def openElement? (path : KeyPath) (entries : Entries) : Option Entries :=
  Walk.ofHeader.alter? (fun _ around =>
    match around.lookup path.last with
    | none => some (around.append path.last (.tables [[]]))
    | some (.tables elements) => some (around.replace path.last (.tables (elements ++ [[]])))
    | some _ => none) path.parents .defined entries

/-- Assign a value to a key that has none. The table that a dotted key leads to must be one that
dotted keys have made or entered, not an element of an array of tables. -/
def assign? (path : KeyPath) (value : Value) (entries : Entries) : Option Entries :=
  Walk.ofDottedKey.alter? (fun origin around =>
    if (path.parents.isEmpty || origin == .dotted) && (around.lookup path.last).isNone then
      some (around.append path.last (.leaf value))
    else none) path.parents .defined entries

end Entries

/-! ### Finished tables -/

mutual

def Node.toValue : Node → Value
  | .leaf value => value
  | .table _ entries => .table (tableOfEntries entries)
  | .tables elements => .array (arrayOfElements elements)

def tableOfEntries : List (String × Node) → Table
  | [] => []
  | (key, node) :: entries => (key, node.toValue) :: tableOfEntries entries

def arrayOfElements : List (List (String × Node)) → List Value
  | [] => []
  | entries :: elements => .table (tableOfEntries entries) :: arrayOfElements elements

end

end TypeMetadata.Toml
