/-!
# TOML documents as values

A document is a table of items. Every table remembers how it came to be, because that decides what
may still be added to it: an inline table is closed, a table with a header of its own takes no
second header and no dotted key from outside, a table that was only implied may still get a header.
-/

namespace EnvSeed.Toml

/-- How a table came to be. -/
inductive Origin
  | inline
  | header
  | implied
  | dotted
  deriving DecidableEq

/-- A value, a table, or an array of tables. Numbers and booleans are alike here, and so are dates and
times: which one it is never matters. -/
inductive Item
  | string (text : String)
  | scalar
  | dateTime
  | array (items : List Item)
  | table (origin : Origin) (entries : List (String × Item))
  | tables (elements : List (List (String × Item)))

/-- The entries of a table by key. -/
abbrev Table := List (String × Item)

namespace Table

/-- The item of a key. -/
def get? (table : Table) (key : String) : Option Item :=
  (table.find? (·.1 = key)).map (·.2)

/-- Give a key an item, in the place of the one it has. -/
def put (key : String) (item : Item) : Table → Table
  | [] => [(key, item)]
  | entry :: rest => if entry.1 = key then (key, item) :: rest else entry :: put key item rest

/-- Change the table that a path leads to, and make the tables on the way that are missing. A path
goes through the last element of an array of tables. A dotted path does not enter a table that has
a header of its own. -/
def changeAt (dotted : Bool) (change : Origin → Table → Option Table) :
    List String → Origin → Table → Option Table
  | [], origin, table => change origin table
  | key :: path, _, table =>
    match table.get? key with
    | none =>
      let origin := if dotted then Origin.dotted else .implied
      (changeAt dotted change path origin []).map fun inner => table.put key (.table origin inner)
    | some (.table origin inner) =>
      if origin = .inline || (dotted && origin = .header) then none
      else (changeAt dotted change path origin inner).map fun inner => table.put key (.table origin inner)
    | some (.tables elements) =>
      match elements.getLast? with
      | none => none
      | some last =>
        (changeAt dotted change path .header last).map fun last =>
          table.put key (.tables (elements.dropLast ++ [last]))
    | some _ => none

/-- Add an item below a dotted key. The table it lands in has to be made by dotted keys, unless it is
the very table the key is written in; and the last part of the key has to be new there. -/
def insert (path : List String) (key : String) (item : Item) (table : Table) : Option Table :=
  changeAt true (fun origin inner =>
    if !path.isEmpty && origin ≠ .dotted then none
    else if (inner.get? key).isSome then none
    else some (inner.put key item)) path .header table

/-- Open the table of a header: a new one, or one that was only implied. -/
def openTable (path : List String) (key : String) (table : Table) : Option Table :=
  changeAt false (fun _ inner =>
    match inner.get? key with
    | none => some (inner.put key (.table .header []))
    | some (.table .implied entries) => some (inner.put key (.table .header entries))
    | some _ => none) path .header table

/-- Open a new element of the array of tables of a header. -/
def openElement (path : List String) (key : String) (table : Table) : Option Table :=
  changeAt false (fun _ inner =>
    match inner.get? key with
    | none => some (inner.put key (.tables [[]]))
    | some (.tables elements) => some (inner.put key (.tables (elements ++ [[]])))
    | some _ => none) path .header table

end Table

/-- A line of a document that says something. -/
inductive Statement
  | pair (path : List String) (key : String) (item : Item)
  | table (path : List String) (key : String)
  | element (path : List String) (key : String)

/-- The document so far, and the path of the table that its next pairs belong to. -/
structure Draft where
  root : Table
  current : List String

/-- Add a statement to a document. -/
def Draft.add (draft : Draft) : Statement → Option Draft
  | .pair path key item =>
    (Table.changeAt false (fun _ inner => Table.insert path key item inner) draft.current .header
      draft.root).map fun root => { draft with root }
  | .table path key => (Table.openTable path key draft.root).map fun root => ⟨root, path ++ [key]⟩
  | .element path key => (Table.openElement path key draft.root).map fun root => ⟨root, path ++ [key]⟩

/-- The document that statements make up. -/
def build (statements : List Statement) : Option Table :=
  (statements.foldlM Draft.add ⟨[], []⟩).map (·.root)

end EnvSeed.Toml
