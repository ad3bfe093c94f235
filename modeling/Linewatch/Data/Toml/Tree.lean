import Linewatch.Data.Datum

namespace Linewatch.Toml

inductive Node where
  | value (d : Datum)
  /-- A table with its members. It is implicit if it lies on the way to another and has not been
  given itself, and dotted if the way went through a dotted name. -/
  | table (implicit dotted : Bool) (members : List (String × Node))
  /-- Tables under one name, the last first. -/
  | tables (items : List (List (String × Node)))

abbrev Members := List (String × Node)

namespace Members

def replace (name : String) (n : Node) (m : Members) : Members :=
  m.map fun member => if member.1 == name then (name, n) else member

def push (m : Members) (name : String) (n : Node) : Members := m ++ [(name, n)]

def erase (name : String) (m : Members) : Members := m.filter (·.1 != name)

/-- Changes the members at the end of a path. `change` is told whether the table there is dotted;
`here` tells it of the table in which the path begins. Tables that are missing on the way are made.
A dotted path leads through implicit tables only, and any other also through the last of several
tables. -/
def changeAt (dotted : Bool) (change : (isDotted : Bool) → Members → Option Members)
    (here : Bool) : (path : List String) → Members → Option Members
  | [], m => change here m
  | name :: path, m =>
    match m.lookup name with
    | none =>
      (changeAt dotted change dotted path []).map fun inner =>
        push m name (.table true dotted inner)
    | some (.value _) => none
    | some (.tables []) => none
    | some (.tables (last :: before)) =>
      (changeAt dotted change false path last).map fun last =>
        replace name (.tables (last :: before)) m
    | some (.table implicit isDotted inner) =>
      if dotted && !implicit then none
      else
        (changeAt dotted change isDotted path inner).map fun inner =>
          replace name (.table implicit isDotted inner) m

/-- Adds a value under a dotted name. The table it goes to has to come from such names too. -/
def insert (path : List String) (name : String) (d : Datum) (m : Members) : Option Members :=
  changeAt true (fun isDotted m =>
    if isDotted = path.isEmpty then none
    else if (m.lookup name).isSome then none
    else some (push m name (.value d))) false path m

end Members

mutual

/-- The datum of a node. Tables within a document are headed and those within a value are not. -/
def Node.datum (headed : Bool) : Node → Datum
  | .value d => d
  | .table _ _ members => .table headed (membersData headed members)
  | .tables items => .list (tablesData headed items).reverse

def membersData (headed : Bool) : List (String × Node) → List (String × Datum)
  | [] => []
  | (name, n) :: rest => (name, n.datum headed) :: membersData headed rest

def tablesData (headed : Bool) : List (List (String × Node)) → List Datum
  | [] => []
  | m :: rest => .table headed (membersData headed m) :: tablesData headed rest

end

end Linewatch.Toml
