import Linewatch.Data.Toml.Value

namespace Linewatch.Toml

inductive Line where
  | pair (name : Name) (d : Datum)
  | header (name : Name)
  /-- The header of one more of several tables. -/
  | itemHeader (name : Name)

def restOfLine? (l : List Char) : Option (List Char) :=
  let l := match skipBlanks l with
    | '#' :: rest => skipComment rest
    | rest => rest
  match l with
  | [] => some []
  | l => lineEnd? l

def pair? (l : List Char) : Option (Line × List Char) :=
  match name? l with
  | some (name, '=' :: rest) =>
    match value? (2 * rest.length + 2) (nestLimit - 1) (skipBlanks rest) with
    | some (d, rest) => (restOfLine? rest).map (.pair name d, ·)
    | none => none
  | _ => none

def line? : List Char → Option (Line × List Char)
  | '[' :: '[' :: rest =>
    match name? rest with
    | some (name, ']' :: ']' :: rest) => (restOfLine? rest).map (.itemHeader name, ·)
    | _ => none
  | '[' :: rest =>
    match name? rest with
    | some (name, ']' :: rest) => (restOfLine? rest).map (.header name, ·)
    | _ => none
  | l => pair? l

def lines? : (fuel : Nat) → (done : List Line) → List Char → Option (List Line)
  | 0, _, _ => none
  | fuel + 1, done, l =>
    match skipBlanks l with
    | [] => some done.reverse
    | '#' :: rest =>
      match restOfLine? ('#' :: rest) with
      | some rest => lines? fuel done rest
      | none => none
    | l =>
      match lineEnd? l with
      | some rest => lines? fuel done rest
      | none =>
        match line? l with
        | some (line, rest) => lines? fuel (line :: done) rest
        | none => none

inductive Target where
  | root
  | table (name : Name)
  | item (name : Name)

structure Draft where
  root : Members
  target : Target
  current : Members

namespace Draft

def start : Draft := ⟨[], .root, []⟩

def settle? (d : Draft) : Option Members :=
  match d.target with
  | .root => some d.current
  | .table name =>
    d.root.changeAt false (fun _ m => some (m.push name.last (.table false false d.current)))
      false name.path
  | .item name =>
    d.root.changeAt false (fun _ m =>
      match m.lookup name.last with
      | some (.tables items) => some (m.replace name.last (.tables (d.current :: items)))
      | none => some (m.push name.last (.tables [d.current]))
      | some _ => none) false name.path

/-- The members of a table to be opened that lie in it already, because it was on the way to
others. -/
def found? (name : Name) (root : Members) : Option Members :=
  match name.path with
  | [] => look root
  | _ => go name.path root
where
  look (m : Members) : Option Members :=
    match m.lookup name.last with
    | none => some []
    | some (.table true false inner) => some inner
    | some _ => none
  go : List String → Members → Option Members
    | [], m => look m
    | part :: path, m =>
      match m.lookup part with
      | none => some []
      | some (.table _ _ inner) => go path inner
      | some (.tables (last :: _)) => go path last
      | some _ => none

def openTable? (root : Members) (name : Name) : Option Draft :=
  match found? name root with
  | none => none
  | some current =>
    (root.changeAt false (fun _ m => some (m.erase name.last)) false name.path).map fun root =>
      ⟨root, .table name, current⟩

def openItem? (root : Members) (name : Name) : Option Draft :=
  let opened := root.changeAt false (fun _ m =>
    match m.lookup name.last with
    | some (.tables _) => some m
    | none => some (m.push name.last (.tables []))
    | some _ => none) false name.path
  opened.map fun root => ⟨root, .item name, []⟩

def add? (d : Draft) : Line → Option Draft
  | .pair name value =>
    (d.current.insert name.path name.last value).map fun current => { d with current }
  | .header name => d.settle?.bind fun root => openTable? root name
  | .itemHeader name => d.settle?.bind fun root => openItem? root name

end Draft

/-- Leaves out the mark that may stand at the beginning of a text to tell its encoding. -/
def withoutMark : List Char → List Char
  | '\ufeff' :: rest => rest
  | l => l

def read? (text : List Char) : Option Datum := do
  let lines ← lines? (text.length + 1) [] (withoutMark text)
  let draft ← lines.foldlM Draft.add? Draft.start
  let root ← draft.settle?
  return .table true (membersData true root)

end Linewatch.Toml
