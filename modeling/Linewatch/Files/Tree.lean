import Linewatch.Files.Path

namespace Linewatch

inductive Entry where
  | file (content : List UInt8)
  /-- A file that cannot be read. -/
  | unreadable
  | directory
deriving DecidableEq

/-- Entries in the order in which they were added, no two at one path. -/
structure Tree where
  entries : List (Path × Entry)
  nodup : (entries.map Prod.fst).Nodup
  /-- The working directory. -/
  home : Path := []

namespace Tree

def empty : Tree := ⟨[], List.nodup_nil, []⟩

def get? (t : Tree) (p : Path) : Option Entry :=
  if p = [] then some .directory else t.entries.lookup p

def isDirectory (t : Tree) (p : Path) : Bool := t.get? p == some .directory

def isFile (t : Tree) (p : Path) : Bool := (t.get? p).any (· != .directory)

def set (t : Tree) (p : Path) (e : Entry) : Tree where
  entries := t.entries.filter (fun x => x.1 != p) ++ [(p, e)]
  home := t.home
  nodup := by
    rw [List.map_append, List.nodup_append]
    refine ⟨t.nodup.sublist (List.filter_sublist.map Prod.fst), by simp, ?_⟩
    intro a ha b hb hab
    simp only [List.map_cons, List.map_nil, List.mem_singleton] at hb
    obtain ⟨x, hx, rfl⟩ := List.mem_map.1 ha
    have hne := (List.mem_filter.1 hx).2
    simp [hab, hb] at hne

theorem lookup_filter_ne {p q : Path} (h : q ≠ p) (l : List (Path × Entry)) :
    (l.filter fun x => x.1 != p).lookup q = l.lookup q := by
  induction l with
  | nil => rfl
  | cons x l ih =>
    obtain ⟨k, e⟩ := x
    by_cases hk : k = p
    · have hqp : (q == p) = false := by simp [h]
      simp [hk, ih, List.lookup_cons, hqp]
    · simp [hk, List.lookup_cons, ih]

theorem lookup_filter_self (p : Path) (l : List (Path × Entry)) :
    (l.filter fun x => x.1 != p).lookup p = none := by
  rw [List.lookup_eq_none_iff]
  intro x hx
  have hne := (List.mem_filter.1 hx).2
  simp only [bne_iff_ne, ne_eq] at hne
  simp [Ne.symm hne]

theorem get?_set_self (t : Tree) {p : Path} (e : Entry) (h : p ≠ []) :
    (t.set p e).get? p = some e := by
  simp [get?, set, h, List.lookup_append, lookup_filter_self]

theorem get?_set_of_ne (t : Tree) {p q : Path} (e : Entry) (h : q ≠ p) :
    (t.set p e).get? q = t.get? q := by
  have hqp : (q == p) = false := by simp [h]
  simp [get?, set, List.lookup_append, lookup_filter_ne h, List.lookup_cons, hqp]

def addDirectory (t : Tree) (p : Path) : Tree :=
  if (t.get? p).isSome then t else t.set p .directory

/-- Puts a file at a path, and makes the directories that lead there. -/
def write (t : Tree) (p : Path) (content : List UInt8) : Tree :=
  (p.ancestors.reverse.foldl addDirectory t).set p (.file content)

def ofFiles (files : List (Path × List UInt8)) (home : Path := []) : Tree :=
  let bare : Tree := { empty with home }
  files.foldl (fun t f => t.write (home ++ f.1) f.2)
    ((home.ancestors.reverse ++ [home]).foldl addDirectory bare)

def files (t : Tree) : List (Path × List UInt8) :=
  t.entries.filterMap fun x =>
    match x with
    | (p, .file content) => some (p, content)
    | _ => none

def enter (t : Tree) (p : Path) (part : String) : Option Path :=
  if !t.isDirectory p then none
  else if part = "" ∨ part = "." then some p
  else if part = ".." then some p.dropLast
  else some (p ++ [part])

/-- The path that a written one stands for, which begins in the working directory unless it begins
with a slash. Nothing need be there, but what leads there has to be directories of the tree. -/
def resolve? (t : Tree) (text : String) : Option Path :=
  match text.toList with
  | [] => none
  | c :: _ => ((if c = '/' then [] else t.home) ++ Path.parts text).foldlM t.enter []

def find? (t : Tree) (text : String) : Option Entry := (t.resolve? text).bind t.get?

def directory? (t : Tree) (text : String) : Option Path := (t.resolve? text).filter t.isDirectory

end Tree

end Linewatch
