import Linewatch.Files.Glob.Reader
import Linewatch.Files.Tree
import Linewatch.Text.Blank
import Linewatch.Text.Lines

namespace Linewatch

structure IgnoreRule where
  glob : Glob
  /-- Whether the rule takes back what rules before it say. -/
  keeps : Bool
  onlyDirectories : Bool

namespace IgnoreRule

/-- The signs before the glob of a rule: whether the rule keeps, whether its glob begins where the
file lies, and the glob. A backslash before a sign makes it a part of the glob. -/
def signs : List Char → Bool × Bool × List Char
  | '\\' :: '!' :: rest => (false, false, '!' :: rest)
  | '\\' :: '#' :: rest => (false, false, '#' :: rest)
  | '!' :: '/' :: rest => (true, true, rest)
  | '!' :: rest => (true, false, rest)
  | '/' :: rest => (false, true, rest)
  | l => (false, false, l)

def endSlash (l : List Char) : Bool × List Char :=
  match l.reverse with
  | '/' :: '\\' :: rest => (true, rest.reverse)
  | '/' :: rest => (true, rest.reverse)
  | _ => (false, l)

def floated (l : List Char) : List Char :=
  if '/' ∈ l ∨ l = ['*', '*'] then l else '*' :: '*' :: '/' :: l

def strictlyBelow (l : List Char) : List Char :=
  match l.reverse with
  | '*' :: '*' :: '/' :: _ => l ++ ['/', '*']
  | _ => l

/-- Blanks at the end of a line have no meaning, unless there is a backslash before the last. -/
def withoutBlanks (line : List Char) : List Char :=
  match line.reverse with
  | ' ' :: '\\' :: _ => line
  | _ => Text.trimRight line

def ofLine? (line : List Char) : Option IgnoreRule :=
  if line.head? = some '#' then none
  else
    match withoutBlanks line with
    | [] => none
    | line =>
      let (keeps, anchored, rest) := signs line
      let (onlyDirectories, rest) := endSlash rest
      let glob := strictlyBelow (if anchored then rest else floated rest)
      (Glob.ofText? glob).map (⟨·, keeps, onlyDirectories⟩)

/-- The lines of a file, up to the first that is not UTF-8. -/
def readableLines (content : List UInt8) : List (List Char) :=
  let decoded := Utf8.decode content
  let text := (decoded.takeWhile Option.isSome).filterMap id
  if text.length < decoded.length ∧ text.getLast? ≠ some '\n' then (Text.lines text).dropLast
  else Text.lines text

def ofFile (content : List UInt8) : List IgnoreRule :=
  match readableLines content with
  | [] => []
  | first :: rest => (first.dropWhile (· == '\ufeff') :: rest).filterMap ofLine?

def concerns (r : IgnoreRule) (isDirectory : Bool) (p : Path) : Bool :=
  (isDirectory || !r.onlyDirectories) && r.glob.covers p.toText

end IgnoreRule

inductive Treatment where
  | skip
  | keep
deriving DecidableEq

inductive IgnoreSource where
  | plain
  | git
  | gitExclude
deriving DecidableEq

namespace IgnoreSource

def all : List IgnoreSource := [plain, git, gitExclude]

def path : IgnoreSource → Path
  | plain => [".ignore"]
  | git => [".gitignore"]
  | gitExclude => [".git", "info", "exclude"]

end IgnoreSource

structure IgnoreFile where
  source : IgnoreSource
  directory : Path
  rules : List IgnoreRule

namespace IgnoreFile

def treatment? (f : IgnoreFile) (isDirectory : Bool) (p : Path) : Option Treatment :=
  let below := p.drop f.directory.length
  (f.rules.reverse.find? fun r => r.concerns isDirectory below).map fun r =>
    if r.keeps then .keep else .skip

def read? (p : Path) (content : List UInt8) (source : IgnoreSource) : Option IgnoreFile :=
  let directory := p.take (p.length - source.path.length)
  if directory ++ source.path = p then some ⟨source, directory, IgnoreRule.ofFile content⟩ else none

end IgnoreFile

abbrev IgnoreFiles := List IgnoreFile

namespace IgnoreFiles

def ofTree (t : Tree) : IgnoreFiles :=
  t.files.flatMap fun (p, content) => IgnoreSource.all.filterMap (IgnoreFile.read? p content)

/-- What the files of one kind say of a path: the nearest that says anything decides. -/
def treatmentBy? (files : IgnoreFiles) (source : IgnoreSource) (isDirectory : Bool) (p : Path) :
    Option Treatment :=
  p.ancestors.findSome? fun directory =>
    (files.find? fun f => f.source == source && f.directory == directory).bind
      (·.treatment? isDirectory p)

def treatment? (files : IgnoreFiles) (isDirectory : Bool) (p : Path) : Option Treatment :=
  IgnoreSource.all.findSome? fun source => files.treatmentBy? source isDirectory p

/-- Whether a path is passed over by itself. Rules go before the leading dot of a hidden name. -/
def passesOver (files : IgnoreFiles) (isDirectory : Bool) (p : Path) : Bool :=
  match files.treatment? isDirectory p with
  | some .skip => true
  | some .keep => false
  | none => p.isHidden

def hides (files : IgnoreFiles) (root : Path) (isDirectory : Bool) (p : Path) : Bool :=
  (List.range' (root.length + 1) (p.length - root.length)).any fun n =>
    files.passesOver (isDirectory || decide (n < p.length)) (p.take n)

end IgnoreFiles

end Linewatch
