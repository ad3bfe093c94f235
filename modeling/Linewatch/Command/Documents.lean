import Linewatch.Files.Walk
import Linewatch.Report

namespace Linewatch

/-- What walks below directories come upon, in whatever order. -/
abbrev Walk := (root : Path) → List Path

namespace Document

def ofEntry (source : String) : Option Entry → Except Fault Document
  | some (.file content) => .ok ⟨source, content⟩
  | _ => .error .io

def ofDirectory (walk : Walk) (t : Tree) (text : String) (root : Path) :
    Except Fault (List Document) :=
  (t.scannedFiles (walk root)).mapM fun p =>
    ofEntry (Path.joined text (p.drop root.length)) (t.get? p)

/-- The documents that an argument stands for, a single hyphen being the standard input. A file that
is named must have a suffix that is scanned. -/
def ofArgument (walk : Walk) (t : Tree) (stdin : List UInt8) (text : String) :
    Except Fault (List Document) :=
  if text = "-" then .ok [⟨"<stdin>", stdin⟩]
  else match t.directory? text with
    | some root => ofDirectory walk t text root
    | none =>
      if hasScannedSuffix (nameAtEnd text) then (ofEntry text (t.find? text)).map fun d => [d]
      else .error (.unsupportedInput text)

/-- The documents that arguments stand for. The standard input can be read once, so nothing is left
of it for a second hyphen. -/
def ofArguments (walk : Walk) (t : Tree) (stdin : List UInt8) :
    List String → Except Fault (List Document)
  | [] => .ok []
  | text :: rest =>
    match ofArgument walk t stdin text with
    | .error fault => .error fault
    | .ok documents =>
      (ofArguments walk t (if text = "-" then [] else stdin) rest).map (documents ++ ·)

end Document

end Linewatch
