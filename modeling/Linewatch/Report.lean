import Linewatch.Settings
import Linewatch.Statistics

namespace Linewatch

structure Document where
  source : String
  content : List UInt8
deriving DecidableEq, Repr

structure DocumentReport where
  source : String
  findings : List Finding
deriving DecidableEq, Repr

structure Report where
  documents : List DocumentReport
  statistics : Statistics
  verdict : Verdict
deriving DecidableEq, Repr

namespace Report

def findings (r : Report) : List Finding := r.documents.flatMap DocumentReport.findings

/-- The report on documents whose findings are known: the verdict is on all of them together, and
each document lists those that count. -/
def ofScanned (p : Policy) (scanned : List (Document × List Finding)) : Report :=
  let documents := scanned.map fun (d, l) => ⟨d.source, p.apply l⟩
  { documents
    statistics := .mergeAll (documents.map fun d => .ofFindings d.findings)
    verdict := p.evaluate (scanned.flatMap (·.2)) }

end Report

/-- The clocks of the documents of a batch, which are scanned side by side. -/
abbrev Clocks := (document : Nat) → Clock

def Clocks.frozen : Clocks := fun _ => .frozen

/-- Scans the documents of a batch. One that cannot be scanned fails them all. Of several such the
first is blamed here, and any may be where they are scanned side by side. -/
def Scanner.scanBatch (s : Scanner) (clocks : Clocks) (documents : List Document) :
    Except Fault (List (Document × List Finding)) :=
  documents.zipIdx.mapM fun ((d, i) : Document × Nat) =>
    (s.scanBytes (clocks i) d.content).map (d, ·)

namespace Settings

def withFailOn (s : Settings) : Option Severity → Settings
  | some severity => { s with policy := { s.policy with failOn := severity } }
  | none => s

def scanAll (s : Settings) (clocks : Clocks) (documents : List Document) : Except Fault Report :=
  match s.scanner with
  | .error fault => .error fault
  | .ok scanner => (scanner.scanBatch clocks documents).map (Report.ofScanned s.policy)

end Settings

end Linewatch
