import Linewatch.Report
import Linewatch.Text.Padded

namespace Linewatch.Report

def severityTag : Severity → String
  | .critical => "[CRITICAL]"
  | .high => "[HIGH]    "
  | .medium => "[MEDIUM]  "
  | .low => "[LOW]     "
  | .info => "[INFO]    "

def mayPrecede (f g : Finding) : Bool :=
  g.severity < f.severity || (f.severity == g.severity && f.line ≤ g.line)

def findingBlock (f : Finding) : String :=
  s!"  {severityTag f.severity} {Text.padded 13 f.catalog.name} {f.message}\n" ++
    s!"           at line {f.line}: {f.code}\n" ++
    s!"           why: {f.description}\n\n"

/-- The block of a document. Findings that are equally serious and on one line keep their order. -/
def documentBlock (d : DocumentReport) : String :=
  s!"\n  {d.source}\n\n" ++ .join ((d.findings.mergeSort mayPrecede).map findingBlock)

def header (r : Report) : String := s!"\n  {r.statistics.total} finding(s) detected:\n"

def summaryLine (s : Statistics) : String :=
  let ending := if s.vulnerabilities = 1 then "y" else "ies"
  s!"  Summary: {s.vulnerabilities} vulnerabilit{ending}, {s.sensitive} sensitive; " ++
    s!"critical {s.critical}, high {s.high}, medium {s.medium}, low {s.low}, info {s.info}\n"

def resultLine (v : Verdict) : String :=
  let result := if v.pass then "PASS" else "FAIL"
  let highest := (v.highestSeverity.map Severity.name).getD "none"
  s!"  Result: {result} (threshold: {v.failThreshold.name}, highest: {highest})\n\n"

def nothingFound : String := "\n  No security findings detected.\n\n"

def toConsole (r : Report) : String :=
  if r.statistics.total = 0 then nothingFound
  else
    r.header ++
      .join ((r.documents.filter fun d => !d.findings.isEmpty).map documentBlock) ++
      summaryLine r.statistics ++ resultLine r.verdict

end Linewatch.Report
