import Linewatch.Report
import Linewatch.Data.Json.Writer

namespace Linewatch.Report

namespace Sarif

def schema : String :=
  "https://docs.oasis-open.org/sarif/sarif/v2.1.0/errata01/os/schemas/sarif-schema-2.1.0.json"

def toolName : String := "sigscan"

def toolVersion : String := "0.1.0"

def level : Severity → String
  | .critical | .high => "error"
  | .medium => "warning"
  | .low | .info => "note"

/-- The name of a finding's rule with its catalog, for names are unique within a catalog only. -/
def ruleId (f : Finding) : String := s!"{f.catalog.name}/{f.rule}"

def sameRule (f g : Finding) : Bool := f.catalog == g.catalog && f.rule == g.rule

def firstOfEach (l : List Finding) : List Finding :=
  (l.foldl (fun firsts f => if firsts.any (sameRule f) then firsts else f :: firsts) []).reverse

def ruleMayPrecede (f g : Finding) : Bool :=
  match f.catalog, g.catalog with
  | .vulnerability, .sensitive => true
  | .sensitive, .vulnerability => false
  | _, _ => !(g.rule < f.rule)

def descriptor (f : Finding) : Datum :=
  .record [
    ("defaultConfiguration", .record [("level", .text (level f.severity))]),
    ("id", .text (ruleId f)),
    ("name", .text f.rule),
    ("properties", .record [("tags", .list [.text f.catalog.name])]),
    ("shortDescription", .record [("text", .text f.description)])]

def descriptors (r : Report) : List Datum :=
  ((firstOfEach r.findings).mergeSort ruleMayPrecede).map descriptor

def result (source : String) (f : Finding) : Datum :=
  .record [
    ("level", .text (level f.severity)),
    ("locations", .list [.record [
      ("physicalLocation", .record [
        ("artifactLocation", .record [("uri", .text source)]),
        ("region", .record [
          ("snippet", .record [("text", .text f.code)]),
          ("startLine", .ofNat f.line)])])]]),
    ("message", .record [("text", .text f.message)]),
    ("properties", .record [("severity", .text f.severity.name), ("type", .text f.catalog.name)]),
    ("ruleId", .text (ruleId f))]

def results (r : Report) : List Datum :=
  r.documents.flatMap fun d => d.findings.map (result d.source)

def log (guid : String) (r : Report) : Datum :=
  .record [
    ("$schema", .text schema),
    ("runs", .list [.record [
      ("automationDetails", .record [("guid", .text guid)]),
      ("results", .list (results r)),
      ("tool", .record [
        ("driver", .record [
          ("name", .text toolName),
          ("rules", .list (descriptors r)),
          ("semanticVersion", .text toolVersion),
          ("version", .text toolVersion)])])]]),
    ("version", .text "2.1.0")]

end Sarif

def toSarif (guid : String) (r : Report) : String := Json.pretty (Sarif.log guid r)

end Linewatch.Report
