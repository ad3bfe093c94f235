import Linewatch.Data.Decode
import Linewatch.OutputFormat
import Linewatch.Report

namespace Linewatch

namespace Severity

def ofName? (s : String) : Option Severity := all.find? fun a => a.name == s

def toDatum (s : Severity) : Datum := .text s.name

def ofDatum? (dialect : Dialect) (d : Datum) : Option Severity := d.choice? dialect ofName?

end Severity

namespace Catalog

def ofName? (s : String) : Option Catalog := all.find? fun a => a.name == s

def toDatum (c : Catalog) : Datum := .text c.name

def ofDatum? (dialect : Dialect) (d : Datum) : Option Catalog := d.choice? dialect ofName?

end Catalog

namespace OutputFormat

def ofName? (s : String) : Option OutputFormat := all.find? fun a => a.name == s

def toDatum (f : OutputFormat) : Datum := .text f.name

def ofDatum? (dialect : Dialect) (d : Datum) : Option OutputFormat := d.choice? dialect ofName?

end OutputFormat

namespace Finding

def toDatum (f : Finding) : Datum :=
  .record [("type", f.catalog.toDatum), ("rule", .text f.rule), ("severity", f.severity.toDatum),
    ("message", .text f.message), ("line", .ofNat f.line), ("code", .text f.code),
    ("description", .text f.description)]

def ofDatum? (dialect : Dialect) (d : Datum) : Option Finding := do
  let r ← Record.of? dialect
    ["type", "rule", "severity", "message", "line", "code", "description"] d
  return {
    catalog := ← r.required? "type" (Catalog.ofDatum? dialect)
    rule := ← r.required? "rule" Datum.text?
    severity := ← r.required? "severity" (Severity.ofDatum? dialect)
    message := ← r.required? "message" Datum.text?
    line := ← r.required? "line" Datum.count?
    code := ← r.required? "code" Datum.text?
    description := ← r.required? "description" Datum.text? }

end Finding

namespace RuleSummary

def toDatum (s : RuleSummary) : Datum :=
  .record [("name", .text s.name), ("catalog", s.catalog.toDatum),
    ("default_severity", s.severity.toDatum), ("pattern", .text s.regex),
    ("description", .option .text s.description)]

def ofDatum? (dialect : Dialect) (d : Datum) : Option RuleSummary := do
  let r ← Record.of? dialect ["name", "catalog", "default_severity", "pattern", "description"] d
  return {
    name := ← r.required? "name" Datum.text?
    catalog := ← r.required? "catalog" (Catalog.ofDatum? dialect)
    severity := ← r.required? "default_severity" (Severity.ofDatum? dialect)
    regex := ← r.required? "pattern" Datum.text?
    description := ← r.nullable? "description" Datum.text? }

end RuleSummary

namespace Statistics

def toDatum (s : Statistics) : Datum :=
  .record [("total", .ofNat s.total), ("vulnerabilities", .ofNat s.vulnerabilities),
    ("sensitive", .ofNat s.sensitive), ("critical", .ofNat s.critical), ("high", .ofNat s.high),
    ("medium", .ofNat s.medium), ("low", .ofNat s.low), ("info", .ofNat s.info)]

def ofDatum? (dialect : Dialect) (d : Datum) : Option Statistics := do
  let r ← Record.of? dialect
    ["total", "vulnerabilities", "sensitive", "critical", "high", "medium", "low", "info"] d
  return {
    total := ← r.required? "total" Datum.count?
    vulnerabilities := ← r.required? "vulnerabilities" Datum.count?
    sensitive := ← r.required? "sensitive" Datum.count?
    critical := ← r.required? "critical" Datum.count?
    high := ← r.required? "high" Datum.count?
    medium := ← r.required? "medium" Datum.count?
    low := ← r.required? "low" Datum.count?
    info := ← r.required? "info" Datum.count? }

end Statistics

namespace Verdict

def toDatum (v : Verdict) : Datum :=
  .record [("pass", .flag v.pass), ("total_findings", .ofNat v.totalFindings),
    ("effective_findings", .ofNat v.effectiveFindings),
    ("highest_severity", .option Severity.toDatum v.highestSeverity),
    ("fail_threshold", v.failThreshold.toDatum)]

def ofDatum? (dialect : Dialect) (d : Datum) : Option Verdict := do
  let r ← Record.of? dialect
    ["pass", "total_findings", "effective_findings", "highest_severity", "fail_threshold"] d
  return {
    pass := ← r.required? "pass" Datum.flag?
    totalFindings := ← r.required? "total_findings" Datum.count?
    effectiveFindings := ← r.required? "effective_findings" Datum.count?
    highestSeverity := ← r.nullable? "highest_severity" (Severity.ofDatum? dialect)
    failThreshold := ← r.required? "fail_threshold" (Severity.ofDatum? dialect) }

end Verdict

namespace Policy

def toDatum (p : Policy) : Datum :=
  .record [("fail_on", p.failOn.toDatum),
    ("ignore_rules", .list ((p.ignoreRules.mergeSort fun a b => !(b < a)).map .text)),
    ("overrides", .record (p.overrides.map fun (key, s) => (key, s.toDatum)))]

/-- A set of keys, from a list in which some may stand more than once. -/
def ignoredOf (keys : List String) : List String := (keys.foldl ignore {}).ignoreRules

/-- Overrides by key, from a list in which the last severity for a key counts. -/
def overridesOf (members : List (String × Severity)) : List (String × Severity) :=
  (members.foldl (fun (p : Policy) o => p.override o.1 o.2) {}).overrides

def ofDatum? (dialect : Dialect) (d : Datum) : Option Policy := do
  let r ← Record.of? dialect ["fail_on", "ignore_rules", "overrides"] d
  return {
    failOn := ← r.default? "fail_on" .high (Severity.ofDatum? dialect)
    ignoreRules := ignoredOf (← r.default? "ignore_rules" [] (Datum.listOf? Datum.text?))
    overrides :=
      overridesOf (← r.default? "overrides" [] (Datum.tableOf? (Severity.ofDatum? dialect))) }

end Policy

namespace Limits

def toDatum (l : Limits) : Datum :=
  .record [("max_lines", .option .ofNat l.maxLines), ("timeout_ms", .option .ofNat l.timeout)]

def ofDatum? (dialect : Dialect) (d : Datum) : Option Limits := do
  let r ← Record.of? dialect ["max_lines", "timeout_ms"] d
  return {
    maxLines := ← r.nullable? "max_lines" Datum.count?
    timeout := ← r.nullable? "timeout_ms" Datum.count? }

end Limits

namespace CustomRule

def toDatum (c : CustomRule) : Datum :=
  .record [("catalog", c.catalog.toDatum), ("name", .text c.name), ("pattern", .text c.regex),
    ("severity", c.severity.toDatum), ("description", .option .text c.description)]

def ofDatum? (dialect : Dialect) (d : Datum) : Option CustomRule := do
  let r ← Record.of? dialect ["catalog", "name", "pattern", "severity", "description"] d
  return {
    catalog := ← r.required? "catalog" (Catalog.ofDatum? dialect)
    name := ← r.required? "name" Datum.text?
    regex := ← r.required? "pattern" Datum.text?
    severity := ← r.default? "severity" .high (Severity.ofDatum? dialect)
    description := ← r.default? "description" none (Datum.nullable? Datum.text?) }

end CustomRule

namespace Settings

def toDatum (s : Settings) : Datum :=
  .record [("policy", s.policy.toDatum), ("limits", s.limits.toDatum),
    ("rules", .list (s.rules.map CustomRule.toDatum))]

def ofDatum? (dialect : Dialect) (d : Datum) : Option Settings := do
  let r ← Record.of? dialect ["policy", "limits", "rules"] d
  return {
    policy := ← r.default? "policy" {} (Policy.ofDatum? dialect)
    limits := ← r.default? "limits" {} (Limits.ofDatum? dialect)
    rules := ← r.default? "rules" [] (Datum.listOf? (CustomRule.ofDatum? dialect)) }

end Settings

namespace DocumentReport

def toDatum (d : DocumentReport) : Datum :=
  .record [("source", .text d.source), ("findings", .list (d.findings.map Finding.toDatum))]

def ofDatum? (dialect : Dialect) (d : Datum) : Option DocumentReport := do
  let r ← Record.of? dialect ["source", "findings"] d
  return {
    source := ← r.required? "source" Datum.text?
    findings := ← r.required? "findings" (Datum.listOf? (Finding.ofDatum? dialect)) }

end DocumentReport

namespace Report

def toDatum (r : Report) : Datum :=
  .record [("documents", .list (r.documents.map DocumentReport.toDatum)),
    ("statistics", r.statistics.toDatum), ("verdict", r.verdict.toDatum)]

def ofDatum? (dialect : Dialect) (d : Datum) : Option Report := do
  let r ← Record.of? dialect ["documents", "statistics", "verdict"] d
  return {
    documents := ← r.required? "documents" (Datum.listOf? (DocumentReport.ofDatum? dialect))
    statistics := ← r.required? "statistics" (Statistics.ofDatum? dialect)
    verdict := ← r.required? "verdict" (Verdict.ofDatum? dialect) }

end Report

end Linewatch
