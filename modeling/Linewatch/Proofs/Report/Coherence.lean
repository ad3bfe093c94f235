import Linewatch.Proofs.Policy
import Linewatch.Proofs.Report.Batch
import Linewatch.Proofs.Statistics

namespace Linewatch

namespace Report

/-- A report on documents and what was found in them lists, for each document, what the policy
leaves of its findings, and all else is about what is listed. -/
structure Coherent (p : Policy) (scanned : List (Document × List Finding)) (r : Report) : Prop where
  documents : r.documents = scanned.map fun d => ⟨d.1.source, p.apply d.2⟩
  statistics : r.statistics = .ofFindings r.findings
  effective : r.verdict.effectiveFindings = r.statistics.total
  total : r.verdict.totalFindings = (scanned.flatMap (·.2)).length
  noHighest : r.verdict.highestSeverity = none ↔ r.findings = []
  highest : ∀ g, r.verdict.highestSeverity = some g ↔
    (∃ f ∈ r.findings, f.severity = g) ∧ ∀ f ∈ r.findings, f.severity ≤ g
  pass : r.verdict.pass = true ↔ ∀ f ∈ r.findings, ¬ r.verdict.failThreshold ≤ f.severity

variable (p : Policy) (scanned : List (Document × List Finding))

theorem verdict_ofScanned : (ofScanned p scanned).verdict = p.evaluate (scanned.flatMap (·.2)) := rfl

/-- The policy leaves the same of all findings together as of each document's. -/
theorem findings_ofScanned : (ofScanned p scanned).findings = p.apply (scanned.flatMap (·.2)) := by
  have hf : (ofScanned p scanned).findings =
      (scanned.map fun d => (⟨d.1.source, p.apply d.2⟩ : DocumentReport)).flatMap
        DocumentReport.findings := rfl
  rw [hf, List.flatMap_map, Policy.apply_flatMap]

theorem statistics_ofScanned :
    (ofScanned p scanned).statistics = .ofFindings (ofScanned p scanned).findings := by
  rw [findings, List.flatMap_def, ← Statistics.mergeAll_map_ofFindings, List.map_map]
  rfl

theorem coherent_ofScanned : (ofScanned p scanned).Coherent p scanned where
  documents := rfl
  statistics := statistics_ofScanned p scanned
  effective := by
    have ht : (ofScanned p scanned).statistics.total = (ofScanned p scanned).findings.length := by
      rw [statistics_ofScanned, Statistics.total_ofFindings]
    rw [ht, findings_ofScanned]
    rfl
  total := rfl
  noHighest := by
    rw [verdict_ofScanned, findings_ofScanned]
    exact Policy.highestSeverity_eq_none_iff
  highest g := by
    rw [verdict_ofScanned, findings_ofScanned]
    exact Policy.highestSeverity_eq_some_iff
  pass := by
    rw [verdict_ofScanned, findings_ofScanned]
    exact Policy.pass_iff

end Report

namespace Settings

variable {s : Settings} {failOn : Option Severity} {clocks : Clocks} {documents : List Document}
  {r : Report}

/-- The scan of a batch has a report only if every document could be scanned, and then the report
agrees with what was found in them and with itself. -/
theorem scanAll_coherent (h : (s.withFailOn failOn).scanAll clocks documents = .ok r) :
    ∃ scanner scanned, s.scanner = .ok scanner ∧ scanned.map Prod.fst = documents ∧
      (∀ i p, scanned[i]? = some p → scanner.scanBytes (clocks i) p.1.content = .ok p.2) ∧
      r.Coherent (s.withFailOn failOn).policy scanned ∧
      r.verdict.failThreshold = failOn.getD s.policy.failOn := by
  obtain ⟨scanner, scanned, hs, hd, hb, rfl⟩ := scanAll_eq_ok_iff.mp h
  rw [scanner_withFailOn] at hs
  refine ⟨scanner, scanned, hs, hd, hb, Report.coherent_ofScanned _ scanned, ?_⟩
  rw [Report.verdict_ofScanned, policy_withFailOn, Policy.evaluate]

theorem exists_coherent_report :
    ∃ r scanned,
      (({ policy := { ignoreRules := ["eval"] } } : Settings).withFailOn (some .low)).scanAll .frozen
        [⟨"a.js", Utf8.encode "eval(x)\n"⟩, ⟨"b.js", []⟩] = .ok r ∧
      scanned.map Prod.fst = [⟨"a.js", Utf8.encode "eval(x)\n"⟩, ⟨"b.js", []⟩] ∧
      r.Coherent { failOn := .low, ignoreRules := ["eval"] } scanned ∧
      r.verdict.failThreshold = .low := by
  have h := scanAll_of_no_limits
    (({ policy := { ignoreRules := ["eval"] } } : Settings).withFailOn (some .low)) .frozen
    [⟨"a.js", Utf8.encode "eval(x)\n"⟩, ⟨"b.js", []⟩] (registry_of_no_rules rfl) rfl
  obtain ⟨_, scanned, -, hd, -, hc, ht⟩ := scanAll_coherent h
  exact ⟨_, scanned, h, hd, hc, ht⟩

end Settings

end Linewatch
