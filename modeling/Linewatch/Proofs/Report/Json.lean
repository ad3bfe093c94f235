import Linewatch.Proofs.Data.Codec
import Linewatch.Proofs.Data.Json.RoundTrip
import Linewatch.Report.Json

namespace Linewatch

open Datum

theorem Finding.isJson_toDatum (f : Finding) : f.toDatum.IsJson := by
  simp [toDatum, Catalog.toDatum, Severity.toDatum, Datum.ofNat]

theorem DocumentReport.isJson_toDatum (d : DocumentReport) : d.toDatum.IsJson := by
  simp [toDatum, Finding.isJson_toDatum]

theorem Statistics.isJson_toDatum (s : Statistics) : s.toDatum.IsJson := by
  simp [toDatum, Datum.ofNat]

theorem Verdict.isJson_toDatum (v : Verdict) : v.toDatum.IsJson := by
  cases h : v.highestSeverity <;> simp [toDatum, h, Datum.option, Severity.toDatum, Datum.ofNat]

namespace Report

theorem read?_toJson (generatedAt : String) (r : Report) :
    Json.read? (r.toJson generatedAt).toList =
      some (.record [("generated_at", .text generatedAt),
        ("documents", .list (r.documents.map DocumentReport.toDatum)),
        ("statistics", r.statistics.toDatum), ("verdict", r.verdict.toDatum)]) := by
  refine Json.read?_pretty ?_
  simp [DocumentReport.isJson_toDatum, Statistics.isJson_toDatum, Verdict.isJson_toDatum]

theorem ofDatum?_cons_generatedAt (generatedAt : String) (members : List (String × Datum)) :
    ofDatum? .json (.record (("generated_at", .text generatedAt) :: members)) =
      ofDatum? .json (.record members) := by
  rw [ofDatum?, Record.of?_cons_of_notMem (by decide), ofDatum?]

theorem json_loses_nothing (generatedAt : String) {r : Report} (hr : r.Fits) :
    (Json.read? (r.toJson generatedAt).toList).bind (ofDatum? .json) = some r := by
  have hread := ofDatum?_toDatum .json hr
  rw [read?_toJson, Option.bind_some, ofDatum?_cons_generatedAt]
  exact hread

theorem unruly_report_reads_back :
    ∃ r : Report, r.findings.map Finding.code = ["\"\\\x00\n\x1f/\x7f", ""] ∧
      r.findings.map Finding.line = [UInt64.size - 1, 0] ∧
      r.verdict.highestSeverity = none ∧ r.Fits ∧
      (Json.read? (r.toJson "\t\\u0022").toList).bind (ofDatum? .json) = some r := by
  let r : Report := {
    documents := [⟨"{}\r", [⟨.sensitive, "é\\😀", .critical, "\x08\x0c", UInt64.size - 1,
      "\"\\\x00\n\x1f/\x7f", "[]"⟩, ⟨.vulnerability, "", .info, "", 0, "", ""⟩]⟩, ⟨"", []⟩]
    statistics := { total := 2 }
    verdict := ⟨true, 2, 0, none, .low⟩ }
  have hr : r.Fits := ⟨by decide, by decide, by decide, by decide⟩
  exact ⟨r, rfl, rfl, rfl, hr, json_loses_nothing "\t\\u0022" hr⟩

end Report

end Linewatch
