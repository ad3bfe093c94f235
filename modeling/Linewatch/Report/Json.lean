import Linewatch.Data.Codec
import Linewatch.Data.Json.Writer

namespace Linewatch.Report

def toJson (generatedAt : String) (r : Report) : String :=
  Json.pretty <| .record [
    ("generated_at", .text generatedAt),
    ("documents", .list (r.documents.map DocumentReport.toDatum)),
    ("statistics", r.statistics.toDatum),
    ("verdict", r.verdict.toDatum)]

end Linewatch.Report
