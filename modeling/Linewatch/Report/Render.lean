import Linewatch.Report.Console
import Linewatch.Report.Json
import Linewatch.Report.Sarif

namespace Linewatch

structure Stamp where
  generatedAt : String
  guid : String

def Report.render (stamp : Stamp) (r : Report) : OutputFormat → String
  | .console => r.toConsole
  | .json => r.toJson stamp.generatedAt
  | .sarif => r.toSarif stamp.guid

end Linewatch
