import Linewatch.Fault
import Linewatch.Severity
import Linewatch.Pattern.OfText
import Linewatch.Pattern.Search

namespace Linewatch

structure RuleSummary where
  name : String
  catalog : Catalog
  severity : Severity
  regex : String
  description : Option String
deriving DecidableEq, Repr

structure Rule where
  name : String
  regex : String
  severity : Severity
  description : Option String
  pattern : Pattern
  program : Program
  ofText_regex : Pattern.ofText? regex.toList = some pattern
  program_eq : program = pattern.program

namespace Rule

def compile (name regex : String) (severity : Severity) (description : Option String) :
    Except Fault Rule :=
  match h : Pattern.ofText? regex.toList with
  | some pattern => .ok ⟨name, regex, severity, description, pattern, pattern.program, h, rfl⟩
  | none => .error (.invalidPattern name)

/-- The leftmost match of the rule in a line, as a span of bytes. Nothing is found in a blank
line. -/
def find? (r : Rule) (line : Array Char) : Option Span :=
  if line.all Text.isBlank then none else (r.program.find? line).map (Span.inBytes line)

/-- The severity that a rule has in a catalog. Secrets are always critical. -/
def severityIn (r : Rule) : Catalog → Severity
  | .vulnerability => r.severity
  | .sensitive => .critical

def summary (r : Rule) (catalog : Catalog) : RuleSummary :=
  ⟨r.name, catalog, r.severityIn catalog, r.regex, r.description⟩

end Rule

end Linewatch
