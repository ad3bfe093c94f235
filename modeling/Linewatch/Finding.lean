import Linewatch.Registry
import Linewatch.Text.Upper

namespace Linewatch

structure Hit where
  rule : String
  catalog : Catalog
  line : Nat
  code : String
deriving DecidableEq, Repr

structure Finding where
  catalog : Catalog
  rule : String
  severity : Severity
  message : String
  line : Nat
  code : String
  description : String
deriving DecidableEq, Repr

namespace Finding

def genericDescription : String := "Security vulnerability detected"

def headline (c : Catalog) (rule : String) : String :=
  match c with
  | .vulnerability => s!"Potential {Text.upper rule} vulnerability detected"
  | .sensitive => s!"Possible {Text.upper rule} exposure detected"

/-- The finding for a hit. A rule that the registry does not know counts as of high severity, and
every secret as critical. -/
def ofHit (r : Registry) (h : Hit) : Finding :=
  let rule := r.get? h.catalog h.rule
  { catalog := h.catalog
    rule := h.rule
    severity := match h.catalog with
      | .vulnerability => (rule.map Rule.severity).getD .high
      | .sensitive => .critical
    message := headline h.catalog h.rule
    line := h.line
    code := h.code
    description := (rule.bind Rule.description).getD genericDescription }

end Finding

end Linewatch
