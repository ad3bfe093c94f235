import Linewatch.Policy
import Linewatch.Scan

namespace Linewatch

structure CustomRule where
  catalog : Catalog
  name : String
  regex : String
  severity : Severity := .high
  description : Option String := none
deriving DecidableEq, Repr

structure Settings where
  policy : Policy := {}
  limits : Limits := {}
  /-- Rules to be tried after the built-in ones. -/
  rules : List CustomRule := []
deriving DecidableEq, Repr

namespace CustomRule

def signature (c : CustomRule) : Signature where
  catalog := c.catalog
  name := c.name
  regex := c.regex
  severity := c.severity
  description := c.description

end CustomRule

namespace Settings

/-- The built-in rules and those of the project, unless one of these has no valid pattern or a name
that is taken. -/
def registry (s : Settings) : Except Fault Registry :=
  s.rules.foldlM (fun r c => r.insertSignature c.signature) .builtin

def scanner (s : Settings) : Except Fault Scanner :=
  s.registry.map fun registry => { registry, limits := s.limits }

end Settings

end Linewatch
