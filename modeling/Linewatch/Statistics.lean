import Linewatch.Finding

namespace Linewatch

structure Statistics where
  total : Nat := 0
  vulnerabilities : Nat := 0
  sensitive : Nat := 0
  critical : Nat := 0
  high : Nat := 0
  medium : Nat := 0
  low : Nat := 0
  info : Nat := 0
deriving DecidableEq, Repr

namespace Statistics

def bySeverity (s : Statistics) : Severity → Nat
  | .critical => s.critical
  | .high => s.high
  | .medium => s.medium
  | .low => s.low
  | .info => s.info

def merge (s t : Statistics) : Statistics where
  total := s.total + t.total
  vulnerabilities := s.vulnerabilities + t.vulnerabilities
  sensitive := s.sensitive + t.sensitive
  critical := s.critical + t.critical
  high := s.high + t.high
  medium := s.medium + t.medium
  low := s.low + t.low
  info := s.info + t.info

def addCatalog (s : Statistics) : Catalog → Statistics
  | .vulnerability => { s with vulnerabilities := s.vulnerabilities + 1 }
  | .sensitive => { s with sensitive := s.sensitive + 1 }

def addSeverity (s : Statistics) : Severity → Statistics
  | .critical => { s with critical := s.critical + 1 }
  | .high => { s with high := s.high + 1 }
  | .medium => { s with medium := s.medium + 1 }
  | .low => { s with low := s.low + 1 }
  | .info => { s with info := s.info + 1 }

def addFinding (s : Statistics) (f : Finding) : Statistics :=
  (s.addCatalog f.catalog).addSeverity f.severity

/-- The total is known before the findings are gone through. -/
def ofFindings (l : List Finding) : Statistics := l.foldl addFinding { total := l.length }

def mergeAll (l : List Statistics) : Statistics := l.foldl merge {}

end Statistics

end Linewatch
