import Linewatch.Text.Lower

namespace Linewatch

/-- How serious a finding is, the least serious first. -/
inductive Severity where
  | info
  | low
  | medium
  | high
  | critical
deriving DecidableEq, Repr

namespace Severity

def rank : Severity → Nat
  | info => 0
  | low => 1
  | medium => 2
  | high => 3
  | critical => 4

instance : LE Severity where
  le a b := a.rank ≤ b.rank

instance : LT Severity where
  lt a b := a.rank < b.rank

instance (a b : Severity) : Decidable (a ≤ b) := inferInstanceAs (Decidable (a.rank ≤ b.rank))

instance (a b : Severity) : Decidable (a < b) := inferInstanceAs (Decidable (a.rank < b.rank))

instance : Max Severity := maxOfLe

def all : List Severity := [info, low, medium, high, critical]

def name : Severity → String
  | info => "info"
  | low => "low"
  | medium => "medium"
  | high => "high"
  | critical => "critical"

def ofSpelling? (s : String) : Option Severity :=
  match Text.lower s with
  | "info" => some info
  | "low" => some low
  | "medium" | "med" => some medium
  | "high" => some high
  | "critical" | "crit" => some critical
  | _ => none

end Severity

end Linewatch
