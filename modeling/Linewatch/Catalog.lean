import Linewatch.Text.Lower

namespace Linewatch

inductive Catalog where
  | vulnerability
  | sensitive
deriving DecidableEq, Repr

namespace Catalog

/-- The catalogs in the order in which their rules are tried. -/
def all : List Catalog := [vulnerability, sensitive]

def name : Catalog → String
  | vulnerability => "vulnerability"
  | sensitive => "sensitive"

def ofSpelling? (s : String) : Option Catalog :=
  match Text.lower s with
  | "vulnerability" | "vuln" => some vulnerability
  | "sensitive" | "secret" | "sensitive-data" => some sensitive
  | _ => none

end Catalog

end Linewatch
