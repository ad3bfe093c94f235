import Linewatch.Text.Lower

namespace Linewatch

inductive OutputFormat where
  | console
  | json
  | sarif
deriving DecidableEq, Repr

namespace OutputFormat

def all : List OutputFormat := [console, json, sarif]

def name : OutputFormat → String
  | console => "console"
  | json => "json"
  | sarif => "sarif"

def ofSpelling? (s : String) : Option OutputFormat :=
  match Text.lower s with
  | "console" | "text" => some console
  | "json" => some json
  | "sarif" => some sarif
  | _ => none

end OutputFormat

end Linewatch
