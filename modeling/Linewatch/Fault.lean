import Linewatch.Catalog

namespace Linewatch

inductive Overrun where
  | tooManyLines (count limit : Nat)
  | tooLate (milliseconds line : Nat)
deriving DecidableEq, Repr

inductive ReferenceFault where
  | unknownCatalog (spelling key : String)
  | secretOverride (key : String)
deriving DecidableEq, Repr

inductive Fault where
  | duplicateRule (catalog : Catalog) (name : String)
  | invalidPattern (rule : String)
  | overrun (o : Overrun)
  | reference (r : ReferenceFault)
  | unsupportedInput (path : String)
  /-- A file or directory cannot be read or written. -/
  | io
  /-- A text is not JSON, or not JSON of the expected form. -/
  | json
  /-- A text is not TOML, or not TOML of the expected form. -/
  | toml
deriving DecidableEq, Repr

namespace Overrun

def message : Overrun → String
  | tooManyLines count limit => s!"{count} lines exceeds the limit of {limit}"
  | tooLate milliseconds line => s!"exceeded {milliseconds}ms before line {line}"

end Overrun

namespace ReferenceFault

def message : ReferenceFault → String
  | unknownCatalog spelling key => s!"unknown catalog '{spelling}' in rule reference '{key}'"
  | secretOverride key => s!"override '{key}': sensitive findings are always critical"

end ReferenceFault

namespace Fault

/-- The message of a fault. What lies outside, such as the system's account of a failed read, is not
part of it. -/
def message : Fault → String
  | duplicateRule catalog name => s!"Duplicate rule '{name}' in {catalog.name} catalog"
  | invalidPattern rule => s!"Invalid pattern for rule '{rule}': "
  | overrun o => s!"Scan aborted: {o.message}"
  | reference r => s!"Configuration error: {r.message}"
  | unsupportedInput path => s!"Unsupported input: {path} (only .js and .txt files are scanned)"
  | io => "IO error: "
  | json => "JSON error: "
  | toml => "TOML parse error: "

def exitCode (_ : Fault) : Nat := 2

def isRecoverable : Fault → Bool
  | overrun _ => true
  | _ => false

end Fault

end Linewatch
