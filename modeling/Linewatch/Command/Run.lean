import Linewatch.Command.Arguments
import Linewatch.Command.Documents
import Linewatch.Data.Codec
import Linewatch.Data.Json.Writer
import Linewatch.Report.Render
import Linewatch.Settings.Load
import Linewatch.Settings.Starter
import Linewatch.Text.Padded

namespace Linewatch

structure World where
  tree : Tree
  stdin : List UInt8
  clocks : Clocks
  stamp : Stamp

structure Outcome where
  exitCode : Nat
  stdout : String := ""
  /-- The messages on the standard error stream, each to end with a newline. -/
  stderr : List String := []
  /-- The file that the run has written. -/
  written : Option (Path × String) := none

namespace Outcome

def ofFault (stderr : List String) (f : Fault) : Outcome :=
  { exitCode := f.exitCode, stderr := stderr ++ ["Error: " ++ f.message] }

def treeAfter (o : Outcome) (t : Tree) : Tree :=
  match o.written with
  | none => t
  | some (p, text) => t.set p (.file (Utf8.encode text))

end Outcome

namespace World

def settingsName : String := ".sigscan.toml"

/-- The settings in a file. A file that is not there stands for the defaults. -/
def settings (w : World) (config : Option String) : Except Fault Settings :=
  match w.tree.find? (config.getD settingsName) with
  | none => Settings.load none
  | some (.file content) => Settings.load (some content)
  | some _ => .error .io

def placeFor (w : World) (text : String) : Except Fault Path :=
  match w.tree.resolve? text with
  | some p => if w.tree.isDirectory p then .error .io else .ok p
  | none => .error .io

/-- The format that is asked for. Any other spelling means the console, with a warning. -/
def formatFor (spelling : String) : OutputFormat × List String :=
  match OutputFormat.ofSpelling? spelling with
  | some format => (format, [])
  | none => (.console, [s!"Warning: unknown format '{spelling}', using console"])

def failOnFor : Option String → Option Severity × List String
  | none => (none, [])
  | some spelling =>
    match Severity.ofSpelling? spelling with
    | some severity => (some severity, [])
    | none => (none, [s!"Warning: unknown severity '{spelling}', using config default"])

/-- The report on all that is to be scanned. Documents are collected before settings are read. -/
def report (w : World) (o : ScanOptions) : Except Fault Report :=
  match Document.ofArguments w.tree.visible w.tree w.stdin o.paths with
  | .error fault => .error fault
  | .ok documents =>
    match w.settings o.config with
    | .error fault => .error fault
    | .ok s => (s.withFailOn (failOnFor o.failOn).1).scanAll w.clocks documents

def scan (w : World) (o : ScanOptions) : Outcome :=
  let (format, formatWarning) := formatFor o.format
  let warnings := formatWarning ++ (failOnFor o.failOn).2
  match w.report o with
  | .error fault => .ofFault warnings fault
  | .ok r =>
    let exitCode := if r.verdict.pass then 0 else 1
    let text := r.render w.stamp format
    match o.output with
    | none => { exitCode, stdout := text, stderr := warnings }
    | some output =>
      match w.placeFor output with
      | .error fault => .ofFault warnings fault
      | .ok p => { exitCode, stderr := warnings, written := some (p, text) }

def ruleRow (name catalog severity description : String) : String :=
  s!"{Text.padded 18 name} {Text.padded 14 catalog} {Text.padded 10 severity} {description}\n"

def ruleTable (rules : List RuleSummary) : String :=
  ruleRow "NAME" "CATALOG" "SEVERITY" "DESCRIPTION" ++
    String.ofList (List.replicate 80 '-') ++ "\n" ++
    .join (rules.map fun r =>
      ruleRow r.name r.catalog.name r.severity.name (r.description.getD "-"))

def listRules (w : World) (config : Option String) (format : String) : Outcome :=
  match (w.settings config).bind Settings.registry with
  | .error fault => .ofFault [] fault
  | .ok registry =>
    let rules := registry.summaries
    let text :=
      if format = "json" then Json.pretty (.list (rules.map RuleSummary.toDatum)) ++ "\n"
      else ruleTable rules
    { exitCode := 0, stdout := text }

/-- Writes a file with settings to start from. One that is there already stays as it is, unless
`force` is given. -/
def init (w : World) (force : Bool) : Outcome :=
  if (w.tree.find? settingsName).isSome ∧ !force then
    { exitCode := 1, stderr := [s!"{settingsName} already exists. Use --force to overwrite."] }
  else
    match w.placeFor settingsName with
    | .error fault => .ofFault [] fault
    | .ok p =>
      { exitCode := 0, stdout := s!"Created {settingsName}\n"
        written := some (p, Settings.starter) }

def usage : String :=
  "Signature scanner for vulnerable sinks and exposed secrets\n\n" ++
    "Usage: sigscan [--verbose] <COMMAND>\n\n" ++
    "Commands:\n" ++
    "  scan [PATHS]... [--config PATH] [--format FORMAT] [--fail-on SEVERITY] [--output PATH]\n" ++
    "  list-rules [--config PATH] [--format FORMAT]\n" ++
    "  init [--force]\n" ++
    "  help [COMMAND]\n"

def run (w : World) (args : List String) : Outcome :=
  match Invocation.ofArguments args with
  | .run (.scan o) => w.scan o
  | .run (.listRules config format) => w.listRules config format
  | .run (.init force) => w.init force
  | .version => { exitCode := 0, stdout := "sigscan 0.1.0\n" }
  | .help => { exitCode := 0, stdout := usage }
  | .misuse => { exitCode := 2 }

end World

end Linewatch
