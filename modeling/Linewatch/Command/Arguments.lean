namespace Linewatch

structure ScanOptions where
  paths : List String
  config : Option String
  format : String
  failOn : Option String
  output : Option String
deriving DecidableEq, Repr

inductive Command where
  | scan (o : ScanOptions)
  | listRules (config : Option String) (format : String)
  | init (force : Bool)
deriving DecidableEq, Repr

inductive Invocation where
  | run (c : Command)
  | help
  | version
  /-- The command line has no meaning. -/
  | misuse
deriving DecidableEq, Repr

namespace Invocation

inductive OptionKind where
  | flag
  | text
  /-- A path, which must not be empty. -/
  | path
  | help
  | version
deriving DecidableEq

structure OptionForm where
  name : String
  letter : Option Char
  kind : OptionKind

def helpForm : OptionForm := ⟨"help", some 'h', .help⟩
def versionForm : OptionForm := ⟨"version", some 'V', .version⟩
def verboseForm : OptionForm := ⟨"verbose", some 'v', .flag⟩
def configForm : OptionForm := ⟨"config", some 'c', .path⟩
def formatForm : OptionForm := ⟨"format", some 'f', .text⟩
def failOnForm : OptionForm := ⟨"fail-on", none, .text⟩
def outputForm : OptionForm := ⟨"output", some 'o', .path⟩
def forceForm : OptionForm := ⟨"force", none, .flag⟩

def commonForms : List OptionForm := [verboseForm, versionForm, helpForm]

def scanForms : List OptionForm :=
  [configForm, formatForm, failOnForm, outputForm, verboseForm, helpForm]

def listRulesForms : List OptionForm := [configForm, formatForm, verboseForm, helpForm]

def initForms : List OptionForm := [forceForm, verboseForm, helpForm]

structure Given where
  /-- Options by name, each with its value, last first. A flag has an empty value. -/
  options : List (String × String) := []
  /-- The arguments that are no options, last first. -/
  operands : List String := []

namespace Given

def value? (g : Given) (form : OptionForm) : Option String := g.options.lookup form.name

def has (g : Given) (form : OptionForm) : Bool := (g.value? form).isSome

def add (g : Given) (form : OptionForm) (value : String) : Except Invocation Given :=
  if g.has form ∨ (form.kind = .path ∧ value = "") then .error .misuse
  else .ok { g with options := (form.name, value) :: g.options }

def addOperand (g : Given) (path : String) : Except Invocation Given :=
  if path = "" then .error .misuse else .ok { g with operands := path :: g.operands }

end Given

abbrev Progress := Given × Option OptionForm

/-- An option written out, read from after its hyphens. A value may follow an equals sign. -/
def longOption (forms : List OptionForm) (g : Given) (text : List Char) :
    Except Invocation Progress :=
  let (name, value) := text.span (· != '=')
  match forms.find? fun form => form.name.toList == name with
  | none => .error .misuse
  | some form =>
    match form.kind, value with
    | .flag, [] => (g.add form "").map (·, none)
    | .help, [] => .error .help
    | .version, [] => .error .version
    | .text, [] | .path, [] => .ok (g, some form)
    | .text, _ :: value | .path, _ :: value =>
      (g.add form (String.ofList value)).map (·, none)
    | _, _ => .error .misuse

/-- Options given by their letters. What follows the letter of one that takes a value is the value,
without an equals sign before it. -/
def shortOptions (forms : List OptionForm) : Given → List Char → Except Invocation Progress
  | g, [] => .ok (g, none)
  | g, letter :: rest =>
    match forms.find? fun form => form.letter == some letter with
    | none => .error .misuse
    | some form =>
      match form.kind with
      | .help => .error .help
      | .version => .error .version
      | .flag =>
        match g.add form "" with
        | .error i => .error i
        | .ok g => shortOptions forms g rest
      | .text | .path =>
        match rest with
        | [] => .ok (g, some form)
        | '=' :: value | value => (g.add form (String.ofList value)).map (·, none)

def optionArgument (forms : List OptionForm) (g : Given) : List Char → Except Invocation Progress
  | '-' :: text => longOption forms g text
  | letters => shortOptions forms g letters

/-- Reads the arguments of a command, after an option whose value may be still to come. A hyphen alone
is no option, and after two of them there are none. -/
def arguments (forms : List OptionForm) : Option OptionForm → Given → List String →
    Except Invocation Given
  | none, g, [] => .ok g
  | some _, _, [] => .error .misuse
  | awaiting, g, arg :: rest =>
    match arg.toList, awaiting with
    | '-' :: _ :: _, some _ => .error .misuse
    | ['-', '-'], none => rest.foldlM Given.addOperand g
    | '-' :: c :: l, none =>
      match optionArgument forms g (c :: l) with
      | .error i => .error i
      | .ok (g, awaiting) => arguments forms awaiting g rest
    | _, some form =>
      match g.add form arg with
      | .error i => .error i
      | .ok g => arguments forms none g rest
    | _, none =>
      match g.addOperand arg with
      | .error i => .error i
      | .ok g => arguments forms none g rest

def ofCommand (forms : List OptionForm) (args : List String) (command : Given → Option Command) :
    Invocation :=
  match arguments forms none {} args with
  | .error i => i
  | .ok g =>
    match command g with
    | some c => .run c
    | none => misuse

def scanCommand (g : Given) : Command :=
  .scan
    { paths := if g.operands.isEmpty then ["."] else g.operands.reverse
      config := g.value? configForm
      format := (g.value? formatForm).getD "console"
      failOn := g.value? failOnForm
      output := g.value? outputForm }

def listRulesCommand? (g : Given) : Option Command :=
  if g.operands.isEmpty then
    some (.listRules (g.value? configForm) ((g.value? formatForm).getD "table"))
  else none

def initCommand? (g : Given) : Option Command :=
  if g.operands.isEmpty then some (.init (g.has forceForm)) else none

def afterOptions (g : Given) : List String → Invocation
  | [] => misuse
  | "scan" :: args => ofCommand scanForms args fun g => some (scanCommand g)
  | "list-rules" :: args => ofCommand listRulesForms args listRulesCommand?
  | "init" :: args => ofCommand initForms args initCommand?
  | ["help"] | ["help", "scan"] | ["help", "list-rules"] | ["help", "init"] | ["help", "help"] =>
    help
  | arg :: args =>
    match arg.toList with
    | '-' :: c :: l =>
      match optionArgument commonForms g (c :: l) with
      | .error i => i
      | .ok (g, _) => afterOptions g args
    | _ => misuse

/-- What the arguments of a run ask for. The first that settles it does, from left to right. -/
def ofArguments (args : List String) : Invocation := afterOptions {} args

end Invocation

end Linewatch
