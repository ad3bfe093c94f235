import Linewatch.Finding

namespace Linewatch

structure Reference where
  catalog : Option Catalog
  name : String
deriving DecidableEq, Repr

namespace Reference

/-- The reference that a key stands for. What stands before the first slash spells a catalog. -/
def ofKey (key : String) : Except ReferenceFault Reference :=
  match key.toList.span (· != '/') with
  | (_, []) => .ok ⟨none, key⟩
  | (spelling, _ :: name) =>
    match Catalog.ofSpelling? (String.ofList spelling) with
    | some c => .ok ⟨some c, String.ofList name⟩
    | none => .error (.unknownCatalog (String.ofList spelling) key)

def selects (r : Reference) (f : Finding) : Bool :=
  r.name == f.rule && r.catalog.all (· == f.catalog)

end Reference

structure Verdict where
  pass : Bool
  /-- The number of findings before the policy was applied. -/
  totalFindings : Nat
  /-- The number of findings that count. -/
  effectiveFindings : Nat
  highestSeverity : Option Severity
  failThreshold : Severity
deriving DecidableEq, Repr

structure Policy where
  /-- The least severity that makes a run fail. -/
  failOn : Severity := .high
  /-- Keys of the rules whose findings are dropped, a set. -/
  ignoreRules : List String := []
  /-- Severities by the keys of the rules that get them. -/
  overrides : List (String × Severity) := []
deriving DecidableEq, Repr

namespace Policy

def ignore (p : Policy) (key : String) : Policy :=
  if key ∈ p.ignoreRules then p else { p with ignoreRules := p.ignoreRules ++ [key] }

def unignore (p : Policy) (key : String) : Policy :=
  { p with ignoreRules := p.ignoreRules.filter (· != key) }

def unoverride (p : Policy) (key : String) : Policy :=
  { p with overrides := p.overrides.filter (·.1 != key) }

def override (p : Policy) (key : String) (s : Severity) : Policy :=
  { p with overrides := (p.unoverride key).overrides ++ [(key, s)] }

def checkIgnored (key : String) : Except ReferenceFault Unit :=
  (Reference.ofKey key).map fun _ => ()

def checkOverride (key : String) : Except ReferenceFault Unit :=
  match Reference.ofKey key with
  | .error fault => .error fault
  | .ok r => if r.catalog = some .sensitive then .error (.secretOverride key) else .ok ()

/-- Refuses references to unknown catalogs, and overrides of secrets. -/
def validate (p : Policy) : Except ReferenceFault Unit :=
  match p.ignoreRules.forM checkIgnored with
  | .error fault => .error fault
  | .ok () => (p.overrides.map (·.1)).forM checkOverride

def keySelects (f : Finding) (key : String) : Bool :=
  match Reference.ofKey key with
  | .ok r => r.selects f
  | .error _ => false

def isQualified (key : String) : Bool :=
  match Reference.ofKey key with
  | .ok r => r.catalog.isSome
  | .error _ => false

def isIgnored (p : Policy) (f : Finding) : Bool := p.ignoreRules.any (keySelects f)

/-- The severity that replaces a finding's own. A key with a catalog comes before a bare name. -/
def overrideFor (p : Policy) (f : Finding) : Option Severity :=
  if f.catalog = .sensitive then none
  else
    let selecting := p.overrides.filter fun o => keySelects f o.1
    ((selecting.find? fun o => isQualified o.1).or
      (selecting.find? fun o => !isQualified o.1)).map (·.2)

def reratedBy (p : Policy) (f : Finding) : Finding :=
  { f with severity := (p.overrideFor f).getD f.severity }

def apply (p : Policy) (l : List Finding) : List Finding :=
  (l.filter fun f => !p.isIgnored f).map p.reratedBy

/-- The verdict on findings: they pass if none that counts reaches the threshold. -/
def evaluate (p : Policy) (l : List Finding) : Verdict :=
  let effective := p.apply l
  let highest := (effective.map (·.severity)).max?
  { pass := highest.all (· < p.failOn)
    totalFindings := l.length
    effectiveFindings := effective.length
    highestSeverity := highest
    failThreshold := p.failOn }

end Policy

end Linewatch
