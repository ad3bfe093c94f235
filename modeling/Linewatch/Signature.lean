import Linewatch.Registry

namespace Linewatch

structure Signature where
  catalog : Catalog
  name : String
  regex : String
  severity : Severity
  description : Option String

namespace Signature

def rule (s : Signature) : Except Fault Rule :=
  Rule.compile s.name s.regex s.severity s.description

/-- Writes to the document that are not escaped, and assignments to `innerHTML` or `outerHTML` of
anything but an empty literal. -/
def xss : Signature where
  catalog := .vulnerability
  name := "xss"
  regex :=
    "document\\.write(?:ln)?\\s*\\(|\\.(?:inner|outer)HTML\\s*\\+?=\\s*(?:[^\"'`\\s;=]|\"[^\"]|'[^']|`[^`]|(?:\"\"|''|``)\\s*\\+)"
  severity := .critical
  description := some (
    "Writing unescaped content into the DOM allows attacker-controlled markup and script to " ++
    "execute in the page")

def evaluation : Signature where
  catalog := .vulnerability
  name := "eval"
  regex :=
    "\\beval\\s*\\(|\\bnew\\s+Function\\s*\\(|\\bset(?:Timeout|Interval)\\s*\\(\\s*[\"'`]"
  severity := .critical
  description := some
    "Dynamic code evaluation executes arbitrary strings as code and enables code injection"

def sqlInjection : Signature where
  catalog := .vulnerability
  name := "sqlInjection"
  regex :=
    "(?i)\\b(?:query|execute|exec|raw)\\s*\\(\\s*[\"'`]\\s*SELECT\\b.*\\bFROM\\b.*\\bWHERE\\b.*(?:\\+|\\$\\\x7b)"
  severity := .high
  description := some (
    "SQL built by string concatenation lets user input alter the query; use parameterized " ++
    "statements")

def builtRegex : Signature where
  catalog := .vulnerability
  name := "unsafeRegex"
  regex := "\\.match\\s*\\(\\s*new\\s+RegExp\\s*\\(\\s*(?:[A-Za-z_$]|`[^`]*\\$\\\x7b)"
  severity := .high
  description := some (
    "Regular expressions built from untrusted input can cause catastrophic backtracking " ++
    "(ReDoS) or match unintended text")

/-- Starting of processes. Methods of the same names, as in `re.exec(`, are left out. -/
def commandInjection : Signature where
  catalog := .vulnerability
  name := "commandInjection"
  regex :=
    "(?:^|[^.\\w$])(?:exec|execSync|execFile|execFileSync|spawn|spawnSync|fork)\\s*\\(|\\bchild_process\\.\\w+\\s*\\(|\\brequire\\s*\\(\\s*[\"']child_process[\"']\\s*\\)"
  severity := .high
  description := some (
    "Spawning processes with untrusted input can let an attacker run arbitrary system " ++
    "commands")

def apiKey : Signature where
  catalog := .sensitive
  name := "apiKey"
  regex :=
    "(?i)(?:api[_-]?key|access[_-]?token|auth[_-]?token|secret[_-]?key|client[_-]?secret|token|secret)[\"']?\\s*[:=]\\s*[\"'`]?[A-Za-z0-9_\\-]\x7b20,\x7d|\\b(?:sk|pk)_[A-Za-z0-9_]\x7b24,\x7d"
  severity := .critical
  description := some
    "API key or access token hardcoded in source; move it to a secret store and rotate it"

def awsKey : Signature where
  catalog := .sensitive
  name := "awsKey"
  regex :=
    "\\b(?:A3T[A-Z0-9]|AKIA|ASIA|AGPA|AIDA|AROA|AIPA|ANPA|ANVA)[A-Z0-9]\x7b16\x7d\\b"
  severity := .critical
  description := some
    "AWS access key ID found in source; revoke it and load credentials from the environment"

def privateKey : Signature where
  catalog := .sensitive
  name := "privateKey"
  regex :=
    "-----BEGIN (?:RSA |EC |DSA |OPENSSH |ENCRYPTED |PGP )?PRIVATE KEY(?: BLOCK)?-----"
  severity := .critical
  description := some
    "Private key material embedded in source; anyone with the code can impersonate its owner"

def password : Signature where
  catalog := .sensitive
  name := "password"
  regex :=
    "(?i)(?:password|passwd|pwd)[\"']?\\s*[:=]\\s*[\"'`][^\"'`]\x7b8,\x7d[\"'`]"
  severity := .critical
  description := some
    "Hardcoded password found; credentials must not be committed to source control"

def jwt : Signature where
  catalog := .sensitive
  name := "jwt"
  regex := "\\beyJ[A-Za-z0-9_-]+\\.[A-Za-z0-9_-]+\\.[A-Za-z0-9_-]+"
  severity := .critical
  description := some
    "JSON Web Token found in source; it may grant access until it expires"

def all : List Signature :=
  [xss, evaluation, sqlInjection, builtRegex, commandInjection, apiKey,
   awsKey, privateKey, password, jwt]

end Signature

namespace Registry

def insertSignature (r : Registry) (s : Signature) : Except Fault Registry :=
  match s.rule with
  | .ok rule => r.insert s.catalog rule
  | .error fault => .error fault

def builtin : Registry :=
  Signature.all.foldl (fun r s => (r.insertSignature s).toOption.getD r) .empty

end Registry

end Linewatch
