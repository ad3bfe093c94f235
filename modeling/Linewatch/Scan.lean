import Linewatch.Finding
import Linewatch.Signature
import Linewatch.Text.Lines
import Linewatch.Text.Utf8

namespace Linewatch

namespace Registry

def hitsOnLine (r : Registry) (line : List Char) (number : Nat) : List Hit :=
  let chars := line.toArray
  Catalog.all.flatMap fun c =>
    (r.rulesFor c).filterMap fun rule =>
      if (rule.find? chars).isSome then
        some ⟨rule.name, c, number, String.ofList (Text.trim line)⟩
      else none

def hits (r : Registry) (text : List Char) : List Hit :=
  ((Text.lines text).zipIdx 1).flatMap fun (line, number) => r.hitsOnLine line number

end Registry

structure Limits where
  maxLines : Option Nat := none
  /-- In milliseconds. -/
  timeout : Option Nat := none
deriving DecidableEq, Repr

/-- The time that has passed since a scan began when it comes to a line, in milliseconds. -/
abbrev Clock := (line : Nat) → Nat

def Clock.frozen : Clock := fun _ => 0

namespace Limits

def excess? (l : Limits) (count : Nat) : Option Overrun :=
  l.maxLines.bind fun limit =>
    if limit < count then some (.tooManyLines count limit) else none

def lateness? (l : Limits) (clock : Clock) (line : Nat) : Option Overrun :=
  l.timeout.bind fun timeout =>
    if timeout ≤ clock line then some (.tooLate timeout line) else none

end Limits

namespace Registry

/-- Adds the hits on numbered lines to those found before. The clock is read before each line, and a
scan that comes to a line too late ends there. -/
def hitsInTime (r : Registry) (l : Limits) (clock : Clock) (found : Array Hit) :
    List (List Char × Nat) → Except Overrun (Array Hit)
  | [] => .ok found
  | (line, number) :: rest =>
    match l.lateness? clock number with
    | some o => .error o
    | none => r.hitsInTime l clock (found ++ r.hitsOnLine line number) rest

/-- The hits in a text, unless the scan reaches a ceiling. The lines are counted before it begins. -/
def boundedHits (r : Registry) (l : Limits) (clock : Clock) (text : List Char) :
    Except Fault (List Hit) :=
  let lines := Text.lines text
  match l.excess? lines.length with
  | some o => .error (.overrun o)
  | none =>
    match r.hitsInTime l clock #[] (lines.zipIdx 1) with
    | .error o => .error (.overrun o)
    | .ok found => .ok found.toList

end Registry

structure Scanner where
  registry : Registry
  limits : Limits := {}

namespace Scanner

def builtin : Scanner where
  registry := .builtin

def scan (s : Scanner) (clock : Clock) (text : List Char) : Except Fault (List Finding) :=
  (s.registry.boundedHits s.limits clock text).map fun hits => hits.map (Finding.ofHit s.registry)

/-- Scans bytes as UTF-8. Ill-formed pieces stand as replacement characters. -/
def scanBytes (s : Scanner) (clock : Clock) (bytes : List UInt8) : Except Fault (List Finding) :=
  s.scan clock (Utf8.decodeLossy bytes)

end Scanner

def scanText (text : List Char) : List Finding :=
  (Registry.builtin.hits text).map (Finding.ofHit .builtin)

end Linewatch
