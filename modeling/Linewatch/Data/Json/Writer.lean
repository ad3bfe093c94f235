import Linewatch.Data.Datum

namespace Linewatch.Json

def hexDigit (n : Nat) : Char := if n < 10 then .ofNat (48 + n) else .ofNat (87 + n)

def escape (c : Char) : List Char :=
  if c = '"' then ['\\', '"']
  else if c = '\\' then ['\\', '\\']
  else if c = '\x08' then ['\\', 'b']
  else if c = '\x0c' then ['\\', 'f']
  else if c = '\n' then ['\\', 'n']
  else if c = '\r' then ['\\', 'r']
  else if c = '\t' then ['\\', 't']
  else if c.toNat < 0x20 then
    ['\\', 'u', '0', '0', hexDigit (c.toNat / 16), hexDigit (c.toNat % 16)]
  else [c]

def quoted (s : String) (rest : List Char) : List Char :=
  '"' :: s.toList.foldr (fun c rest => escape c ++ rest) ('"' :: rest)

def number (n : Int) (rest : List Char) : List Char :=
  match n with
  | .ofNat n => Nat.toDigits 10 n ++ rest
  | .negSucc n => '-' :: (Nat.toDigits 10 (n + 1) ++ rest)

inductive Layout where
  | compact
  | indented (level : Nat)

namespace Layout

def deeper : Layout → Layout
  | compact => compact
  | indented level => indented (level + 1)

def newline (rest : List Char) : Layout → List Char
  | compact => rest
  | indented level => '\n' :: (List.replicate (2 * level) ' ' ++ rest)

def colon (rest : List Char) : Layout → List Char
  | compact => ':' :: rest
  | indented _ => ':' :: ' ' :: rest

end Layout

mutual

/-- Writes a value before `rest`. A value that is not made of characters and whole numbers is written
as null. -/
def write (layout : Layout) (rest : List Char) : Datum → List Char
  | .null | .real | .garbled => 'n' :: 'u' :: 'l' :: 'l' :: rest
  | .flag true => 't' :: 'r' :: 'u' :: 'e' :: rest
  | .flag false => 'f' :: 'a' :: 'l' :: 's' :: 'e' :: rest
  | .whole n => number n rest
  | .text s => quoted s rest
  | .list [] => '[' :: ']' :: rest
  | .list (d :: ds) =>
    '[' :: layout.deeper.newline (write layout.deeper (writeItems layout rest ds) d)
  | .table _ [] => '{' :: '}' :: rest
  | .table _ ((name, d) :: members) =>
    '{' :: layout.deeper.newline (quoted name (layout.colon
      (write layout.deeper (writeMembers layout rest members) d)))

def writeItems (layout : Layout) (rest : List Char) : List Datum → List Char
  | [] => layout.newline (']' :: rest)
  | d :: ds => ',' :: layout.deeper.newline (write layout.deeper (writeItems layout rest ds) d)

def writeMembers (layout : Layout) (rest : List Char) : List (String × Datum) → List Char
  | [] => layout.newline ('}' :: rest)
  | (name, d) :: members =>
    ',' :: layout.deeper.newline (quoted name (layout.colon
      (write layout.deeper (writeMembers layout rest members) d)))

end

def compact (d : Datum) : String := String.ofList (write .compact [] d)

def pretty (d : Datum) : String := String.ofList (write (.indented 0) [] d)

end Linewatch.Json
