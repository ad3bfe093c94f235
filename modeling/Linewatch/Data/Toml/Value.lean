import Linewatch.Data.Toml.Number
import Linewatch.Data.Toml.Tree

namespace Linewatch.Toml

def nestLimit : Nat := 80

def skipComment (l : List Char) : List Char := l.dropWhile isPlain

def skipTrivia : (fuel : Nat) → List Char → List Char
  | 0, l => l
  | fuel + 1, l =>
    match skipLines l with
    | '#' :: rest =>
      match lineEnd? (skipComment rest) with
      | some rest => skipTrivia fuel rest
      | none => '#' :: rest
    | l => l

def gap (l : List Char) : List Char := skipTrivia (l.length + 1) l

def isBareChar (c : Char) : Bool := c.isAlphanum || c == '-' || c == '_'

def namePart? : List Char → Option (String × List Char)
  | '"' :: rest => basic? (rest.length + 1) [] rest
  | '\'' :: rest => literal? rest
  | l =>
    match l.span isBareChar with
    | ([], _) => none
    | (part, rest) => some (String.ofList part, rest)

def nameParts? : (fuel : Nat) → (parts : List String) → List Char →
    Option (List String × List Char)
  | 0, _, _ => none
  | fuel + 1, parts, l =>
    match namePart? (skipBlanks l) with
    | none => none
    | some (part, rest) =>
      match skipBlanks rest with
      | '.' :: rest => nameParts? fuel (part :: parts) rest
      | rest => some (part :: parts, rest)

structure Name where
  path : List String
  last : String

def name? (l : List Char) : Option (Name × List Char) :=
  match nameParts? (l.length + 1) [] l with
  | some (last :: before, rest) =>
    if before.length + 1 < nestLimit then some (⟨before.reverse, last⟩, rest) else none
  | _ => none

mutual

def value? (fuel nest : Nat) (l : List Char) : Option (Datum × List Char) :=
  match fuel with
  | 0 => none
  | fuel + 1 =>
    match l with
    | '[' :: rest =>
      match nest with
      | 0 => none
      | nest + 1 => items? fuel nest [] (gap rest)
    | '{' :: rest =>
      match nest with
      | 0 => none
      | nest + 1 =>
        match skipBlanks rest with
        | '}' :: rest => some (.table false [], rest)
        | rest => pairs? fuel nest [] rest
    | 't' :: 'r' :: 'u' :: 'e' :: rest => some (.flag true, rest)
    | 'f' :: 'a' :: 'l' :: 's' :: 'e' :: rest => some (.flag false, rest)
    | '"' :: _ => (text? l).map fun (s, rest) => (.text s, rest)
    | '\'' :: _ => (text? l).map fun (s, rest) => (.text s, rest)
    | _ => number? l

def items? (fuel nest : Nat) (done : List Datum) (l : List Char) : Option (Datum × List Char) :=
  match fuel with
  | 0 => none
  | fuel + 1 =>
    match l with
    | ']' :: rest => some (.list done.reverse, rest)
    | l =>
      match value? fuel nest l with
      | none => none
      | some (d, rest) =>
        match gap rest with
        | ',' :: rest => items? fuel nest (d :: done) (gap rest)
        | ']' :: rest => some (.list (d :: done).reverse, rest)
        | _ => none

def pairs? (fuel nest : Nat) (done : Members) (l : List Char) : Option (Datum × List Char) :=
  match fuel with
  | 0 => none
  | fuel + 1 =>
    match name? l with
    | some (name, '=' :: rest) =>
      match value? fuel nest (skipBlanks rest) with
      | none => none
      | some (d, rest) =>
        match done.insert name.path name.last d, skipBlanks rest with
        | some done, ',' :: rest => pairs? fuel nest done rest
        | some done, '}' :: rest => some (.table false (membersData false done), rest)
        | _, _ => none
    | _ => none

end

end Linewatch.Toml
