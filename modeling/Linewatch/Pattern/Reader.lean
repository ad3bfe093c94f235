import Linewatch.Pattern.Reader.Class
import Linewatch.Unicode.Binary
import Linewatch.Unicode.Category

namespace Linewatch.Reader

def flag? : Char → Option Flag
  | 'i' => some .ignoreCase
  | 'm' => some .multiLine
  | 's' => some .dotAll
  | 'U' => some .swapGreed
  | 'u' => some .unicode
  | 'R' => some .crlf
  | 'x' => some .extended
  | _ => none

/-- The flags after `(?`, up to the colon or parenthesis that ends them. Those after a hyphen are
turned off. No flag may be named twice, and a hyphen only once and not last. -/
def flagChanges (on afterHyphen : Bool) (changes : FlagChanges) :
    List Char → Option (FlagChanges × Char × List Char)
  | [] => none
  | ':' :: rest => if afterHyphen then none else some (changes.reverse, ':', rest)
  | ')' :: rest => if afterHyphen then none else some (changes.reverse, ')', rest)
  | '-' :: rest => if on then flagChanges false true changes rest else none
  | c :: rest =>
    match flag? c with
    | none => none
    | some f =>
      if changes.any (·.1 == f) then none
      else flagChanges on false ((f, on) :: changes) rest

def setsExtended (changes : FlagChanges) (extended : Bool) : Bool :=
  (changes.lookup .extended).getD extended

def isNameStart (c : Char) : Bool :=
  c == '_' || c.isAlpha ||
    (c.toNat ≥ 128 && ((Unicode.binaryTable? "alphabetic").any fun t => t.contains c))

def isNameChar (c : Char) : Bool :=
  isNameStart c || c == '.' || c == '[' || c == ']' || c.isDigit ||
    (c.toNat ≥ 128 && ((Unicode.categoryTable? "n").any fun t => t.contains c))

def groupName (l : List Char) : Step (List Char) :=
  match l.span (· != '>') with
  | (c :: name, '>' :: rest) =>
    if isNameStart c && name.all isNameChar then some (c :: name, rest) else none
  | _ => none

inductive Opening where
  | flags (changes : FlagChanges) (rest : List Char)
  | group (changes : FlagChanges) (name : Option (List Char)) (rest : List Char)

def opening? (extended : Bool) (l : List Char) : Option Opening :=
  match gap extended l with
  | '?' :: '=' :: _ | '?' :: '!' :: _ | '?' :: '<' :: '=' :: _ | '?' :: '<' :: '!' :: _ => none
  | '?' :: 'P' :: '<' :: rest | '?' :: '<' :: rest =>
    (groupName rest).map fun (name, rest) => .group [] (some name) rest
  | '?' :: rest =>
    match flagChanges true false [] rest with
    | some ([], ')', _) => none
    | some (changes, ')', rest) => some (.flags changes rest)
    | some (changes, _, rest) => some (.group changes none rest)
    | none => none
  | l => some (.group [] none l)

def decimal (extended : Bool) (l : List Char) : Option (Option Nat) × List Char :=
  let (value, rest) := digits l.length none (l.dropWhile Text.isBlank)
  (value.map fun n => if n < Nat.pow 2 32 then some n else none, rest.dropWhile Text.isBlank)
where
  digits : (fuel : Nat) → Option Nat → List Char → Option Nat × List Char
    | 0, value, l => (value, l)
    | fuel + 1, value, l =>
      match l with
      | c :: rest =>
        if c.isDigit then
          digits fuel (some (10 * value.getD 0 + (c.toNat - 48))) (gap extended rest)
        else (value, l)
      | [] => (value, l)

abbrev Bounds := Nat × Option Nat

def bounds (extended : Bool) (l : List Char) : Step Bounds :=
  match decimal extended (gap extended l) with
  | (some (some least), ',' :: rest) =>
    match gap extended rest with
    | '}' :: rest => some ((least, none), rest)
    | rest =>
      match decimal extended rest with
      | (some (some most), '}' :: rest) =>
        if least ≤ most then some ((least, some most), rest) else none
      | _ => none
  | (some (some count), '}' :: rest) => some ((count, some count), rest)
  | _ => none

def repetition (extended : Bool) : List Char → Step Bounds
  | '?' :: rest => some ((0, some 1), rest)
  | '*' :: rest => some ((0, none), rest)
  | '+' :: rest => some ((1, none), rest)
  | '{' :: rest => (bounds extended rest).map fun (b, rest) => (b, gap extended rest)
  | _ => none

def greed : List Char → Bool × List Char
  | '?' :: rest => (false, rest)
  | rest => (true, rest)

/-- The repetition of the last of the items in a row, which are in reverse order. Flags cannot be
repeated. -/
def repeatLast (b : Bounds) (greedy : Bool) : List Written → Option (List Written)
  | [] => none
  | .flags _ :: _ => none
  | w :: items =>
    if w.depth < Written.nestLimit then some (.repeated w b.1 b.2 greedy :: items) else none

def startsRepetition (c : Char) : Bool := c == '?' || c == '*' || c == '+' || c == '\x7b'

def primitive (extended : Bool) : List Char → Step Written
  | [] => none
  | '\\' :: rest => escape extended rest
  | '.' :: rest => some (.dot, rest)
  | '^' :: rest => some (.assertion .lineStart, rest)
  | '$' :: rest => some (.assertion .lineEnd, rest)
  | c :: rest => some (.char ⟨c, false⟩, rest)

structure Row where
  extended : Bool
  names : List (List Char)
  /-- The alternatives before the present one, last first. -/
  branches : List Written
  /-- The items of the present alternative, last first. -/
  items : List Written

namespace Row

def push (r : Row) (w : Written) : Row := { r with items := w :: r.items }

def cut (r : Row) : Row :=
  { r with branches := .ofItems r.items.reverse :: r.branches, items := [] }

def close (r : Row) : Written := .ofBranches r.cut.branches.reverse

end Row

/-- Reads alternatives up to a closing parenthesis, which is left, or the end of the text. At most
`nest` groups may open inside one another. -/
def row : (fuel nest : Nat) → Row → List Char → Option (Row × List Char)
  | 0, _, _, _ => none
  | fuel + 1, nest, r, l =>
    match gap r.extended l with
    | [] => some (r, [])
    | ')' :: rest => some (r, ')' :: rest)
    | '|' :: rest => row fuel nest r.cut rest
    | '(' :: rest =>
      match opening? r.extended rest, nest with
      | none, _ => none
      | some (.flags changes rest), _ =>
        row fuel nest { r.push (.flags changes) with extended := setsExtended changes r.extended } rest
      | some (.group ..), 0 => none
      | some (.group changes name rest), nest + 1 =>
        if name.any r.names.contains then none
        else
          let inner : Row := ⟨setsExtended changes r.extended, name.toList ++ r.names, [], []⟩
          match row fuel nest inner rest with
          | some (inner, ')' :: rest) =>
            row fuel (nest + 1)
              { r.push (.group changes inner.close) with names := inner.names } rest
          | _ => none
    | '[' :: rest =>
      match bracketedClass r.extended rest with
      | none => none
      | some (w, rest) => row fuel nest (r.push w) rest
    | c :: rest =>
      if startsRepetition c then
        match repetition r.extended (c :: rest) with
        | none => none
        | some (b, rest) =>
          let (greedy, rest) := greed rest
          match repeatLast b greedy r.items with
          | none => none
          | some items => row fuel nest { r with items } rest
      else
        match primitive r.extended (c :: rest) with
        | none => none
        | some (w, rest) => row fuel nest (r.push w) rest

end Linewatch.Reader

namespace Linewatch

def Written.ofText? (text : List Char) : Option Written :=
  match Reader.row (text.length + 1) Written.nestLimit ⟨false, [], [], []⟩ text with
  | some (r, []) => if r.close.depth ≤ nestLimit then some r.close else none
  | _ => none

end Linewatch
