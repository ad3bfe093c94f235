import Linewatch.Pattern.Written

namespace Linewatch.Reader

abbrev Step (α : Type) := Option (α × List Char)

def dropComments (inComment : Bool) : List Char → List Char
  | [] => []
  | c :: rest =>
    if inComment then dropComments (c != '\n') rest
    else if Text.isBlank c then dropComments false rest
    else if c = '#' then dropComments true rest
    else c :: rest

def gap (extended : Bool) (l : List Char) : List Char :=
  if extended then dropComments false l else l

def hexValue? (c : Char) : Option Nat :=
  if '0' ≤ c ∧ c ≤ '9' then some (c.toNat - 48)
  else if 'a' ≤ c ∧ c ≤ 'f' then some (c.toNat - 87)
  else if 'A' ≤ c ∧ c ≤ 'F' then some (c.toNat - 55)
  else none

def scalar? (n : Nat) : Option Char := if n.isValidChar then some (.ofNat n) else none

def fixedHex (extended : Bool) : (digits value : Nat) → List Char → Step Char
  | 0, value, l => (scalar? value).map (·, l)
  | digits + 1, value, l =>
    match l with
    | [] => none
    | c :: rest =>
      match hexValue? c with
      | none => none
      | some d => fixedHex extended digits (16 * value + d) (gap extended rest)

def bracedHex (extended : Bool) : (fuel : Nat) → (value : Option Nat) → List Char → Step Char
  | 0, _, _ => none
  | fuel + 1, value, l =>
    match gap extended l with
    | [] => none
    | '}' :: rest => (value.bind scalar?).map (·, gap extended rest)
    | c :: rest =>
      match hexValue? c with
      | none => none
      | some d => bracedHex extended fuel (some (16 * value.getD 0 + d)) rest

def hex (extended : Bool) (digits : Nat) (l : List Char) : Step WrittenChar :=
  match gap extended l with
  | [] => none
  | '{' :: rest =>
    (bracedHex extended (rest.length + 1) none rest).map fun (c, rest) => (⟨c, false⟩, rest)
  | l => (fixedHex extended digits 0 l).map fun (c, rest) => (⟨c, digits == 2⟩, rest)

def braced (extended : Bool) : (fuel : Nat) → (taken : List Char) → List Char → Step (List Char)
  | 0, _, _ => none
  | fuel + 1, taken, l =>
    match gap extended l with
    | [] => none
    | '}' :: rest => some (taken.reverse, rest)
    | c :: rest => braced extended fuel (c :: taken) rest

def cutAt (c : Char) (l : List Char) : Option (List Char × List Char) :=
  match l.span (· != c) with
  | (_, []) => none
  | (before, _ :: after) => some (before, after)

def cutAtUnequal : (before : List Char) → List Char → Option (List Char × List Char)
  | before, '!' :: '=' :: after => some (before.reverse, after)
  | before, c :: rest => cutAtUnequal (c :: before) rest
  | _, [] => none

/-- A property in braces: a name, or a name and a value with a sign between them. All three signs
select the characters that have the value; only a capital `\P` negates. -/
def propertyOf (negated : Bool) (text : List Char) : Written :=
  match ((cutAtUnequal [] text).or (cutAt ':' text)).or (cutAt '=' text) with
  | some (name, value) => .property negated name (some value)
  | none => .property negated text none

def property (extended negated : Bool) (l : List Char) : Step Written :=
  match gap extended l with
  | [] => none
  | '{' :: rest =>
    (braced extended (rest.length + 1) [] rest).map fun (text, rest) =>
      (propertyOf negated text, rest)
  | '\\' :: _ => none
  | c :: rest => some (.property negated [c] none, rest)

def edgeName (extended : Bool) : (fuel : Nat) → (taken : List Char) → List Char →
    List Char × List Char
  | 0, taken, l => (taken.reverse, l)
  | fuel + 1, taken, l =>
    match l with
    | c :: rest =>
      if c.isAlpha ∨ c = '-' then edgeName extended fuel (c :: taken) (gap extended rest)
      else (taken.reverse, l)
    | [] => (taken.reverse, l)

/-- What follows `\b`: the name of an edge in braces, or nothing. Braces that do not begin with a
letter or hyphen are left for a repetition. -/
def wordEdge (extended : Bool) (l : List Char) : Step WordEdge :=
  match l with
  | '{' :: rest =>
    match gap extended rest with
    | [] => none
    | inside@(c :: _) =>
      if c.isAlpha ∨ c = '-' then
        match edgeName extended inside.length [] inside with
        | (name, '}' :: rest) =>
          if name = "start".toList then some (.start, rest)
          else if name = "end".toList then some (.stop, rest)
          else if name = "start-half".toList then some (.startHalf, rest)
          else if name = "end-half".toList then some (.stopHalf, rest)
          else none
        | _ => none
      else some (.boundary, l)
  | l => some (.boundary, l)

def isMeta (c : Char) : Bool :=
  ['\\', '.', '+', '*', '?', '(', ')', '|', '[', ']', '\x7b', '\x7d', '^', '$', '#', '&', '-',
    '~'].contains c

def isEscapable (c : Char) : Bool :=
  isMeta c || (c.toNat < 128 && !c.isAlphanum && c != '<' && c != '>')

def escape (extended : Bool) : List Char → Step Written
  | [] => none
  | 'x' :: rest => (hex extended 2 rest).map fun (c, rest) => (.char c, rest)
  | 'u' :: rest => (hex extended 4 rest).map fun (c, rest) => (.char c, rest)
  | 'U' :: rest => (hex extended 8 rest).map fun (c, rest) => (.char c, rest)
  | 'p' :: rest => property extended false rest
  | 'P' :: rest => property extended true rest
  | 'd' :: rest => some (.shorthand false .digit, rest)
  | 'D' :: rest => some (.shorthand true .digit, rest)
  | 's' :: rest => some (.shorthand false .space, rest)
  | 'S' :: rest => some (.shorthand true .space, rest)
  | 'w' :: rest => some (.shorthand false .word, rest)
  | 'W' :: rest => some (.shorthand true .word, rest)
  | 'a' :: rest => some (.char ⟨'\x07', false⟩, rest)
  | 'f' :: rest => some (.char ⟨'\x0c', false⟩, rest)
  | 't' :: rest => some (.char ⟨'\t', false⟩, rest)
  | 'n' :: rest => some (.char ⟨'\n', false⟩, rest)
  | 'r' :: rest => some (.char ⟨'\r', false⟩, rest)
  | 'v' :: rest => some (.char ⟨'\x0b', false⟩, rest)
  | 'A' :: rest => some (.assertion .textStart, rest)
  | 'z' :: rest => some (.assertion .textEnd, rest)
  | 'b' :: rest => (wordEdge extended rest).map fun (edge, rest) => (.assertion (.word edge), rest)
  | 'B' :: rest => some (.assertion (.word .noBoundary), rest)
  | '<' :: rest => some (.assertion (.word .start), rest)
  | '>' :: rest => some (.assertion (.word .stop), rest)
  | c :: rest => if isEscapable c then some (.char ⟨c, false⟩, rest) else none

end Linewatch.Reader
