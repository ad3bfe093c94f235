import Linewatch.Pattern.Reader.Escape

namespace Linewatch.Reader

def asciiClasses : List (String × AsciiClass) :=
  [("alnum", .alnum), ("alpha", .alpha), ("ascii", .ascii), ("blank", .blank), ("cntrl", .cntrl),
   ("digit", .digit), ("graph", .graph), ("lower", .lower), ("print", .print), ("punct", .punct),
   ("space", .space), ("upper", .upper), ("word", .word), ("xdigit", .xdigit)]

def namedClass : List Char → Step WrittenClass
  | ':' :: rest =>
    let (negated, rest) := match rest with
      | '^' :: rest => (true, rest)
      | rest => (false, rest)
    match rest.span (· != ':') with
    | (name, ':' :: ']' :: rest) =>
      (asciiClasses.lookup (String.ofList name)).map fun cls => (.named negated cls, rest)
    | _ => none
  | _ => none

def classPart (extended : Bool) : List Char → Step Written
  | [] => none
  | '\\' :: rest => escape extended rest
  | c :: rest => some (.char ⟨c, false⟩, rest)

def itemOf? : Written → Option WrittenClass
  | .char c => some (.char c)
  | .shorthand negated cls => some (.shorthand negated cls)
  | .property negated name value => some (.property negated name value)
  | _ => none

def afterHyphen (extended : Bool) (l : List Char) : Option Char :=
  if extended then
    let rest := match l.dropWhile Text.isBlank with
      | '#' :: rest => rest.dropWhile Text.isBlank
      | rest => rest
    if rest.isEmpty then l.head? else rest.head?
  else l.head?

/-- A single part, or two with a hyphen between them. A hyphen before a closing bracket or before
another hyphen makes no range. -/
def classItem (extended : Bool) (l : List Char) : Step WrittenClass :=
  match classPart extended l with
  | none => none
  | some (first, rest) =>
    match gap extended rest with
    | [] => none
    | '-' :: rest =>
      if afterHyphen extended rest = some ']' ∨ afterHyphen extended rest = some '-' then
        (itemOf? first).map (·, '-' :: rest)
      else
        match classPart extended (gap extended rest) with
        | none => none
        | some (last, rest) =>
          match first, last with
          | .char first, .char last =>
            if first.char ≤ last.char then some (.range first last, rest) else none
          | _, _ => none
    | rest => (itemOf? first).map (·, rest)

def leadingHyphens (extended : Bool) : (fuel : Nat) → (items : List WrittenClass) → List Char →
    List WrittenClass × List Char
  | 0, items, l => (items, l)
  | fuel + 1, items, l =>
    match l with
    | '-' :: rest =>
      leadingHyphens extended fuel (.char ⟨'-', false⟩ :: items) (gap extended rest)
    | _ => (items, l)

/-- The beginning of a class after its opening bracket: whether it is negated, and the hyphens or
the closing bracket that stand for themselves there, last first. -/
def classOpening (extended : Bool) (l : List Char) : Bool × List WrittenClass × List Char :=
  let l := gap extended l
  let (negated, l) := match l with
    | '^' :: rest => (true, gap extended rest)
    | _ => (false, l)
  match leadingHyphens extended l.length [] l with
  | ([], ']' :: rest) => (negated, [.char ⟨']', false⟩], gap extended rest)
  | (items, l) => (negated, items, l)

abbrev Pending := Option (ClassOp × WrittenClass)

def closeOperand (pending : Pending) (items : List WrittenClass) : WrittenClass :=
  let right := WrittenClass.ofItems items.reverse
  match pending with
  | none => right
  | some (op, left) => .combined op left right

def classOp : List Char → Step ClassOp
  | '&' :: '&' :: rest => some (.inter, rest)
  | '-' :: '-' :: rest => some (.diff, rest)
  | '~' :: '~' :: rest => some (.symmDiff, rest)
  | _ => none

def classInside (extended : Bool) : (fuel nest : Nat) → Pending → (items : List WrittenClass) →
    List Char → Step WrittenClass
  | 0, _, _, _, _ => none
  | fuel + 1, nest, pending, items, l =>
    match gap extended l with
    | [] => none
    | ']' :: rest => some (closeOperand pending items, rest)
    | '[' :: rest =>
      match namedClass rest with
      | some (item, rest) => classInside extended fuel nest pending (item :: items) rest
      | none =>
        match nest with
        | 0 => none
        | nest + 1 =>
          let (negated, inner, rest) := classOpening extended rest
          match classInside extended fuel nest none inner rest with
          | none => none
          | some (inner, rest) =>
            classInside extended fuel (nest + 1) pending (.bracketed negated inner :: items) rest
    | l =>
      match classOp l with
      | some (op, rest) =>
        let left := closeOperand pending items
        if left.depth ≤ Written.nestLimit then
          classInside extended fuel nest (some (op, left)) [] rest
        else none
      | none =>
        match classItem extended l with
        | none => none
        | some (item, rest) => classInside extended fuel nest pending (item :: items) rest

def bracketedClass (extended : Bool) (l : List Char) : Step Written :=
  let (negated, items, rest) := classOpening extended l
  (classInside extended (l.length + 1) Written.nestLimit none items rest).map fun (inner, rest) =>
    (.bracketed negated inner, rest)

end Linewatch.Reader
