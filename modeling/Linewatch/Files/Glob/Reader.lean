import Linewatch.Files.Glob

namespace Linewatch.Glob

inductive ClassReading where
  | closed (ranges : List (Char × Char)) (rest : List Char)
  /-- No bracket closes the class. -/
  | unclosed
  /-- A range begins after its end. -/
  | reversed

/-- Reads the ranges of a class. A closing bracket or a hyphen that comes first stands for itself,
and so does a hyphen that comes last. -/
def classRanges : (atFirst atHyphen : Bool) → List (Char × Char) → List Char → ClassReading
  | _, _, _, [] => .unclosed
  | atFirst, atHyphen, ranges, c :: rest =>
    if c = ']' ∧ !atFirst then .closed (if atHyphen then ('-', '-') :: ranges else ranges) rest
    else if c = '-' ∧ !atFirst ∧ !atHyphen then classRanges false true ranges rest
    else match atHyphen, ranges with
      | true, (first, _) :: ranges =>
        if first ≤ c then classRanges false false ((first, c) :: ranges) rest else .reversed
      | _, ranges => classRanges false false ((c, c) :: ranges) rest

def classAfter (l : List Char) : Bool × ClassReading :=
  match l with
  | '!' :: rest | '^' :: rest => (true, classRanges true false [] rest)
  | _ => (false, classRanges true false [] l)

structure Draft where
  /-- The pieces of the present branch, last first. -/
  pieces : List GlobPiece := []
  /-- The choices that are open, innermost first: each with the branches before the present one and
  the pieces before the choice, both last first. -/
  choices : List (List (List GlobPiece) × List GlobPiece) := []

namespace Draft

def push (d : Draft) (piece : GlobPiece) : Draft := { d with pieces := piece :: d.pieces }

def isInChoice (d : Draft) : Bool := !d.choices.isEmpty

def openChoice (d : Draft) : Draft := ⟨[], ([], d.pieces) :: d.choices⟩

def cut? (d : Draft) : Option Draft :=
  match d.choices with
  | [] => none
  | (branches, before) :: choices => some ⟨[], (d.pieces.reverse :: branches, before) :: choices⟩

def closeChoice? (d : Draft) : Option Draft :=
  match d.choices with
  | [] => none
  | (branches, before) :: choices =>
    some ⟨.choice (d.pieces.reverse :: branches).reverse :: before, choices⟩

def widen (d : Draft) (piece : GlobPiece) : Draft :=
  match d.pieces with
  | .leading :: _ | .trailing :: _ => d
  | _ :: pieces => { d with pieces := piece :: pieces }
  | [] => d.push piece

/-- Two stars, which stand for directories where they fill the place between slashes. Given are the
character before them and the text after them. Answers also with the character before what is
left. -/
def twoStars (d : Draft) (before : Option Char) (rest : List Char) : Draft × Char × List Char :=
  let plain := (d.push .anyName, '*', rest)
  let starts := before = some '/' ∨
    (d.isInChoice ∧ (before = some ',' ∨ before = some '\x7b'))
  match d.pieces, rest with
  | [], [] => (d.push .leading, '*', [])
  | [], '/' :: rest => (d.push .leading, '/', rest)
  | [], _ => plain
  | _, [] => if starts then (d.widen .trailing, '*', []) else plain
  | _, '/' :: rest => if starts then (d.widen .between, '/', rest) else plain
  | _, c :: _ =>
    if starts ∧ d.isInChoice ∧ (c = ',' ∨ c = '\x7d') then (d.widen .trailing, '*', rest) else plain

end Draft

def read : (fuel : Nat) → (classes : Bool) → (before : Option Char) → Draft → List Char →
    Option (List GlobPiece)
  | 0, _, _, _, _ => none
  | _ + 1, _, _, d, [] => if d.isInChoice then none else some d.pieces.reverse
  | fuel + 1, classes, before, d, c :: rest =>
    match c, rest with
    | '?', rest => read fuel classes (some c) (d.push .anyByte) rest
    | '*', '*' :: rest =>
      let (d, before, rest) := d.twoStars before rest
      read fuel classes (some before) d rest
    | '*', rest => read fuel classes (some c) (d.push .anyName) rest
    | '[', rest =>
      if classes then
        match classAfter rest with
        | (negated, .closed ranges rest) =>
          read fuel classes (some ']') (d.push (.oneOf negated ranges)) rest
        | (_, .unclosed) => read fuel false (some c) (d.push (.char c)) rest
        | (_, .reversed) => none
      else read fuel classes (some c) (d.push (.char c)) rest
    | '\x7b', rest => read fuel classes (some c) d.openChoice rest
    | '\x7d', rest =>
      match d.closeChoice? with
      | some d => read fuel classes (some c) d rest
      | none => none
    | ',', rest => read fuel classes (some c) (d.cut?.getD (d.push (.char c))) rest
    | '\\', c :: rest => read fuel classes (some c) (d.push (.char c)) rest
    | '\\', [] => none
    | _, rest => read fuel classes (some c) (d.push (.char c)) rest

def ofText? (text : List Char) : Option Glob :=
  (read (text.length + 1) true none {} text).map Glob.mk

end Linewatch.Glob
