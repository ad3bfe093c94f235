import Linewatch.Pattern.Search
import Linewatch.Text.Utf8

namespace Linewatch

inductive GlobPiece where
  | char (c : Char)
  /-- Any byte but a slash. -/
  | anyByte
  /-- Any bytes but slashes. -/
  | anyName
  | oneOf (negated : Bool) (ranges : List (Char × Char))
  /-- At the beginning: any directories, or none. -/
  | leading
  /-- At the end: all that is below. -/
  | trailing
  /-- In the middle: a slash, or directories between two slashes. -/
  | between
  | choice (branches : List (List GlobPiece))

namespace GlobPiece

def bytesOf (c : Char) : List Char :=
  (Utf8.encode (String.singleton c)).map fun b => .ofNat b.toNat

/-- A range of characters as a set of bytes: it runs from the last byte of one character to the
first of the other, and the bytes around it stand for themselves. -/
def byteRange (first last : Char) : CharClass :=
  match (bytesOf first).reverse, bytesOf last with
  | low :: before, high :: after =>
    if first = last then .ofChars (bytesOf first)
    else .union (.range low high) (.ofChars (before ++ after))
  | _, _ => .empty

def byteClass (negated : Bool) (ranges : List (Char × Char)) : CharClass :=
  .negateIf negated (ranges.foldr (fun r cls => .union (byteRange r.1 r.2) cls) .empty)

def slash : Pattern := .one (.char '/')

def anyBytes : Pattern := .rep (.one .any) 0 none true

mutual

def pattern : GlobPiece → Pattern
  | char c => .catAll ((bytesOf c).map fun b => .one (.char b))
  | anyByte => .one (.noneOf ['/'])
  | anyName => .rep (.one (.noneOf ['/'])) 0 none true
  | oneOf negated ranges => .one (byteClass negated ranges)
  | leading => .alt (.rep slash 0 (some 1) true) (.cat anyBytes slash)
  | trailing => .cat slash anyBytes
  | between => .alt slash (.cat slash (.cat anyBytes slash))
  | choice branches =>
    match (branchPatterns branches).filter (· ≠ .empty) with
    | [] => .empty
    | patterns => .altAll patterns

def rowPattern : List GlobPiece → Pattern
  | [] => .empty
  | piece :: pieces => piece.pattern.andThen (rowPattern pieces)

def branchPatterns : List (List GlobPiece) → List Pattern
  | [] => []
  | branch :: branches => rowPattern branch :: branchPatterns branches

end

end GlobPiece

structure Glob where
  pieces : List GlobPiece

namespace Glob

/-- What a path must be like throughout. A glob of nothing but two stars leaves it open. -/
def pattern (g : Glob) : Pattern :=
  match g.pieces with
  | [.leading] => GlobPiece.anyBytes
  | pieces => GlobPiece.rowPattern pieces

def covers (g : Glob) (text : String) : Bool :=
  let bytes := (Utf8.encode text).map fun b => Char.ofNat b.toNat
  let whole := Pattern.catAll [.look .textStart, g.pattern, .look .textEnd]
  (whole.program.find? bytes.toArray).isSome

end Glob

end Linewatch
