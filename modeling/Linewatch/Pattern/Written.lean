import Linewatch.Pattern.Basic

namespace Linewatch

inductive Flag where
  | ignoreCase
  | multiLine
  | dotAll
  | swapGreed
  | unicode
  | crlf
  /-- White space and comments between the parts of the pattern mean nothing. -/
  | extended
deriving DecidableEq

abbrev FlagChanges := List (Flag × Bool)

inductive Shorthand where
  | digit
  | space
  | word
deriving DecidableEq

inductive AsciiClass where
  | alnum | alpha | ascii | blank | cntrl | digit | graph | lower | print | punct | space | upper
  | word | xdigit
deriving DecidableEq

inductive ClassOp where
  | inter
  | diff
  | symmDiff
deriving DecidableEq

/-- A character as written. Two hexadecimal digits after `\x` name a byte where Unicode is off. -/
structure WrittenChar where
  char : Char
  isByte : Bool
deriving DecidableEq

inductive WrittenClass where
  | char (c : WrittenChar)
  | range (first last : WrittenChar)
  | named (negated : Bool) (cls : AsciiClass)
  | shorthand (negated : Bool) (cls : Shorthand)
  | property (negated : Bool) (name : List Char) (value : Option (List Char))
  | bracketed (negated : Bool) (inner : WrittenClass)
  | union (items : List WrittenClass)
  | combined (op : ClassOp) (left right : WrittenClass)

inductive Assertion where
  | lineStart
  | lineEnd
  | textStart
  | textEnd
  | word (edge : WordEdge)
deriving DecidableEq

inductive Written where
  | empty
  | flags (changes : FlagChanges)
  | char (c : WrittenChar)
  | dot
  | assertion (a : Assertion)
  | shorthand (negated : Bool) (cls : Shorthand)
  | property (negated : Bool) (name : List Char) (value : Option (List Char))
  | bracketed (negated : Bool) (inner : WrittenClass)
  | repeated (w : Written) (least : Nat) (most : Option Nat) (greedy : Bool)
  | group (changes : FlagChanges) (w : Written)
  | alternation (branches : List Written)
  | concat (items : List Written)

namespace WrittenClass

def ofItems : List WrittenClass → WrittenClass
  | [item] => item
  | items => .union items

mutual

def depth : WrittenClass → Nat
  | bracketed _ inner => inner.depth + 1
  | union [] => 0
  | union items => depthAll 0 items + 1
  | combined _ left right => max left.depth right.depth + 1
  | _ => 0

def depthAll (deepest : Nat) : List WrittenClass → Nat
  | [] => deepest
  | item :: rest => depthAll (max deepest item.depth) rest

end

end WrittenClass

namespace Written

def ofItems : List Written → Written
  | [] => .empty
  | [item] => item
  | items => .concat items

def ofBranches : List Written → Written
  | [branch] => branch
  | branches => .alternation branches

mutual

def depth : Written → Nat
  | bracketed _ inner => inner.depth + 1
  | repeated w _ _ _ => w.depth + 1
  | group _ w => w.depth + 1
  | alternation branches => depthAll 0 branches + 1
  | concat items => depthAll 0 items + 1
  | _ => 0

def depthAll (deepest : Nat) : List Written → Nat
  | [] => deepest
  | w :: rest => depthAll (max deepest w.depth) rest

end

def nestLimit : Nat := 250

end Written

end Linewatch
