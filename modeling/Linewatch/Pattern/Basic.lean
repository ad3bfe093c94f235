import Linewatch.Pattern.CharClass

namespace Linewatch

inductive WordEdge where
  | boundary
  | noBoundary
  | start
  | stop
  /-- No word character stands before the place. -/
  | startHalf
  /-- No word character stands after the place. -/
  | stopHalf
deriving DecidableEq

inductive Anchor where
  | textStart
  | textEnd
  | lineStart (crlf : Bool)
  | lineEnd (crlf : Bool)
  | word (edge : WordEdge) (ascii : Bool)
deriving DecidableEq

namespace WordEdge

def between (before after : Bool) : WordEdge → Bool
  | boundary => before != after
  | noBoundary => before == after
  | start => !before && after
  | stop => before && !after
  | startHalf => !before
  | stopHalf => !after

end WordEdge

namespace Anchor

/-- Whether the anchor holds between two characters, of which either may be missing at an end of
the text. Where a carriage return counts as a line end too, no line ends or starts between it and a
newline after it. -/
def holds (before after : Option Char) : Anchor → Bool
  | textStart => before.isNone
  | textEnd => after.isNone
  | lineStart false => before.isNone || before == some '\n'
  | lineStart true =>
    before.isNone || before == some '\n' || (before == some '\r' && after != some '\n')
  | lineEnd false => after.isNone || after == some '\n'
  | lineEnd true =>
    after.isNone || after == some '\r' || (after == some '\n' && before != some '\r')
  | word edge ascii =>
    let isWord := if ascii then Unicode.isAsciiWord else Unicode.isWord
    edge.between (before.any isWord) (after.any isWord)

def holdsAt (a : Anchor) (chars : Array Char) (place : Nat) : Bool :=
  a.holds (if place = 0 then none else chars[place - 1]?) chars[place]?

end Anchor

/-- A pattern over characters. Of the ways to match, an alternation prefers its left side, and a
repetition prefers more rounds if it is greedy and fewer if it is not. -/
inductive Pattern where
  | empty
  | one (cls : CharClass)
  | look (anchor : Anchor)
  | cat (p q : Pattern)
  | alt (p q : Pattern)
  | rep (p : Pattern) (least : Nat) (most : Option Nat) (greedy : Bool)
deriving DecidableEq

namespace Pattern

def isZeroWidth : Pattern → Bool
  | empty | look _ => true
  | one _ => false
  | cat p q | alt p q => p.isZeroWidth && q.isZeroWidth
  | rep p _ most _ => most == some 0 || p.isZeroWidth

def takesSome : Pattern → Bool
  | empty | look _ => false
  | one _ => true
  | cat p q => p.takesSome || q.takesSome
  | alt p q => p.takesSome && q.takesSome
  | rep p least _ _ => decide (1 ≤ least) && p.takesSome

/-- The repetition of a pattern. A pattern that matches places only is not repeated more than once,
since the rounds after the first would find nothing new. -/
def repeated (p : Pattern) (least : Nat) (most : Option Nat) (greedy : Bool) : Pattern :=
  if most = some 0 then .empty
  else if p.isZeroWidth then .rep p (min least 1) (some 1) greedy
  else .rep p least most greedy

def andThen (p q : Pattern) : Pattern :=
  match p, q with
  | .empty, q => q
  | p, .empty => p
  | p, q => .cat p q

def catAll : List Pattern → Pattern
  | [] => .empty
  | p :: rest => p.andThen (catAll rest)

def altAll : List Pattern → Pattern
  | [] => .one .empty
  | [p] => p
  | p :: rest => .alt p (altAll rest)

end Pattern

end Linewatch
