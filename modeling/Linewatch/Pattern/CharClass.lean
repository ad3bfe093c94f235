import Linewatch.Text.Blank
import Linewatch.Unicode.Word
import Linewatch.Unicode.Folding

namespace Linewatch

inductive CharClass where
  | empty
  | range (first last : Char)
  | blank
  | word
  | table (t : Unicode.CharTable)
  | compl (a : CharClass)
  | union (a b : CharClass)
  | inter (a b : CharClass)
  /-- The members of `a` and all characters that differ from one only in case. -/
  | folded (a : CharClass)
  /-- The members of `a` and the ASCII letters that differ from one only in case. -/
  | foldedAscii (a : CharClass)
deriving DecidableEq

namespace CharClass

def contains (c : Char) : CharClass → Bool
  | empty => false
  | range first last => first ≤ c && c ≤ last
  | blank => Text.isBlank c
  | word => Unicode.isWord c
  | table t => t.contains c
  | compl a => !a.contains c
  | union a b => a.contains c || b.contains c
  | inter a b => a.contains c && b.contains c
  | folded a => a.contains c || (Unicode.caseVariants c).any fun d => a.contains d
  | foldedAscii a => a.contains c || (Unicode.asciiCaseVariants c).any fun d => a.contains d

def char (c : Char) : CharClass := .range c c

def any : CharClass := .compl .empty

def ofChars (cs : List Char) : CharClass := cs.foldr (fun c a => .union (.char c) a) .empty

def ofRanges : List (Char × Char) → CharClass
  | [] => .empty
  | [(first, last)] => .range first last
  | (first, last) :: rest => .union (.range first last) (ofRanges rest)

def noneOf (cs : List Char) : CharClass := .compl (.ofChars cs)

def diff (a b : CharClass) : CharClass := .inter a (.compl b)

def symmDiff (a b : CharClass) : CharClass := .union (.diff a b) (.diff b a)

def negateIf (negated : Bool) (a : CharClass) : CharClass := if negated then .compl a else a

end CharClass

end Linewatch
