import Linewatch.Pattern.Written
import Linewatch.Pattern.Property

namespace Linewatch

structure Flags where
  ignoreCase : Bool
  multiLine : Bool
  dotAll : Bool
  swapGreed : Bool
  unicode : Bool
  crlf : Bool

namespace Flags

def standard : Flags := ⟨false, false, false, false, true, false⟩

def change (fs : Flags) : Flag × Bool → Flags
  | (.ignoreCase, on) => { fs with ignoreCase := on }
  | (.multiLine, on) => { fs with multiLine := on }
  | (.dotAll, on) => { fs with dotAll := on }
  | (.swapGreed, on) => { fs with swapGreed := on }
  | (.unicode, on) => { fs with unicode := on }
  | (.crlf, on) => { fs with crlf := on }
  | (.extended, _) => fs

def changeAll (fs : Flags) (changes : FlagChanges) : Flags := changes.foldl change fs

end Flags

def Shorthand.toClass : Shorthand → CharClass
  | digit => .digit
  | space => .blank
  | word => .word

def Shorthand.toAsciiClass : Shorthand → CharClass
  | digit => .range '0' '9'
  | space => .union (.range '\t' '\r') (.char ' ')
  | word => .ofRanges [('0', '9'), ('A', 'Z'), ('_', '_'), ('a', 'z')]

def AsciiClass.toClass : AsciiClass → CharClass
  | alnum => .ofRanges [('0', '9'), ('A', 'Z'), ('a', 'z')]
  | alpha => .ofRanges [('A', 'Z'), ('a', 'z')]
  | ascii => .range '\x00' '\x7f'
  | blank => .ofRanges [('\t', '\t'), (' ', ' ')]
  | cntrl => .ofRanges [('\x00', '\x1f'), ('\x7f', '\x7f')]
  | digit => .range '0' '9'
  | graph => .range '!' '~'
  | lower => .range 'a' 'z'
  | print => .range ' ' '~'
  | punct => .ofRanges [('!', '/'), (':', '@'), ('[', '\x60'), ('\x7b', '~')]
  | space => .ofRanges [('\t', '\r'), (' ', ' ')]
  | upper => .range 'A' 'Z'
  | word => .ofRanges [('0', '9'), ('A', 'Z'), ('_', '_'), ('a', 'z')]
  | xdigit => .ofRanges [('0', '9'), ('A', 'F'), ('a', 'f')]

namespace Flags

variable (fs : Flags)

def fold (a : CharClass) : CharClass :=
  if fs.ignoreCase then (if fs.unicode then .folded a else .foldedAscii a) else a

/-- A class written as a whole. Case is ignored before the class is negated. -/
def whole (negated : Bool) (a : CharClass) : Option CharClass :=
  if negated && !fs.unicode then none else some (.negateIf negated (fs.fold a))

def shorthandClass (negated : Bool) (s : Shorthand) : Option CharClass :=
  if fs.unicode then some (.negateIf negated s.toClass)
  else if negated then none
  else some s.toAsciiClass

def propertyClass (negated : Bool) (name : List Char) (value : Option (List Char)) :
    Option CharClass :=
  if fs.unicode then
    let a := match value with
      | none => CharClass.ofProperty? name
      | some value => CharClass.ofPropertyValue? name value
    a.bind (fs.whole negated)
  else none

def classChar (c : WrittenChar) : Option Char :=
  if fs.unicode || c.char.toNat < 128 then some c.char else none

def literal (c : WrittenChar) : Option Pattern :=
  if !fs.unicode && c.isByte && c.char.toNat ≥ 128 then none
  else
    let others :=
      if !fs.ignoreCase then []
      else if fs.unicode then Unicode.caseVariants c.char
      else Unicode.asciiCaseVariants c.char
    some (.one (others.foldl (fun a d => .union a (.char d)) (.char c.char)))

def dot : Option Pattern :=
  if !fs.unicode then none
  else if fs.dotAll then some (.one .any)
  else if fs.crlf then some (.one (.noneOf ['\r', '\n']))
  else some (.one (.noneOf ['\n']))

def anchor : Assertion → Anchor
  | .lineStart => if fs.multiLine then .lineStart fs.crlf else .textStart
  | .lineEnd => if fs.multiLine then .lineEnd fs.crlf else .textEnd
  | .textStart => .textStart
  | .textEnd => .textEnd
  | .word edge => .word edge !fs.unicode

end Flags

namespace WrittenClass

def combine : ClassOp → CharClass → CharClass → CharClass
  | .inter => .inter
  | .diff => .diff
  | .symmDiff => .symmDiff

mutual

/-- The characters of what is written inside a class, under the given flags. -/
def meaning (fs : Flags) : WrittenClass → Option CharClass
  | char c => (fs.classChar c).map .char
  | range first last =>
    match fs.classChar first, fs.classChar last with
    | some first, some last => some (.range first last)
    | _, _ => none
  | named negated cls => fs.whole negated cls.toClass
  | shorthand negated cls => fs.shorthandClass negated cls
  | property negated name value => fs.propertyClass negated name value
  | bracketed negated inner =>
    match inner.meaning fs with
    | some a => fs.whole negated a
    | none => none
  | union items => meaningAll fs .empty items
  | combined op left right =>
    match left.meaning fs, right.meaning fs with
    | some a, some b => some (combine op (fs.fold a) (fs.fold b))
    | _, _ => none

def meaningAll (fs : Flags) (acc : CharClass) : List WrittenClass → Option CharClass
  | [] => some acc
  | item :: rest =>
    match item.meaning fs with
    | some a => meaningAll fs (if acc = .empty then a else .union acc a) rest
    | none => none

end

end WrittenClass

namespace Written

/-- More items or alternatives than this make no pattern that is within the limit on patterns. -/
def longestRow : Nat := Nat.pow 2 15

mutual

/-- The pattern written, and the flags in force after it. Changes of flags last to the end of the
group in which they stand, also across alternatives. -/
def meaning (fs : Flags) : Written → Option (Pattern × Flags)
  | empty => some (.empty, fs)
  | flags changes => some (.empty, fs.changeAll changes)
  | char c => (fs.literal c).map (·, fs)
  | dot => fs.dot.map (·, fs)
  | assertion a => some (.look (fs.anchor a), fs)
  | shorthand negated cls => (fs.shorthandClass negated cls).map (.one ·, fs)
  | property negated name value => (fs.propertyClass negated name value).map (.one ·, fs)
  | bracketed negated inner =>
    ((inner.meaning fs).bind (fs.whole negated)).map (.one ·, fs)
  | repeated w least most greedy =>
    match w.meaning fs with
    | some (p, _) => some (p.repeated least most (greedy != fs.swapGreed), fs)
    | none => none
  | group changes w =>
    match w.meaning (fs.changeAll changes) with
    | some (p, _) => some (p, fs)
    | none => none
  | alternation branches =>
    match meaningAll fs [] branches with
    | some (ps, fs) => if ps.length ≤ longestRow then some (.altAll ps, fs) else none
    | none => none
  | concat items =>
    match meaningAll fs [] items with
    | some (ps, fs) => if ps.length ≤ longestRow then some (.catAll ps, fs) else none
    | none => none

def meaningAll (fs : Flags) (taken : List Pattern) : List Written → Option (List Pattern × Flags)
  | [] => some (taken.reverse, fs)
  | w :: rest =>
    match w.meaning fs with
    | some (p, fs) => meaningAll fs (p :: taken) rest
    | none => none

end

end Written

end Linewatch
