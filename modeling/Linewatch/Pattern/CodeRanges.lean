import Linewatch.Pattern.CharClass

namespace Linewatch

/-- Closed ranges of code points, ascending and with code points left out between them. -/
abbrev CodeRanges := List (Nat × Nat)

namespace CodeRanges

def insert (r : Nat × Nat) : CodeRanges → CodeRanges
  | [] => [r]
  | s :: rest =>
    if r.2 + 1 < s.1 then r :: s :: rest
    else if s.2 + 1 < r.1 then s :: insert r rest
    else insert (min r.1 s.1, max r.2 s.2) rest

def complement (next : Nat) : CodeRanges → CodeRanges
  | [] => if next ≤ 0x10FFFF then [(next, 0x10FFFF)] else []
  | r :: rest =>
    if next < r.1 then (next, r.1 - 1) :: complement (r.2 + 1) rest else complement (r.2 + 1) rest

def meet (l m : CodeRanges) : CodeRanges :=
  l.flatMap fun r => m.filterMap fun s =>
    if max r.1 s.1 ≤ min r.2 s.2 then some (max r.1 s.1, min r.2 s.2) else none

def holds (l : CodeRanges) (n : Nat) : Bool := l.any fun r => r.1 ≤ n && n ≤ r.2

def isAscii (l : CodeRanges) : Bool := l.all (·.2 < 128)

def casesOfAscii (variants : Char → List Char) (l : CodeRanges) : List Char :=
  ((List.range' 65 58).filter l.holds).flatMap fun n => variants (Char.ofNat n)

def cases (l : CodeRanges) : List Char :=
  let beyond := if l.isAscii then [] else Unicode.foldMap.entries.toList.filter fun e => l.holds e.1
  l.casesOfAscii Unicode.caseVariants ++ beyond.flatMap (·.2)

def addChars (l : CodeRanges) (cs : List Char) : CodeRanges :=
  cs.foldr (fun c l => l.insert (c.toNat, c.toNat)) l

end CodeRanges

namespace CharClass

def codeRanges : CharClass → CodeRanges
  | empty => []
  | range first last => [(first.toNat, last.toNat)]
  | blank => [(0x09, 0x0D), (0x20, 0x20), (0x85, 0x85), (0xA0, 0xA0), (0x1680, 0x1680),
      (0x2000, 0x200A), (0x2028, 0x2029), (0x202F, 0x202F), (0x205F, 0x205F), (0x3000, 0x3000)]
  | word => Unicode.wordTable.ranges.toList
  | table t => t.ranges.toList
  | compl a => a.codeRanges.complement 0
  | union a b => a.codeRanges.foldr CodeRanges.insert b.codeRanges
  | inter a b => a.codeRanges.meet b.codeRanges
  | folded a => a.codeRanges.addChars a.codeRanges.cases
  | foldedAscii a => a.codeRanges.addChars (a.codeRanges.casesOfAscii Unicode.asciiCaseVariants)

end CharClass

end Linewatch
