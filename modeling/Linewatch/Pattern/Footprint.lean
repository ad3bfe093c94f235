import Linewatch.Pattern.Basic
import Linewatch.Pattern.CodeRanges

namespace Linewatch

namespace CodeRanges

/-- The code points that take one, two, three and four bytes in UTF-8, without the surrogates. With
them stand the numbers of code points that share all but the last bytes. -/
def lengths : List ((Nat × Nat) × List Nat) :=
  [((0x0, 0x7F), []), ((0x80, 0x7FF), [0x40]), ((0x800, 0xD7FF), [0x40, 0x1000]),
    ((0xE000, 0xFFFF), [0x40, 0x1000]), ((0x10000, 0x10FFFF), [0x40, 0x1000, 0x40000])]

/-- Cuts a range at blocks, so that each byte of a piece that is not the same throughout takes all
values from that of the first to that of the last code point. -/
def cutAtBlocks : (blocks : List Nat) → (first last : Nat) → CodeRanges
  | [], first, last => [(first, last)]
  | block :: blocks, first, last =>
    if first / block = last / block then [(first, last)]
    else
      let start := (first + block - 1) / block * block
      let stop := (last + 1) / block * block
      (if first < start then [(first, start - 1)] else []) ++
        (if start < stop then cutAtBlocks blocks start (stop - 1) else []) ++
        if stop ≤ last then [(stop, last)] else []

def pieces (r : Nat × Nat) : CodeRanges :=
  if r.1 / 0x40 = r.2 / 0x40 then [r]
  else
    lengths.flatMap fun (s, blocks) =>
      if max r.1 s.1 ≤ min r.2 s.2 then cutAtBlocks blocks (max r.1 s.1) (min r.2 s.2) else []

def byteLength (n : Nat) : Nat :=
  if n < 0x80 then 1 else if n < 0x800 then 2 else if n < 0x10000 then 3 else 4

/-- The states for the bytes of a piece, without those for the bytes with which the piece before it
begins as well. -/
def statesAfter (p q : Nat × Nat) : Nat :=
  let n := byteLength q.1
  let agree (block : Nat) : Bool := p.1 / block == q.1 / block && p.2 / block == q.2 / block
  if byteLength p.1 ≠ n then n
  else if agree 0x40 then 1
  else if agree 0x1000 then min n 2
  else if agree 0x40000 then min n 3
  else n

def stateCount : CodeRanges → Nat
  | [] => 0
  | p :: rest => byteLength p.1 + count p rest
where
  count (p : Nat × Nat) : CodeRanges → Nat
    | [] => 0
    | q :: rest => statesAfter p q + count q rest

end CodeRanges

def stateSize : Nat := 32

namespace CharClass

/-- The bytes that a class takes: a state for each byte of a single character, a row of ranges within
ASCII, or else a choice between the sequences of bytes. -/
def footprint (a : CharClass) : Nat :=
  match a.codeRanges with
  | [r] => if r.1 = r.2 then CodeRanges.byteLength r.1 * stateSize else size [r]
  | l => size l
where
  size (l : CodeRanges) : Nat :=
    if l.isAscii then 2 * stateSize + 8 * l.length
    else
      let pieces := l.flatMap CodeRanges.pieces
      2 * stateSize + 4 * pieces.length + stateSize * CodeRanges.stateCount pieces

end CharClass

structure Alternatives where
  count : Nat
  total : Nat
  cls : Option CharClass

namespace Alternatives

def single (total : Nat) : Alternatives := ⟨1, total, none⟩

def ofClass (a : CharClass) : Alternatives := ⟨1, a.footprint, some a⟩

def join (a b : Alternatives) : Alternatives where
  count := a.count + b.count
  total := a.total + b.total
  cls :=
    match a.cls, b.cls with
    | some a, some b => some (.union a b)
    | _, _ => none

/-- What a choice between alternatives takes. Alternatives of single characters make one class. -/
def footprint (a : Alternatives) : Nat :=
  match a.cls with
  | some cls => cls.footprint
  | none => if a.count = 1 then a.total else a.total + 2 * stateSize + 4 * a.count

end Alternatives

namespace Pattern

def forkSize : Nat := stateSize + 8

def alternatives : Pattern → Alternatives
  | empty | look _ => .single stateSize
  | one cls => .ofClass cls
  | cat p q => .single (p.alternatives.footprint + q.alternatives.footprint)
  | alt p q => p.alternatives.join q.alternatives
  | rep p 0 none _ =>
    .single (p.alternatives.footprint +
      if p.takesSome then forkSize else 2 * forkSize + stateSize)
  | rep p (least + 1) none _ => .single ((least + 1) * p.alternatives.footprint + forkSize)
  | rep p 0 (some 1) _ => .single (p.alternatives.footprint + forkSize + stateSize)
  | rep p 0 (some most) _ =>
    .single (most * (p.alternatives.footprint + forkSize) + 2 * stateSize)
  | rep p (least + 1) (some most) _ =>
    .single ((least + 1) * p.alternatives.footprint +
      if most = least + 1 then 0
      else (most - (least + 1)) * (p.alternatives.footprint + forkSize) + stateSize)

/-- The bytes that a pattern takes when it is laid out for matching the bytes of a text from its end,
with a loop over what stands after a match and a state for the match itself. Laid out from the
beginning it takes less unless it holds many groups. Groups are left out here, and so are the savings
for alternatives that are all plain text or begin alike. -/
def footprint (p : Pattern) : Nat :=
  p.alternatives.footprint + forkSize + (2 * stateSize + 8) + stateSize

def sizeLimit : Nat := Nat.pow 2 20

end Pattern

end Linewatch
