import Linewatch.Pattern.Program
import Linewatch.Text.Blank

namespace Linewatch

structure Span where
  start : Nat
  stop : Nat
deriving DecidableEq, Repr

namespace Program

/-- The instructions tried so far, each at a place: one mark for every pair of an instruction and a
place. -/
structure Marks where
  places : Nat
  bytes : ByteArray

namespace Marks

def zeros (size : Nat) : (steps : Nat) → ByteArray → ByteArray
  | 0, b => b
  | steps + 1, b => if size ≤ b.size then b else zeros size steps (b ++ b)

def none (size places : Nat) : Marks :=
  ⟨places, zeros (size * places) (size * places) (.mk #[0])⟩

def cell (m : Marks) (addr place : Nat) : Nat := addr * m.places + place

def contains (m : Marks) (addr place : Nat) : Bool :=
  match m.bytes[m.cell addr place]? with
  | some b => b != 0
  | Option.none => false

def insert (m : Marks) (addr place : Nat) : Marks :=
  { m with bytes := m.bytes.set! (m.cell addr place) 1 }

end Marks

/-- Follows the ways on the stack, the last put there first, and when none is left begins anew one
place further on. Answers with the span of the first way to arrive. The search has ended before the
fuel has if there is enough of it for two visits of every instruction at every place. -/
def follow (p : Program) (chars : Array Char) : (fuel start : Nat) → List (Nat × Nat) → Marks →
    Option Span
  | 0, _, _, _ => none
  | fuel + 1, start, [], seen =>
    if start < chars.size then p.follow chars fuel (start + 1) [(0, start + 1)] seen else none
  | fuel + 1, start, (addr, place) :: rest, seen =>
    if seen.contains addr place then p.follow chars fuel start rest seen
    else
      let seen := seen.insert addr place
      match p.code[addr]? with
      | none => p.follow chars fuel start rest seen
      | some .accept => some ⟨start, place⟩
      | some (.jump next) => p.follow chars fuel start ((next, place) :: rest) seen
      | some (.fork first second) =>
        p.follow chars fuel start ((first, place) :: (second, place) :: rest) seen
      | some (.test anchor next) =>
        if anchor.holdsAt chars place then p.follow chars fuel start ((next, place) :: rest) seen
        else p.follow chars fuel start rest seen
      | some (.take cls next) =>
        match chars[place]? with
        | some c =>
          if cls.contains c then p.follow chars fuel start ((next, place + 1) :: rest) seen
          else p.follow chars fuel start rest seen
        | none => p.follow chars fuel start rest seen

def find? (p : Program) (chars : Array Char) : Option Span :=
  let places := chars.size + 1
  p.follow chars ((2 * p.code.size + 2) * places + 1) 0 [(0, 0)] (.none p.code.size places)

end Program

def byteOffset (line : Array Char) (place : Nat) : Nat :=
  (line.toList.take place).foldl (fun n c => n + c.utf8Size) 0

def Span.inBytes (line : Array Char) (s : Span) : Span :=
  ⟨byteOffset line s.start, byteOffset line s.stop⟩

end Linewatch
