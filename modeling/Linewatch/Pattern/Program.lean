import Linewatch.Pattern.Basic

namespace Linewatch

inductive Instr where
  /-- Moves past one character of the class. -/
  | take (cls : CharClass) (next : Nat)
  | test (anchor : Anchor) (next : Nat)
  /-- Goes on with the first way, and with the second if the first comes to nothing. -/
  | fork (first second : Nat)
  | jump (next : Nat)
  | accept

/-- A piece of program that can be put anywhere: its instructions, given the number of the first of
them and the number of the instruction that follows the piece. -/
structure Block where
  size : Nat
  code : (base exit : Nat) → List Instr

namespace Block

def single (instr : (exit : Nat) → Instr) : Block := ⟨1, fun _ exit => [instr exit]⟩

def nothing : Block := single .jump

def seq (a b : Block) : Block where
  size := a.size + b.size
  code base exit := a.code base (base + a.size) ++ b.code (base + a.size) exit

def choice (greedy : Bool) (into past : Nat) : Instr :=
  if greedy then .fork into past else .fork past into

def either (a b : Block) : Block where
  size := 1 + a.size + b.size
  code base exit :=
    .fork (base + 1) (base + 1 + a.size) ::
      (a.code (base + 1) exit ++ b.code (base + 1 + a.size) exit)

def option (greedy : Bool) (b : Block) : Block where
  size := 1 + b.size
  code base exit := choice greedy (base + 1) exit :: b.code (base + 1) exit

def plus (greedy : Bool) (b : Block) : Block where
  size := b.size + 1
  code base exit := b.code base (base + b.size) ++ [choice greedy base exit]

def copies (b last : Block) : (rounds : Nat) → Block
  | 0 => last
  | rounds + 1 => seq b (copies b last rounds)

def upTo (greedy : Bool) (b : Block) : (rounds : Nat) → Block
  | 0 => nothing
  | 1 => option greedy b
  | rounds + 2 => option greedy (seq b (upTo greedy b (rounds + 1)))

/-- The repetition of a block. No round is required of a loop that is entered by choice. -/
def repeated (b : Block) (least : Nat) (most : Option Nat) (greedy : Bool) : Block :=
  match least, most with
  | 0, none => option greedy (plus greedy b)
  | least + 1, none => copies b (plus greedy b) least
  | least, some most =>
    if most ≤ least then copies b nothing least
    else copies b (upTo greedy b (most - least)) least

end Block

def Pattern.block : Pattern → Block
  | .empty => .nothing
  | .one cls => .single (.take cls)
  | .look anchor => .single (.test anchor)
  | .cat p q => .seq p.block q.block
  | .alt p q => .either p.block q.block
  | .rep p least most greedy => p.block.repeated least most greedy

structure Program where
  code : Array Instr

def Pattern.program (p : Pattern) : Program :=
  let b := p.block
  ⟨(b.code 0 b.size ++ [Instr.accept]).toArray⟩

end Linewatch
