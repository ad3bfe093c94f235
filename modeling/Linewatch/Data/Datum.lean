namespace Linewatch

inductive Datum where
  | null
  | flag (b : Bool)
  | whole (n : Int)
  /-- A number that is not written as a whole one. Nothing here takes such a number. -/
  | real
  | text (s : String)
  | list (items : List Datum)
  /-- Named members. A headed table is spread over lines of its own below its name; the others are
  written in one piece. -/
  | table (headed : Bool) (members : List (String × Datum))
  /-- Something that is well written but not made of characters only. It can be passed over but not
  taken. -/
  | garbled

namespace Datum

def ofNat (n : Nat) : Datum := .whole n

def record (members : List (String × Datum)) : Datum := .table false members

def option (write : α → Datum) : Option α → Datum
  | some a => write a
  | none => .null

end Datum

end Linewatch
