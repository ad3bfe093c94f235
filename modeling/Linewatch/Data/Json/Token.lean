namespace Linewatch.Json

inductive Token where
  | openList
  | closeList
  | openTable
  | closeTable
  | comma
  | colon
  | null
  | flag (b : Bool)
  | whole (n : Int)
  /-- A number with a fraction or an exponent, or the negative zero. -/
  | real
  | text (s : String)
  /-- A text with half of a surrogate pair in it, which is no character. -/
  | garbled
deriving DecidableEq

namespace Token

def hexDigit? (c : Char) : Option Nat :=
  if '0' ≤ c ∧ c ≤ '9' then some (c.toNat - 48)
  else if 'a' ≤ c ∧ c ≤ 'f' then some (c.toNat - 87)
  else if 'A' ≤ c ∧ c ≤ 'F' then some (c.toNat - 55)
  else none

def unit? (a b c d : Char) : Option Nat :=
  match hexDigit? a, hexDigit? b, hexDigit? c, hexDigit? d with
  | some a, some b, some c, some d => some (((a * 16 + b) * 16 + c) * 16 + d)
  | _, _, _, _ => none

def isHighSurrogate (n : Nat) : Bool := 0xD800 ≤ n && n < 0xDC00

def isLowSurrogate (n : Nat) : Bool := 0xDC00 ≤ n && n < 0xE000

def ofSurrogates (high low : Nat) : Char :=
  Char.ofNat (0x10000 + (high - 0xD800) * 1024 + (low - 0xDC00))

def escaped? : Char → Option Char
  | '"' => some '"'
  | '\\' => some '\\'
  | '/' => some '/'
  | 'b' => some '\x08'
  | 'f' => some '\x0c'
  | 'n' => some '\n'
  | 'r' => some '\r'
  | 't' => some '\t'
  | _ => none

/-- What has been read of a text: its characters in reverse order, a high surrogate that waits for
its low one, and whether all so far is made of characters. -/
structure Partial where
  taken : List Char
  high : Option Nat
  sound : Bool

namespace Partial

def start : Partial := ⟨[], none, true⟩

def push (p : Partial) (c : Char) : Partial := ⟨c :: p.taken, none, p.sound && p.high.isNone⟩

def pushUnit (p : Partial) (n : Nat) : Partial :=
  match p.high with
  | some high =>
    if isLowSurrogate n then ⟨ofSurrogates high n :: p.taken, none, p.sound⟩
    else { p with sound := false }
  | none =>
    if isHighSurrogate n then { p with high := some n }
    else if isLowSurrogate n then { p with sound := false }
    else p.push (.ofNat n)

def token (p : Partial) : Token :=
  if p.sound && p.high.isNone then .text (String.ofList p.taken.reverse) else .garbled

end Partial

/-- Reads a text from after its opening quote. Control characters have to be escaped. -/
def text? (p : Partial) : List Char → Option (Token × List Char)
  | '"' :: rest => some (p.token, rest)
  | '\\' :: 'u' :: a :: b :: c :: d :: rest =>
    match unit? a b c d with
    | some n => text? (p.pushUnit n) rest
    | none => none
  | '\\' :: c :: rest =>
    match escaped? c with
    | some c => text? (p.push c) rest
    | none => none
  | c :: rest => if c.toNat < 0x20 then none else text? (p.push c) rest
  | [] => none

def digits (value : Nat) : List Char → Nat × List Char
  | c :: rest => if c.isDigit then digits (10 * value + (c.toNat - 48)) rest else (value, c :: rest)
  | [] => (value, [])

def someDigits? : List Char → Option (List Char)
  | c :: rest => if c.isDigit then some (digits 0 rest).2 else none
  | [] => none

def wholePart? : List Char → Option (Nat × List Char)
  | '0' :: rest =>
    match rest with
    | c :: _ => if c.isDigit then none else some (0, rest)
    | [] => some (0, rest)
  | c :: rest => if c.isDigit then some (digits (c.toNat - 48) rest) else none
  | [] => none

def fraction? : List Char → Option (Bool × List Char)
  | '.' :: rest => (someDigits? rest).map (true, ·)
  | rest => some (false, rest)

def exponent? : List Char → Option (Bool × List Char)
  | c :: rest =>
    if c = 'e' ∨ c = 'E' then
      match rest with
      | '+' :: rest | '-' :: rest => (someDigits? rest).map (true, ·)
      | rest => (someDigits? rest).map (true, ·)
    else some (false, c :: rest)
  | [] => some (false, [])

def number? (negative : Bool) (l : List Char) : Option (Token × List Char) :=
  match wholePart? l with
  | none => none
  | some (n, rest) =>
    match fraction? rest with
    | none => none
    | some (fraction, rest) =>
      match exponent? rest with
      | none => none
      | some (exponent, rest) =>
        if fraction || exponent || (negative && n == 0) then some (.real, rest)
        else some (.whole (if negative then -n else n), rest)

def first? : List Char → Option (Token × List Char)
  | '[' :: rest => some (.openList, rest)
  | ']' :: rest => some (.closeList, rest)
  | '{' :: rest => some (.openTable, rest)
  | '}' :: rest => some (.closeTable, rest)
  | ',' :: rest => some (.comma, rest)
  | ':' :: rest => some (.colon, rest)
  | '"' :: rest => text? .start rest
  | 'n' :: 'u' :: 'l' :: 'l' :: rest => some (.null, rest)
  | 't' :: 'r' :: 'u' :: 'e' :: rest => some (.flag true, rest)
  | 'f' :: 'a' :: 'l' :: 's' :: 'e' :: rest => some (.flag false, rest)
  | '-' :: rest => number? true rest
  | l => number? false l

def isBlank (c : Char) : Bool := c == ' ' || c == '\n' || c == '\t' || c == '\r'

def all? : (fuel : Nat) → List Token → List Char → Option (List Token)
  | 0, _, _ => none
  | fuel + 1, done, l =>
    match l.dropWhile isBlank with
    | [] => some done.reverse
    | l =>
      match first? l with
      | some (t, rest) => all? fuel (t :: done) rest
      | none => none

end Token

def tokens? (l : List Char) : Option (List Token) := Token.all? (l.length + 1) [] l

end Linewatch.Json
