namespace Linewatch.Toml

def isPlain (c : Char) : Bool := c == '\t' || (0x20 ≤ c.toNat && c.toNat != 0x7f)

def isBlank (c : Char) : Bool := c == ' ' || c == '\t'

def skipBlanks (l : List Char) : List Char := l.dropWhile isBlank

def lineEnd? : List Char → Option (List Char)
  | '\n' :: rest => some rest
  | '\r' :: '\n' :: rest => some rest
  | _ => none

def skipLines : List Char → List Char
  | ' ' :: rest => skipLines rest
  | '\t' :: rest => skipLines rest
  | '\n' :: rest => skipLines rest
  | '\r' :: '\n' :: rest => skipLines rest
  | rest => rest

def hexDigit? (c : Char) : Option Nat :=
  if '0' ≤ c ∧ c ≤ '9' then some (c.toNat - 48)
  else if 'a' ≤ c ∧ c ≤ 'f' then some (c.toNat - 87)
  else if 'A' ≤ c ∧ c ≤ 'F' then some (c.toNat - 55)
  else none

def codePoint? : (digits value : Nat) → List Char → Option (Char × List Char)
  | 0, value, l => if value.isValidChar then some (.ofNat value, l) else none
  | digits + 1, value, c :: rest =>
    match hexDigit? c with
    | some d => codePoint? digits (16 * value + d) rest
    | none => none
  | _ + 1, _, [] => none

def escape? : List Char → Option (Char × List Char)
  | 'b' :: rest => some ('\x08', rest)
  | 'f' :: rest => some ('\x0c', rest)
  | 'n' :: rest => some ('\n', rest)
  | 'r' :: rest => some ('\r', rest)
  | 't' :: rest => some ('\t', rest)
  | '"' :: rest => some ('"', rest)
  | '\\' :: rest => some ('\\', rest)
  | 'u' :: rest => codePoint? 4 0 rest
  | 'U' :: rest => codePoint? 8 0 rest
  | _ => none

def basic? : (fuel : Nat) → (taken : List Char) → List Char → Option (String × List Char)
  | 0, _, _ => none
  | fuel + 1, taken, l =>
    match l with
    | '"' :: rest => some (String.ofList taken.reverse, rest)
    | '\\' :: rest =>
      match escape? rest with
      | some (c, rest) => basic? fuel (c :: taken) rest
      | none => none
    | c :: rest => if isPlain c then basic? fuel (c :: taken) rest else none
    | [] => none

def literal? (l : List Char) : Option (String × List Char) :=
  match l.span fun c => isPlain c && c != '\'' with
  | (text, '\'' :: rest) => some (String.ofList text, rest)
  | _ => none

/-- The end of a text over several lines, from its first quote: of at most five quotes in a row the
last three end it. -/
def closing? (quote : Char) (l : List Char) : Option (List Char × List Char) :=
  match l with
  | a :: b :: c :: rest =>
    if a = quote ∧ b = quote ∧ c = quote then
      match rest with
      | d :: e :: more =>
        if d = quote ∧ e = quote then some ([quote, quote], more)
        else if d = quote then some ([quote], e :: more)
        else some ([], rest)
      | [d] => if d = quote then some ([quote], []) else some ([], rest)
      | [] => some ([], [])
    else none
  | _ => none

/-- A line end that a backslash and blanks come before leaves out all blanks and line ends that
follow. -/
def joinedLine? (l : List Char) : Option (List Char) := (lineEnd? (skipBlanks l)).map skipLines

def multiline? (quote : Char) (escapes : Bool) : (fuel : Nat) → (taken : List Char) → List Char →
    Option (String × List Char)
  | 0, _, _ => none
  | fuel + 1, taken, l =>
    match closing? quote l with
    | some (extra, rest) => some (String.ofList (extra ++ taken).reverse, rest)
    | none =>
      match l with
      | [] => none
      | '\n' :: rest => multiline? quote escapes fuel ('\n' :: taken) rest
      | '\r' :: '\n' :: rest => multiline? quote escapes fuel ('\n' :: taken) rest
      | c :: rest =>
        if escapes && c == '\\' then
          match joinedLine? rest with
          | some rest => multiline? quote escapes fuel taken rest
          | none =>
            match escape? rest with
            | some (c, rest) => multiline? quote escapes fuel (c :: taken) rest
            | none => none
        else if isPlain c then multiline? quote escapes fuel (c :: taken) rest
        else none

def skipFirstLineEnd (l : List Char) : List Char := (lineEnd? l).getD l

def text? : List Char → Option (String × List Char)
  | '"' :: '"' :: '"' :: rest => multiline? '"' true (rest.length + 1) [] (skipFirstLineEnd rest)
  | '\'' :: '\'' :: '\'' :: rest =>
    multiline? '\'' false (rest.length + 1) [] (skipFirstLineEnd rest)
  | '"' :: rest => basic? (rest.length + 1) [] rest
  | '\'' :: rest => literal? rest
  | _ => none

end Linewatch.Toml
