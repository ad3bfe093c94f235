import Linewatch.Data.Datum
import Linewatch.Data.Toml.Text

namespace Linewatch.Toml

def moreDigits (isDigit : Char → Bool) : (taken : List Char) → List Char →
    Option (List Char × List Char)
  | taken, '_' :: d :: rest => if isDigit d then moreDigits isDigit (d :: taken) rest else none
  | _, ['_'] => none
  | taken, c :: rest =>
    if isDigit c then moreDigits isDigit (c :: taken) rest else some (taken.reverse, c :: rest)
  | taken, [] => some (taken.reverse, [])

def digits? (isDigit : Char → Bool) : List Char → Option (List Char × List Char)
  | c :: rest => if isDigit c then moreDigits isDigit [c] rest else none
  | [] => none

def valueOf (base : Nat) (ds : List Char) : Nat :=
  ds.foldl (fun n c => base * n + (hexDigit? c).getD 0) 0

def wholeDigits? : List Char → Option (List Char × List Char)
  | '0' :: rest => some (['0'], rest)
  | l => digits? Char.isDigit l

/-- Whether `digits * 10 ^ exponent` is too large for a number of 64 bits in binary floating point,
which holds what is below `2 ^ 1024 - 2 ^ 970`. -/
def isTooLarge (ds : List Char) (exponent : Int) : Bool :=
  let n := valueOf 10 ds
  let length := (Nat.toDigits 10 n).length + exponent
  if n = 0 then false
  else if length < 300 then false
  else if 400 < length then true
  else
    let bound := Nat.pow 2 1024 - Nat.pow 2 970
    if 0 ≤ exponent then bound ≤ n * Nat.pow 10 exponent.toNat
    else bound * Nat.pow 10 (-exponent).toNat ≤ n

def fraction? : List Char → Option (Option (List Char) × List Char)
  | '.' :: rest => (digits? Char.isDigit rest).map fun (ds, rest) => (some ds, rest)
  | rest => some (none, rest)

def exponent? : List Char → Option (Option Int × List Char)
  | c :: rest =>
    if c = 'e' ∨ c = 'E' then
      match rest with
      | '-' :: rest =>
        (digits? Char.isDigit rest).map fun (ds, rest) => (some (-valueOf 10 ds), rest)
      | '+' :: rest => (digits? Char.isDigit rest).map fun (ds, rest) => (some (valueOf 10 ds), rest)
      | rest => (digits? Char.isDigit rest).map fun (ds, rest) => (some (valueOf 10 ds), rest)
    else some (none, c :: rest)
  | [] => some (none, [])

def whole? (n : Int) : Option Datum :=
  if -Int.pow 2 63 ≤ n ∧ n < Int.pow 2 63 then some (.whole n) else none

def decimal? (negative : Bool) (l : List Char) : Option (Datum × List Char) :=
  match wholeDigits? l with
  | none => none
  | some (ds, rest) =>
    match fraction? rest with
    | none => none
    | some (fraction, rest) =>
      match exponent? rest with
      | none => none
      | some (exponent, rest) =>
        if fraction.isNone && exponent.isNone then
          let n : Int := valueOf 10 ds
          (whole? (if negative then -n else n)).map (·, rest)
        else
          let decimals := fraction.getD []
          if !negative && isTooLarge (ds ++ decimals) (exponent.getD 0 - decimals.length) then none
          else some (.real, rest)

def based? (base : Nat) (l : List Char) : Option (Datum × List Char) :=
  match digits? (fun c => (hexDigit? c).any (· < base)) l with
  | some (ds, rest) => (whole? (valueOf base ds)).map (·, rest)
  | none => none

def signed? (negative : Bool) : List Char → Option (Datum × List Char)
  | 'i' :: 'n' :: 'f' :: rest => some (.real, rest)
  | 'n' :: 'a' :: 'n' :: rest => some (.real, rest)
  | l => decimal? negative l

def fixed? (count least most : Nat) (l : List Char) : Option (Nat × List Char) :=
  let ds := l.take count
  let n := valueOf 10 ds
  if ds.length = count ∧ ds.all Char.isDigit ∧ least ≤ n ∧ n ≤ most then some (n, l.drop count)
  else none

def char? (c : Char) : List Char → Option (List Char)
  | d :: rest => if c = d then some rest else none
  | [] => none

def daysIn (year month : Nat) : Nat :=
  let isLeap := year % 4 = 0 ∧ (year % 100 ≠ 0 ∨ year % 400 = 0)
  if month = 2 then (if isLeap then 29 else 28)
  else if month = 4 ∨ month = 6 ∨ month = 9 ∨ month = 11 then 30
  else 31

def date? (l : List Char) : Option (List Char) := do
  let (year, l) ← fixed? 4 0 9999 l
  let (month, l) ← fixed? 2 1 12 (← char? '-' l)
  let (_, l) ← fixed? 2 1 (daysIn year month) (← char? '-' l)
  return l

def secondFraction? : List Char → Option (List Char)
  | '.' :: rest =>
    match rest with
    | c :: _ => if c.isDigit then some (rest.dropWhile Char.isDigit) else none
    | [] => none
  | rest => some rest

def time? (l : List Char) : Option (List Char) := do
  let (_, l) ← fixed? 2 0 23 l
  let (_, l) ← fixed? 2 0 59 (← char? ':' l)
  let (_, l) ← fixed? 2 0 60 (← char? ':' l)
  secondFraction? l

def offset? : List Char → Option (List Char)
  | 'Z' :: rest => some rest
  | 'z' :: rest => some rest
  | c :: rest =>
    if c = '+' ∨ c = '-' then do
      let (_, l) ← fixed? 2 0 23 rest
      let (_, l) ← fixed? 2 0 59 (← char? ':' l)
      return l
    else some (c :: rest)
  | [] => some []

def isTime (l : List Char) : Bool :=
  match fixed? 2 0 23 l with
  | some (_, ':' :: _) => true
  | _ => false

def afterDate? : List Char → Option (List Char)
  | c :: rest =>
    if (c = 'T' ∨ c = 't' ∨ c = ' ') ∧ isTime rest then (time? rest).bind offset?
    else some (c :: rest)
  | [] => some []

def moment? (l : List Char) : Option (List Char) :=
  if isTime l then time? l else (date? l).bind afterDate?

/-- A moment reads as a table with one member, its text. -/
def ofMoment (l rest : List Char) : Datum :=
  .table false
    [("$__toml_private_datetime", .text (String.ofList (l.take (l.length - rest.length))))]

def number? (l : List Char) : Option (Datum × List Char) :=
  match moment? l with
  | some rest => some (ofMoment l rest, rest)
  | none =>
    match l with
    | '+' :: rest => signed? false rest
    | '-' :: rest => signed? true rest
    | '0' :: 'x' :: rest => based? 16 rest
    | '0' :: 'o' :: rest => based? 8 rest
    | '0' :: 'b' :: rest => based? 2 rest
    | l => signed? false l

end Linewatch.Toml
