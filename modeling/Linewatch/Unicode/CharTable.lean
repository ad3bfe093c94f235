namespace Linewatch.Unicode

structure CharTable where
  ranges : Array (Nat × Nat)
deriving DecidableEq

namespace CharTable

def search (t : CharTable) (n : Nat) : (steps lo hi : Nat) → Bool
  | 0, _, _ => false
  | steps + 1, lo, hi =>
    if hi ≤ lo then false
    else
      let mid := (lo + hi) / 2
      match t.ranges[mid]? with
      | none => false
      | some (first, last) =>
        if n < first then t.search n steps lo mid
        else if last < n then t.search n steps (mid + 1) hi
        else true

def contains (t : CharTable) (c : Char) : Bool :=
  t.search c.toNat (t.ranges.size + 1) 0 t.ranges.size

/-- The ranges described by alternating gaps and lengths: each range begins `gap` code points after
the end of the one before and holds `extra + 1` code points. -/
def rangesOfGaps (next : Nat) : List Nat → List (Nat × Nat)
  | gap :: extra :: rest =>
    let first := next + gap
    (first, first + extra) :: rangesOfGaps (first + extra + 1) rest
  | _ => []

def ofGaps (gaps : List Nat) : CharTable := ⟨(rangesOfGaps 0 gaps).toArray⟩

end CharTable

/-- Numerals written one after the other in base 32. Every digit but the last of a numeral is a
lower-case letter, one of `WXYZ`, a hyphen or a low line, so that no separator is needed. Blanks and
line ends mean nothing. -/
def numerals (text : String) : List Nat :=
  (text.foldl digit (0, #[])).2.toList
where
  /-- Takes one more digit into the numeral `value`, which a final digit completes. -/
  digit : Nat × Array Nat → Char → Nat × Array Nat
    | (value, done), c =>
      let n := c.toNat
      if c = ' ' ∨ c = '\n' then (value, done)
      else if 'a' ≤ c ∧ c ≤ 'z' then (32 * value + (n - 97), done)
      else if 'W' ≤ c ∧ c ≤ 'Z' then (32 * value + (n - 61), done)
      else if c = '-' then (32 * value + 30, done)
      else if c = '_' then (32 * value + 31, done)
      else if '0' ≤ c ∧ c ≤ '9' then (0, done.push (32 * value + (n - 48)))
      else (0, done.push (32 * value + (n - 55)))

def CharTable.ofText (text : String) : CharTable := .ofGaps (numerals text)

/-- A property that gives every code point one of finitely many values, as runs of equal value that
follow one another from code point zero on. -/
structure RunTable where
  runs : Array (Nat × Nat)

namespace RunTable

def ofPairs (next : Nat) : List Nat → List (Nat × Nat)
  | extra :: value :: rest => (next, value) :: ofPairs (next + extra + 1) rest
  | _ => []

def ofText (text : String) : RunTable := ⟨(ofPairs 0 (numerals text)).toArray⟩

def table (t : RunTable) (keep : Nat → Bool) : CharTable :=
  ⟨(collect t.runs.toList #[]).map fun r => (r.1, r.2 - 1)⟩
where
  collect : List (Nat × Nat) → Array (Nat × Nat) → Array (Nat × Nat)
    | [], acc => acc
    | (first, value) :: rest, acc =>
      let next := match rest with
        | (n, _) :: _ => n
        | [] => 0x110000
      if keep value then
        match acc.back? with
        | some (start, stop) =>
          if stop = first then collect rest (acc.pop.push (start, next))
          else collect rest (acc.push (first, next))
        | none => collect rest (acc.push (first, next))
      else collect rest acc

end RunTable

end Linewatch.Unicode
