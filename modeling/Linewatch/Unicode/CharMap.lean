import Linewatch.Unicode.CharTable

namespace Linewatch.Unicode

structure CharMap where
  entries : Array (Nat × List Char)

namespace CharMap

def search (m : CharMap) (n : Nat) : (steps lo hi : Nat) → List Char
  | 0, _, _ => []
  | steps + 1, lo, hi =>
    if hi ≤ lo then []
    else
      let mid := (lo + hi) / 2
      match m.entries[mid]? with
      | none => []
      | some (key, value) =>
        if n < key then m.search n steps lo mid
        else if key < n then m.search n steps (mid + 1) hi
        else value

def get (m : CharMap) (c : Char) : List Char :=
  m.search c.toNat (m.entries.size + 1) 0 m.entries.size

/-- The character `distance` away from code point `key`: an even number `2 d` stands for `d` upward
and an odd number `2 d - 1` for `d` downward. -/
def neighbour (key distance : Nat) : Char :=
  if distance % 2 = 0 then Char.ofNat (key + distance / 2)
  else Char.ofNat (key - (distance + 1) / 2)

def ofNumerals (key : Nat) : (entries : Nat) → List Nat → List (Nat × List Char)
  | entries + 1, gap :: count :: rest =>
    let key := key + gap
    (key, (rest.take count).map (neighbour key)) :: ofNumerals key entries (rest.drop count)
  | _, _ => []

def ofText (text : String) : CharMap :=
  let ns := numerals text
  ⟨(ofNumerals 0 ns.length ns).toArray⟩

end CharMap

end Linewatch.Unicode
