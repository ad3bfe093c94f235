import Linewatch.Text.Lower

namespace Linewatch

abbrev Path := List String

namespace Path

def cut : List Char → List (List Char)
  | [] => [[]]
  | c :: rest =>
    if c = '/' then [] :: cut rest
    else match cut rest with
      | [] => [[c]]
      | part :: parts => (c :: part) :: parts

def parts (text : String) : List String := (cut text.toList).map String.ofList

def toText (p : Path) : String := "/".intercalate p

def joined (text : String) (below : Path) : String :=
  if text.toList.getLast? = some '/' then text ++ toText below else text ++ "/" ++ toText below

/-- The directories that lead to a path, the nearest first and the root last. -/
def ancestors (p : Path) : List Path := (List.range p.length).reverse.map fun n => p.take n

def name (p : Path) : String := p.getLast?.getD ""

def nameMayPrecede : List Char → List Char → Bool
  | [], _ => true
  | _ :: _, [] => false
  | c :: s, d :: t => decide (c < d) || (c == d && nameMayPrecede s t)

def mayPrecede : Path → Path → Bool
  | [], _ => true
  | _ :: _, [] => false
  | a :: p, b :: q => if a = b then mayPrecede p q else nameMayPrecede a.toList b.toList

def isHidden (p : Path) : Bool := p.name.toList.head? == some '.'

end Path

/-- What follows the last dot of a name. A name whose only dot is its first character has no
suffix. -/
def suffix? (name : String) : Option String :=
  let (suffix, before) := name.toList.reverse.span (· != '.')
  match before with
  | [] | ['.'] => none
  | _ => some (String.ofList suffix.reverse)

def hasScannedSuffix (name : String) : Bool :=
  match suffix? name with
  | some suffix => ["js", "txt"].contains (Text.lower suffix)
  | none => false

def nameAtEnd (text : String) : String :=
  (((Path.parts text).filter fun part => part != "" && part != ".").getLast?).getD ""

end Linewatch
