import Linewatch.Pattern.CharClass
import Linewatch.Unicode.Category
import Linewatch.Unicode.Script
import Linewatch.Unicode.Binary
import Linewatch.Unicode.Age
import Linewatch.Unicode.Breaks

namespace Linewatch.CharClass

/-- A name without a leading "is", without blanks, low lines and hyphens, and in lower case. What is
not ASCII is left out. The name "isc" keeps its "is", for the letter alone would name another
property. -/
def normalName (name : List Char) : String :=
  let rest := match name with
    | i :: s :: rest => if i.toLower = 'i' ∧ s.toLower = 's' then rest else name
    | _ => name
  let plain := (rest.filter kept).map Char.toLower
  String.ofList (if plain = ['c'] ∧ 2 ≤ name.length ∧ rest ≠ name then ['i', 's', 'c'] else plain)
where
  kept (c : Char) : Bool := c.toNat < 128 && c != ' ' && c != '_' && c != '-'

def assigned : CharClass :=
  .compl ((Unicode.categoryTable? "cn").elim .empty .table)

def ofCategory? (name : String) : Option CharClass :=
  match name with
  | "any" => some .any
  | "assigned" => some .assigned
  | "ascii" => some (.range '\x00' '\x7f')
  | _ => (Unicode.categoryTable? name).map .table

/-- The class that a single name stands for: a property that characters have or have not, a general
category or a script. The short names of the categories Cf, Sc and Lc come before the properties of
the same short names. -/
def ofProperty? (name : List Char) : Option CharClass :=
  let name := normalName name
  ((Unicode.binaryTable? name).map .table).or <|
    (ofCategory? name).or ((Unicode.scriptTable? name).map .table)

def ofPropertyValue? (property value : List Char) : Option CharClass :=
  let value := normalName value
  match normalName property with
  | "gc" | "generalcategory" => ofCategory? value
  | "sc" | "script" => (Unicode.scriptTable? value).map .table
  | "scx" | "scriptextensions" =>
    (Unicode.scriptExtensionTables? value).map fun (own, guests) =>
      .union (.table own) (.table guests)
  | "age" => (Unicode.ageTable? value).map .table
  | "gcb" | "graphemeclusterbreak" => (Unicode.graphemeBreakTable? value).map .table
  | "wb" | "wordbreak" => (Unicode.wordBreakTable? value).map .table
  | "sb" | "sentencebreak" => (Unicode.sentenceBreakTable? value).map .table
  | _ => none

def digit : CharClass := (Unicode.categoryTable? "nd").elim .empty .table

end Linewatch.CharClass
