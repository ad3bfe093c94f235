import Linewatch.Pattern.Reader
import Linewatch.Pattern.Meaning
import Linewatch.Pattern.Footprint

namespace Linewatch

/-- The pattern that a regular expression stands for: none if the text is no regular expression, if
it is nested too deeply, or if the pattern is over the limit on its size. -/
def Pattern.ofText? (text : List Char) : Option Pattern :=
  match Written.ofText? text with
  | none => none
  | some w =>
    match w.meaning .standard with
    | some (p, _) => if p.footprint ≤ sizeLimit then some p else none
    | none => none

end Linewatch
