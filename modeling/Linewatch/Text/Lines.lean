namespace Linewatch.Text

def addToPieces (c : Char) : List (List Char) → List (List Char)
  | [] => [[c]]
  | piece :: pieces => if c = '\n' then [c] :: piece :: pieces else (c :: piece) :: pieces

def pieces (text : List Char) : List (List Char) := text.foldr addToPieces []

/-- A piece without the newline at its end and without a carriage return right before that. -/
def lineOfPiece (piece : List Char) : List Char :=
  match piece.reverse with
  | '\n' :: '\r' :: rest => rest.reverse
  | '\n' :: rest => rest.reverse
  | _ => piece

/-- The lines of a text. A newline at the very end begins no further line, and a carriage return
without a newline after it belongs to its line. -/
def lines (text : List Char) : List (List Char) := (pieces text).map lineOfPiece

end Linewatch.Text
