import Linewatch.Data.Datum
import Linewatch.Data.Json.Token

namespace Linewatch.Json

inductive Frame where
  | list (items : List Datum)
  /-- A table also keeps the name of the member that comes next, and whether all names so far are
  made of characters. -/
  | table (sound : Bool) (members : List (String × Datum)) (name : String)

inductive Stage where
  | value
  /-- A value, or the end of the list that has just been opened. -/
  | firstItem
  | name
  /-- A name, or the end of the table that has just been opened. -/
  | firstName
  | colon
  /-- What goes on with or ends the innermost list or table, after a value in it. -/
  | done (d : Datum)

abbrev Machine := Stage × List Frame

def closeTable (sound : Bool) (members : List (String × Datum)) : Datum :=
  if sound then .table false members.reverse else .garbled

def beginValue (fs : List Frame) : Token → Option Machine
  | .openList => some (.firstItem, .list [] :: fs)
  | .openTable => some (.firstName, .table true [] "" :: fs)
  | .null => some (.done .null, fs)
  | .flag b => some (.done (.flag b), fs)
  | .whole n => some (.done (.whole n), fs)
  | .real => some (.done .real, fs)
  | .text s => some (.done (.text s), fs)
  | .garbled => some (.done .garbled, fs)
  | _ => none

def takeName : List Frame → Token → Option Machine
  | .table sound members _ :: fs, .text s => some (.colon, .table sound members s :: fs)
  | .table _ members _ :: fs, .garbled => some (.colon, .table false members "" :: fs)
  | _, _ => none

def afterValue (d : Datum) : List Frame → Token → Option Machine
  | .list items :: fs, .comma => some (.value, .list (d :: items) :: fs)
  | .list items :: fs, .closeList => some (.done (.list (d :: items).reverse), fs)
  | .table sound members name :: fs, .comma =>
    some (.name, .table sound ((name, d) :: members) "" :: fs)
  | .table sound members name :: fs, .closeTable =>
    some (.done (closeTable sound ((name, d) :: members)), fs)
  | _, _ => none

def step : Machine → Token → Option Machine
  | (.value, fs), t => beginValue fs t
  | (.firstItem, .list _ :: fs), .closeList => some (.done (.list []), fs)
  | (.firstItem, fs), t => beginValue fs t
  | (.firstName, .table .. :: fs), .closeTable => some (.done (.table false []), fs)
  | (.firstName, fs), t => takeName fs t
  | (.name, fs), t => takeName fs t
  | (.colon, fs), .colon => some (.value, fs)
  | (.colon, _), _ => none
  | (.done d, fs), t => afterValue d fs t

def run (m : Machine) : List Token → Option Machine
  | [] => some m
  | t :: ts =>
    match step m t with
    | some m => run m ts
    | none => none

def read? (text : List Char) : Option Datum :=
  match tokens? text with
  | none => none
  | some ts =>
    match run (.value, []) ts with
    | some (.done d, []) => some d
    | _ => none

end Linewatch.Json
