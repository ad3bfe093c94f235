import Linewatch.Data.Datum

namespace Linewatch

inductive Dialect where
  | json
  | toml
deriving DecidableEq

namespace Datum

def text? : Datum → Option String
  | .text s => some s
  | _ => none

def flag? : Datum → Option Bool
  | .flag b => some b
  | _ => none

def count? : Datum → Option Nat
  | .whole n => if 0 ≤ n ∧ n < Int.pow 2 64 then some n.toNat else none
  | _ => none

def listOf? (take : Datum → Option α) : Datum → Option (List α)
  | .list items => items.mapM take
  | _ => none

def nullable? (take : Datum → Option α) : Datum → Option (Option α)
  | .null => some none
  | d => (take d).map some

/-- A table whose names are not fixed. Of two members of one name the later counts. -/
def tableOf? (take : Datum → Option α) : Datum → Option (List (String × α))
  | .table _ members => members.mapM fun (name, d) => (take d).map (name, ·)
  | _ => none

def isNothing (dialect : Dialect) : Datum → Bool
  | .null => dialect == .json
  | .list [] | .table _ [] => dialect == .toml
  | _ => false

/-- One of several choices, by its name or by a table with that name and nothing beside it. Of a
table that is headed only the first member counts. -/
def choice? (dialect : Dialect) (ofName? : String → Option α) : Datum → Option α
  | .text s => ofName? s
  | .table headed ((name, d) :: rest) =>
    if (headed || rest.isEmpty) && d.isNothing dialect then ofName? name else none
  | _ => none

end Datum

/-- The known fields of a record. The fields of a record that is written as a list go by their
order. -/
structure Record where
  inOrder : Bool
  fields : List (String × Datum)

namespace Record

/-- Reads a record with the given fields, none of them twice. Members of a table that are no fields
are passed over. -/
def of? (dialect : Dialect) (names : List String) : Datum → Option Record
  | .table _ members =>
    let fields := members.filter fun m => names.contains m.1
    if (fields.map (·.1)).Nodup then some ⟨false, fields⟩ else none
  | .list items =>
    if dialect = .json ∧ names.length < items.length then none
    else some ⟨true, names.zip items⟩
  | _ => none

def get? (r : Record) (name : String) : Option Datum := r.fields.lookup name

def required? (r : Record) (name : String) (take : Datum → Option α) : Option α :=
  (r.get? name).bind take

def default? (r : Record) (name : String) (a : α) (take : Datum → Option α) : Option α :=
  match r.get? name with
  | some d => take d
  | none => some a

def nullable? (r : Record) (name : String) (take : Datum → Option α) : Option (Option α) :=
  match r.get? name with
  | some d => d.nullable? take
  | none => if r.inOrder then none else some none

end Record

end Linewatch
