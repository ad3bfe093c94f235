import Linewatch.Data.Codec
import Linewatch.Data.Toml.Reader
import Linewatch.Text.Utf8

namespace Linewatch.Settings

/-- The settings that a text describes, with no reference to rules in them that could never hold. -/
def ofToml (text : List Char) : Except Fault Settings :=
  match (Toml.read? text).bind (ofDatum? .toml) with
  | none => .error .toml
  | some s =>
    match s.policy.validate with
    | .ok () => .ok s
    | .error fault => .error (.reference fault)

/-- The settings in a file with the given content. Without a file all settings have their
defaults. -/
def load : Option (List UInt8) → Except Fault Settings
  | none => .ok {}
  | some bytes =>
    match Utf8.decode? bytes with
    | some text => ofToml text
    | none => .error .io

end Linewatch.Settings
