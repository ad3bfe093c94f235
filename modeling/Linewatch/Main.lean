import Linewatch.Command.Run
import Std.Time.Format

namespace Linewatch.Main

partial def loadEntries (p : Path) (t : Tree) (entries : Array IO.FS.DirEntry) : IO Tree :=
  entries.foldlM (fun t entry => do
    let q := p ++ [entry.fileName]
    if (← entry.path.symlinkMetadata).type == .dir then
      let t := t.addDirectory q
      try loadEntries q t (← entry.path.readDir) catch _ => return t
    else
      try return t.set q (.file (← IO.FS.readBinFile entry.path).toList)
      catch _ => return t.set q .unreadable) t

def loadInput (args : List String) : IO (List UInt8) := do
  match Invocation.ofArguments args with
  | .run (.scan o) =>
    if o.paths.contains "-" then return (← (← IO.getStdin).readBinToEnd).toList else return []
  | _ => return []

def hexDigits (b : UInt8) : List Char :=
  [Nat.digitChar (b.toNat / 16), Nat.digitChar (b.toNat % 16)]

def identifier (bytes : List UInt8) : String :=
  let marked := (bytes.zipIdx).map fun (b, i) =>
    if i = 6 then b % 16 + 64 else if i = 8 then b % 64 + 128 else b
  let digits := marked.flatMap hexDigits
  let group (first count : Nat) := String.ofList ((digits.drop first).take count)
  "-".intercalate [group 0 8, group 8 4, group 12 4, group 16 4, group 20 12]

def newStamp : IO Stamp := do
  let moment := Std.Time.DateTime.ofTimestampWithZone (← Std.Time.Timestamp.now) .UTC
  return ⟨moment.format "uuuu-MM-dd'T'HH:mm:ss'Z'", identifier (← IO.getRandomBytes 16).toList⟩

def runOnce (args : List String) : IO UInt32 := do
  let directory ← IO.currentDir
  let home := (Path.parts directory.toString).filter (· != "")
  let tree ← loadEntries home (.ofFiles [] home) (← directory.readDir)
  let world : World := ⟨tree, ← loadInput args, .frozen, ← newStamp⟩
  let outcome := world.run args
  for message in outcome.stderr do IO.eprintln message
  try
    if let some (p, text) := outcome.written then IO.FS.writeFile ("/" ++ p.toText) text
    IO.print outcome.stdout
    return .ofNat outcome.exitCode
  catch fault =>
    IO.eprintln s!"Error: {Fault.io.message}{fault}"
    return .ofNat Fault.io.exitCode

end Linewatch.Main

def main (args : List String) : IO UInt32 := Linewatch.Main.runOnce args
