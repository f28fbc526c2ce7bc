import Plateau.Cli.Reach
import Std.Time.Format

namespace Plateau.Main

def environment : IO (List (String × String)) := do
  match ← (IO.FS.readFile "/proc/self/environ").toBaseIO with
  | .error _ => return []
  | .ok text =>
    return (Text.pieces (· == '\x00') text.toList).filterMap fun entry =>
      match entry.dropWhile (· != '=') with
      | [] => none
      | _ :: value => some (String.ofList (entry.takeWhile (· != '=')), String.ofList value)

def look (place : Place) (files : FileTree) : IO FileTree := do
  match ← (IO.FS.readBinFile (Path.ofPlace place).text).toBaseIO with
  | .ok octets => return files.addFile place octets.toList
  | .error (.inappropriateType none _ _) => return files.addDirectory place
  | .error (.permissionDenied ..) => return files.alter (fun _ => .file [] false) place
  | .error _ => return files

def lookAlong (place : Place) (files : FileTree) : List String → IO FileTree
  | [] => return files
  | name :: rest => do
    let next := Path.step place name
    lookAlong next (← look next files) rest

partial def readAll (input : IO.FS.Stream) (octets : ByteArray) : IO ByteArray := do
  let more ← input.read 65536
  if more.isEmpty then return octets else readAll input (octets ++ more)

def present : IO String := do
  let now ← Std.Time.Timestamp.now
  return (Std.Time.DateTime.ofTimestampWithZone now .UTC).toISO8601String

/-- What a call sees.  Its clock stands still. -/
def surroundings (arguments : List String) : IO Cli.Surroundings := do
  let directory := (Path.ofText (toString (← IO.currentDir))).names
  let bare : Host := { env := ← environment, directory }
  let (paths, readsInput) := Cli.reach bare arguments
  let files ← paths.foldlM (fun files path => do lookAlong [] files (bare.route path))
    (FileTree.empty.addDirectory directory)
  let input ← if readsInput then readAll (← IO.getStdin) .empty else pure .empty
  return {
    host := { bare with files }
    input := input.toList
    clock := .every 0
    stamp := ← present }

def answer (arguments : List String) : IO UInt32 := do
  let reply := Cli.call (← surroundings arguments) arguments
  let output ← IO.getStdout
  output.putStr (String.ofList reply.output)
  output.flush
  IO.eprint (String.ofList reply.errors)
  match reply.crash with
  | some crash => IO.eprintln crash.message
  | none => pure ()
  return reply.exitCode.toUInt32

end Plateau.Main

def main (arguments : List String) : IO UInt32 :=
  Plateau.Main.answer arguments
