/-
The program: arguments and files from the system, outputs and status to it.
-/
import SchemaTypes.CommandLine.Command

namespace SchemaTypes.CommandLine

/-- An error of the system in its own words, with its number. -/
def systemWords (code : UInt32) (details : String) : String :=
  details ++ " (os error " ++ toString code ++ ")"

/-- Why reading a file failed. -/
def fileFault : IO.Error → FileFault
  | .noFileOrDirectory .. => .notFound
  | .permissionDenied .. => .permissionDenied
  | .inappropriateType _ code details => .other (systemWords code details)
  | .invalidArgument _ code details => .other (systemWords code details)
  | .otherError code details => .other (systemWords code details)
  | e => .other (toString e)

/-- The text of a file. -/
def readFile (path : String) : IO (Except FileFault String) := do
  match ← (IO.FS.readBinFile path).toBaseIO with
  | .error e => pure (.error (fileFault e))
  | .ok bytes =>
    match String.fromUTF8? bytes with
    | some text => pure (.ok text)
    | none => pure (.error .notUtf8)

end SchemaTypes.CommandLine

open SchemaTypes CommandLine in
/-- The program's entry. -/
def main (args : List String) : IO UInt32 := do
  let file : Except FileFault String ← match neededFile? args with
    | some path => readFile path
    | none => pure (.error .notFound)
  let outcome := CommandLine.run args fun _ => file
  IO.print outcome.stdout
  IO.eprint outcome.stderr
  pure outcome.status.toUInt32
