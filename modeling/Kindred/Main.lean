import Kindred.Command.Run

/-!
# The program

Reads the files that the command line names, runs the command, and writes what it comes to.
-/

namespace Kindred

/-- What is found under a path of the file system. -/
def readPath (path : Text) : IO FileContent := do
  try
    return .ofBytes (← IO.FS.readBinFile (String.ofList path))
  catch
    | .noFileOrDirectory .. => return .missing
    | error => return .unreadable (toString error).toList

/-- The paths of the files that a command line needs. -/
def neededPaths (data : Option Text) (arguments : List Text) : List Text :=
  match CommandLine.read data arguments with
  | .ok (.run command _ _) => command.paths
  | _ => []

end Kindred

open Kindred in
/-- Runs the program. -/
def main (arguments : List String) : IO UInt32 := do
  let arguments := arguments.map String.toList
  let data := (← IO.getEnv "KINSHIP_DATA").map String.toList
  let files ← (neededPaths data arguments).mapM fun path => return (path, ← readPath path)
  let environment : Environment :=
    ⟨fun path => (files.lookup path).getD .missing, data, .builtIn⟩
  let result := CommandLine.runArguments environment arguments
  IO.print (String.ofList result.stdout)
  for text in result.stderr do
    IO.eprintln (String.ofList text)
  return UInt32.ofNat result.exit
