import Credentials.CommandLine.Run

/-!
# The program

The one module that touches the machine: it looks at the files and variables that a command line
names, runs the command line on what it found, and shows the outcome.
-/

open Credentials CommandLine

/-- What is found at a path of this machine. -/
def probe (path : String) : IO Found := do
  try
    return .file (← IO.FS.readBinFile path)
  catch
    | .noFileOrDirectory _ _ _ => return .missing
    | .invalidArgument _ _ _ => return .malformed
    | _ => return if ← isFolder then .directory else .notADirectory
where
  /-- Whether a directory stands at the path. -/
  isFolder : IO Bool := do
    try
      discard <| IO.FS.realPath path
      return true
    catch _ => return false

/-- What is seen of this machine by a command line. -/
def thisHost (words : List String) : IO Host := do
  let (paths, names) := lookups words
  let files ← paths.mapM fun path => return (path, ← probe path)
  let environment ← names.filterMapM fun name => return (← IO.getEnv name).map ((name, ·))
  return ⟨fun path => (files.lookup path).getD .missing, environment⟩

/-- Runs a command line on this machine. -/
def main (words : List String) : IO UInt32 := do
  let outcome := run (← thisHost words) words
  IO.print outcome.stdout
  IO.eprint outcome.stderr
  if let some e := outcome.escaped then IO.eprintln (e.message.getD "")
  return outcome.exitCode.toUInt32
