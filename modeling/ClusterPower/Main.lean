import ClusterPower.CommandLine.Session

/-!
The tool as a program. It reads the files that the command line names, holds the
session and writes what came of it. There is no secure transport here, so requests
find nobody, and only simulated sessions reach their targets.
-/

namespace ClusterPower.CommandLine

/-- The content of a file; none if it cannot be read. -/
def contentOf (path : String) : IO (Option Bytes) := do
  try
    return some (← IO.FS.readBinFile path).toList
  catch _ =>
    return none

def gather (arguments : List String) : IO Files := do
  match Invocation.read arguments with
  | .error _ => return fun _ => none
  | .ok invocation =>
    let contents ← invocation.paths.mapM fun path => return (path, ← contentOf path)
    return fun path => (contents.lookup path).join

end ClusterPower.CommandLine

open ClusterPower CommandLine in
def main (arguments : List String) : IO UInt32 := do
  let files ← gather arguments
  let (exit, _) := (session files arguments).run Conversation.nowhere ()
  IO.print exit.output
  IO.eprint exit.complaint
  return exit.code.toUInt32
