import LineShell.CommandLine
import LineShell.Host

/-!
The program. It runs on a copy of the directory that it is started in, so that nothing outside
memory is changed.
-/

namespace LineShell

def isScript (content : Bytes) : Bool := "#!".toUTF8.toList.isPrefixOf content

/-- How many directories deep files are copied. -/
def copyDepth : Nat := 16

def copyFiles (below : Text) : Nat → IO.FS.DirEntry → IO (List (Text × Host.Node))
  | 0, _ => pure []
  | n + 1, entry => do
    let here := below ++ entry.fileName.toList
    if ← entry.path.isDir then
      let entries ← entry.path.readDir
      let files ← entries.toList.mapM (copyFiles (here ++ ['/']) n)
      pure ((here, .directory) :: files.flatten)
    else
      try
        let content := (← IO.FS.readBinFile entry.path).toList
        pure [(here, .file content (isScript content))]
      catch _ => pure []

def workingHost : IO Host := do
  let entries ← (← IO.currentDir).readDir
  let files ← entries.toList.mapM (copyFiles [] copyDepth)
  pure (Host.withFiles ((← IO.getEnv "PATH").map String.toList) files.flatten)

def report (r : CommandLine.Result) : IO UInt32 := do
  let output ← IO.getStdout
  output.write r.output.toByteArray
  output.flush
  (← IO.getStderr).putStr (String.ofList r.errors)
  pure (UInt32.ofNat r.status)

end LineShell

open LineShell in
def main (args : List String) : IO UInt32 := do
  match CommandLine.parse (args.map String.toList) with
  | .error result => report result
  | .ok commandLine =>
    let terminal := (← IO.getEnv "TERM").map String.toList
    let input ← (← IO.getStdin).readBinToEnd
    let host ← workingHost
    report (commandLine.execute (fun _ => host.machine) terminal input.toList)
