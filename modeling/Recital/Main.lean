import Recital.Startup.Launch

/-!
# The program

Starts the service with the command line, the environment and the working folder of the process, writes
the lines of its log and the error that ends the start.  The program itself opens no port, so every
address counts as taken.
-/

set_option autoImplicit false

namespace Recital

/-- The variables of the process that the start looks at. -/
def readEnvironment : IO Environment := do
  pure {
    config := ← IO.getEnv "ARMAN_CONFIG"
    host := ← IO.getEnv "ARMAN_HOST"
    port := ← IO.getEnv "ARMAN_PORT"
    database := ← IO.getEnv "ARMAN_DATABASE"
    logFilter := ← IO.getEnv "RUST_LOG" }

/-- The disk with what a path of the process leads to, if that can be read. -/
def Disk.withFound (disk : Disk) (path : String) : IO Disk := do
  let location := disk.resolve path
  if ← ((← IO.currentDir) / path).isDir then
    pure { disk with folders := disk.folders ++ [location] }
  else
    try
      let bytes ← IO.FS.readBinFile path
      pure (disk.write location (.bytes bytes.toList))
    catch _ => pure disk

/-- The surroundings of the process: of its disk what the start looks at. -/
def readSurroundings (arguments : List String) : IO Surroundings := do
  let here := Path.names (← IO.currentDir).toString
  let s : Surroundings := {
    arguments := arguments, environment := ← readEnvironment, disk := { here := here }
    isTaken := fun _ => true }
  match Arguments.read s.arguments s.environment with
  | .error _ => pure s
  | .ok given =>
    let s := { s with disk := ← s.disk.withFound given.config }
    match s.settings with
    | .error _ => pure s
    | .ok (_, g) =>
      let disk ← s.disk.withFound g.databasePath
      match DatabaseName.parse? g.databasePath with
      | none => pure { s with disk := disk }
      | some name => pure { s with disk := ← disk.withFound name.path }

end Recital

open Recital in
/-- Starts the service. -/
def main (arguments : List String) : IO UInt32 := do
  let launch := (← readSurroundings arguments).launch
  if launch.ending = .notice .version then IO.println "arman-cms 0.1.0"
  for line in launch.log do
    IO.println line.text
  match launch.ending.message? with
  | some message => IO.eprintln ("Error: " ++ message)
  | none => pure ()
  pure (UInt32.ofNat launch.ending.exitCode)
