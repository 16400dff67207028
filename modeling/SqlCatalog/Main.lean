-- SUMMARY: The command-line program.
import SqlCatalog.Command.Answer

/-!
# The program

The command line on the real file system.
-/

namespace SqlCatalog

/-- A result that may fail for any reason. -/
def attempt {α : Type} (action : IO α) : IO (Option α) := do
  try return some (← action) catch _ => return none

def fileSystem : Disk IO where
  currentDirectory := do return (← IO.currentDir).toString
  read path := attempt (IO.FS.readFile path)
  kind? path := do
    let path := System.mkFilePath [path]
    if ← path.isDir then return some .directory
    else if ← path.pathExists then return some .file
    else return none
  names path := do
    let entries ← attempt (System.mkFilePath [path]).readDir
    return (entries.getD #[]).toList.map fun entry => entry.fileName

end SqlCatalog

open SqlCatalog in
def main (args : List String) : IO UInt32 := do
  let environment ← IO.getEnv Command.configVariable
  if Command.Request.ofArguments environment args = .misuse then
    IO.eprint (Command.ofLines (Command.usage none))
  let outcome ← Command.answer fileSystem environment args
  for diagnostic in outcome.diagnostics do
    for line in diagnostic.lines do
      IO.eprintln line
  IO.print outcome.output
  return outcome.exit.toUInt32
