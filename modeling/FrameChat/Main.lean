import FrameChat.CommandLine

/-!
# The program

Looks up what the machine has at the paths that the command line names, does
what the command line asks for, and reports how that ended.  Listening,
decoding fonts and pictures and encoding frames belong to whoever embeds the
service; alone, the program tells whether its start goes well.
-/

namespace FrameChat.CommandLine

/-- What is at a place. -/
def lookUp (place : Startup.Place) : IO (Option Startup.Node) := do
  try
    let content ← IO.FS.readBinFile ("/" ++ "/".intercalate place)
    return some (.file content.toList)
  catch
    | .noFileOrDirectory .. => return none
    | _ => return some .directory

/-- The paths that a configuration names. -/
def pathsOf (config : Startup.Config) : List String :=
  config.archive :: [config.assets.font, config.assets.table, config.assets.atlas].filterMap id

/-- The part of the machine that a command line asks for. -/
def machineFor (arguments : List String) : IO Startup.Machine := do
  let paths :=
    match read arguments with
    | .ok arguments => pathsOf arguments.config
    | .error _ => []
  let here := Startup.FileTree.places [] (← IO.currentDir).toString
  let mut files : Startup.FileTree := ⟨here.getLastD [], []⟩
  for place in here ++ paths.flatMap fun path =>
      Startup.FileTree.places (files.origin path) path do
    if let some node ← lookUp place then
      files := files.insert place node
  return Startup.Machine.bare files

end FrameChat.CommandLine

/-- Run the program. -/
def main (arguments : List String) : IO UInt32 := do
  match FrameChat.CommandLine.run (← FrameChat.CommandLine.machineFor arguments) arguments with
  | .ok _ => return 0
  | .error ending =>
      IO.print ending.output
      IO.eprint ending.errors
      return ending.status.toUInt32
