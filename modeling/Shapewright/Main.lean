import Shapewright.Command.Run
import Shapewright.Log

/-!
# The program

Reads the files that the arguments lead to, runs the command on them, and writes what it changed.
-/

set_option autoImplicit false

namespace Shapewright

/-- The names in a directory; what cannot be listed has none. -/
def namesIn (path : String) : IO (Option (List String)) := do
  match ← (do (← IO.FS.realPath path).readDir : IO _).toBaseIO with
  | .ok entries => return some (entries.toList.map (·.fileName))
  | .error _ => return none

/-- The text of a file, if it can be read. -/
def textAt (path : String) : IO (Option String) := do
  return (← (IO.FS.readFile path).toBaseIO).toOption

/-- The texts at and below a path. The first argument bounds how deep directories are nested. -/
def snapshot : Nat → String → IO (List (String × String))
  | 0, _ => return []
  | depth + 1, path => do
    match ← namesIn path with
    | some names =>
      let below ← names.mapM fun name => snapshot depth (Files.join path name)
      return (path ++ "/", "") :: below.flatten
    | none => return (← textAt path).toList.map (path, ·)

/-- The files that a path leads to or goes through. -/
def filesAt (path : String) : IO (List (String × String)) := do
  let through ← ((Files.passed path).dropLast.filter (· != "")).mapM fun p => do
    match ← namesIn p with
    | some _ => return [(p ++ "/", "")]
    | none => return (← textAt p).toList.map (p, ·)
  return through.flatten ++ (← snapshot 64 path)

/-- Makes a change. -/
def putEntry (path : String) : Entry → IO Unit
  | .directory => IO.FS.createDirAll path
  | .file text => IO.FS.writeFile path text

end Shapewright

open Shapewright in
/-- Runs the command that the arguments ask for. -/
def main (args : List String) : IO UInt32 := do
  let texts ← ((Command.paths args).filter (· != "")).mapM filesAt
  let before := Files.ofList texts.flatten
  let s := Command.run before args
  (s.files.changedFrom before).forM fun (path, e) => putEntry path e
  (← IO.getStdout).putStr (s.out ++ s.printed)
  let stderr ← IO.getStderr
  s.warnings.forM fun w => stderr.putStr (Log.line .warning w.message [])
  match s.failure with
  | some f => do
    stderr.putStr ("*** " ++ f.message ++ "\n")
    return 1
  | none => return 0
