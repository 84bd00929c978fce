import LiterateLinks.Command.Run

/-!
# The command

Runs the command line on the files of the machine: prints the page, tells events and faults on the
standard error, and ends with the exit status of the run.
-/

namespace LiterateLinks

/-- The reason why the machine refuses to read or write a file. -/
def FileFault.ofError : IO.Error → FileFault
  | .noFileOrDirectory .. => .notFound
  | .inappropriateType _ 21 _ => .isDirectory
  | .inappropriateType _ 20 _ => .notDirectory
  | error => .other (toString error)

/-- Does something that the machine may refuse. -/
def attempt {α : Type} (action : IO α) : IO (Except FileFault α) := do
  try return .ok (← action)
  catch error => return .error (.ofError error)

/-- The files of the machine. -/
def FileSystem.machine : FileSystem IO where
  workingDirectory := return Path.names (toString (← IO.currentDir))
  read path := attempt (IO.FS.readBinFile path)
  write path bytes := attempt (IO.FS.writeBinFile path bytes)
  isFile path := return (← attempt (IO.FS.readBinFile path)).isOk
  isThere path := return (← attempt (IO.FS.Handle.mk path .read)).isOk

/-- A detail of an event in words. -/
def Event.Detail.render : Event.Detail → String
  | .text value => value
  | .count value => toString value

/-- An event in words. -/
def Event.render (event : Event) : String :=
  event.level.name ++ " " ++ event.message ++
    String.join (event.details.map fun (name, detail) => " " ++ name ++ "=" ++ detail.render)

end LiterateLinks

open LiterateLinks in
/-- Runs the command line. -/
def main (arguments : List String) : IO UInt32 := do
  let outcome ← Command.run FileSystem.machine arguments
  for event in outcome.record.log do
    IO.eprintln event.render
  IO.print outcome.record.stdout
  match outcome.fault with
  | some fault => IO.eprintln ("Error: " ++ fault.message)
  | none => if outcome.code = 2 then IO.eprint Command.helpText
  return outcome.code.toUInt32
