import QueryDesk.CommandLine.Run

/-!
# The program

Takes a snapshot of the environment and of the files that a run may read, runs, and prints the
outcome.  The service itself is hosted by whoever embeds it: `serve` goes as far as the check of the
address.
-/

namespace QueryDesk.Program

open QueryDesk.CommandLine QueryDesk.Settings QueryDesk.Text

/-- The variables of an environment block, in which NUL ends each of them. -/
def readVariables (block : List Char) : List (String × String) :=
  (block.splitOn (Char.ofNat 0)).filterMap fun line =>
    match line.dropWhile (· != '=') with
    | _ :: value => some (String.ofList (line.takeWhile (· != '=')), String.ofList value)
    | [] => none

/-- The environment of this process. -/
def environment : IO Environment := do
  let block ← IO.FS.readBinFile "/proc/self/environ"
  return ⟨readVariables (Utf8.lossy block.toList).toList, none⟩

/-- What is found at a path. -/
def entry? (path : String) : IO (Option Files.Entry) := do
  try
    let content ← IO.FS.readBinFile path
    return some (.file content.toList)
  catch
    | .noFileOrDirectory .. => return none
    | _ => return some .folder

/-- A snapshot of the files at some paths. -/
def snapshot (paths : List String) : IO Files := do
  let folder := (← IO.currentDir).toString
  let here := Files.walk [] ((Files.names folder.toList).map String.ofList)
  let fs : Files := ⟨here, []⟩
  let found ← paths.filterMapM fun path => do
    return (← entry? path).map fun entry => (fs.locate path, entry)
  return { fs with entries := found }

/-- Prints an outcome; the answer is the exit code. -/
def report : Outcome → IO UInt32
  | .printed text => do
    IO.print text
    return 0
  | .listening address _ => do
    IO.eprintln s!"ready to listen on {address}"
    return 0
  | .failed cause => do
    IO.eprintln cause.message
    return UInt32.ofNat cause.exitCode

end QueryDesk.Program

/-- Runs the program. -/
def main (args : List String) : IO UInt32 := do
  let env ← QueryDesk.Program.environment
  let fs ← QueryDesk.Program.snapshot (QueryDesk.CommandLine.mentioned env args)
  QueryDesk.Program.report (QueryDesk.CommandLine.run env fs args).1
