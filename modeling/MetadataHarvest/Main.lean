import MetadataHarvest.CommandLine

/-!
# The program

Reads the files that a command names, carries it out, and writes what it reports. Only
here are files read and written.
-/

namespace MetadataHarvest.CommandLine

/-- The bytes of a file, if it can be read. -/
def fileBytes? (path : String) : IO (Option (List UInt8)) := do
  try
    return some (← IO.FS.readBinFile path).toList
  catch _ =>
    return none

/-- The text of a file, if it can be read. -/
def fileText? (path : String) : IO (Option String) := do
  return (← fileBytes? path).bind Text.ofUtf8?

/-- The repository whose saved responses an index lists. -/
def savedRepository (index : Option String) : IO Repository := do
  let text ← match index with
    | none => pure none
    | some path => fileText? path
  let mut answers := []
  for (address, path) in indexEntries (text.getD "") do
    if let some body ← fileText? path then
      answers := (address, body) :: answers
  return .ofAnswers answers "no saved response"

/-- The parameters of the settings file that a command names. -/
def settingsOf (c : Command) : IO (Except HarvestError Parameters) := do
  match c.option? .settings with
  | none => return .ok {}
  | some path => return Parameters.ofFile (← fileBytes? path)

/-- Writes a report, and returns the exit code. -/
def write (c : Command) (report : Report) : IO UInt32 := do
  let text := String.join (report.lines.map (· ++ "\n"))
  match c.option? .output with
  | none => IO.print text
  | some path => IO.FS.writeFile path text
  match report.remark with
  | .ok remark => do
    if let some remark := remark then
      IO.eprintln remark
    return 0
  | .error message => do
    IO.eprintln ("Error: " ++ message)
    return 1

/-- Carries out a command and writes its report. -/
def carryOut (c : Command) : IO UInt32 := do
  let repository ← savedRepository (c.option? .responses)
  match ← settingsOf c with
  | .error e => write c (.ofError e)
  | .ok settings =>
    let (report, _) := Id.run (StateT.run (c.report repository settings) [])
    write c report

end MetadataHarvest.CommandLine

def main (arguments : List String) : IO UInt32 := do
  match MetadataHarvest.CommandLine.Command.read arguments with
  | .error e => do
    IO.eprintln ("Error: " ++ e.message)
    return 2
  | .ok command => MetadataHarvest.CommandLine.carryOut command
