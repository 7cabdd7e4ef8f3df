import BiometricSession.CommandLine.Run

/-!
# The program

Reads the files that the arguments name, looks at the process they name, and
prints what the run comes to: lines on the standard output, log and failure on
the standard error.
-/

namespace BiometricSession

/-- Whether something is found under a path. -/
def isPresent (path : String) : IO Bool :=
  try
    let _ ← IO.FS.realPath path
    return true
  catch _ => return false

/-- What is found under a path. -/
def readContent (path : String) : IO FileContent := do
  try
    let bytes ← IO.FS.readBinFile path
    return .ofBytes bytes.toList
  catch _ =>
    return if ← isPresent path then .unreadable else .absent

/-- Whether a process runs.  Zero stands for the program itself. -/
def isRunning (process : UInt32) : IO Bool := do
  if process = 0 then
    return true
  else
    isPresent ("/proc/" ++ inspect process ++ "/stat")

/-- What the program finds around it for a command. -/
def survey (command : Command) : IO Environment := do
  let home :=
    match ← IO.getEnv "HOME" with
    | none | some "" => "/"
    | some home => home
  let defaultConfig := MonitorConfig.defaultPath home (← IO.getEnv "XDG_CONFIG_HOME")
  let files ← (command.paths defaultConfig).mapM fun path => do
    return (path, ← readContent path)
  let running ←
    match command.process? with
    | some process => isRunning process
    | none => pure false
  return {
    file := fun path => (files.lookup path).getD .absent
    defaultConfig := defaultConfig
    processes := ⟨fun process => running && command.process? == some process⟩
  }

def report (outcome : Outcome) : IO Unit := do
  for record in outcome.log do
    for line in record.printedLines do
      IO.eprintln line
  for line in outcome.output do
    IO.println line
  if let some failure := outcome.failure then
    IO.eprintln failure

/-- What a run for some arguments comes to.  A mistake in them is told at once. -/
def outcomeFor (texts : List String) : IO Outcome := do
  match Invocation.ofArguments texts with
  | .ok invocation => return (← survey invocation.command).run texts
  | .error refusal =>
      if let .mistake error := refusal then
        IO.eprintln ("error: " ++ error.message)
      return .ofRefusal refusal

end BiometricSession

open BiometricSession in
def main (texts : List String) : IO UInt32 := do
  let outcome ← outcomeFor texts
  report outcome
  return outcome.status.code
