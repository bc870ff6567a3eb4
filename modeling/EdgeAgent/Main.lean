import EdgeAgent.Settings.Flags

/-! The program: it reads its settings from the command line and shows those with which it would
start. -/

open EdgeAgent

/-- Reads the command line. Its status is that of the fault for a command line that gives no
settings, and 1 for settings that are refused. -/
def main (arguments : List String) : IO UInt32 := do
  match CommandLine.settings arguments with
  | .error e =>
    IO.eprintln ("error: " ++ e.message)
    return e.exitStatus
  | .ok settings =>
    match settings.refusal? with
    | some message =>
      IO.eprintln ("Error: " ++ message)
      return 1
    | none =>
      for (flag, value) in settings.shown do
        IO.println ("--" ++ flag.name ++ " " ++ value)
      return 0
