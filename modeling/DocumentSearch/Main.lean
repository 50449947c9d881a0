import DocumentSearch.CommandLine.Run

/-!
The program itself. It reads the configuration, runs what the arguments ask for, and prints the
outcome. No network is attached here, so requests stay without a response.
-/

namespace DocumentSearch

def contentAt (path : String) : IO FileContent := do
  try
    return .text (← IO.FS.readFile path)
  catch
    | .noFileOrDirectory .. => return .missing
    | error => return .unreadable (toString error)

def unattached (_ : Http.Request) : IO Http.Reply := return none

def perform (invocation : Invocation) : IO UInt32 := do
  let content ← contentAt invocation.configurationPath
  let outcome ← (Run.invocation invocation content).run unattached
  IO.print outcome.output
  if let some failure := outcome.failure then IO.eprintln ("Error: " ++ failure.text)
  return UInt32.ofNat outcome.exitCode

end DocumentSearch

open DocumentSearch in
def main (arguments : List String) : IO UInt32 := do
  let defaultPath := (← IO.getEnv "EXPLORER_CONFIG").getD "explorer.toml"
  match Invocation.interpret defaultPath arguments with
  | .run invocation => perform invocation
  | .help => return 0
  | .version =>
      IO.print versionText
      return 0
  | .misuse => return 2
