import PaymentChannel.CommandLine.Command
import PaymentChannel.Json.Pretty

/-! The program: reads its arguments and the file they name, and prints the answer. -/
namespace PaymentChannel.CommandLine

def readFile? (path : String) : IO (Option String) := do
  try return some (← IO.FS.readFile path)
  catch _ => return none

end PaymentChannel.CommandLine

open PaymentChannel

def main (args : List String) : IO UInt32 := do
  match Invocation.ofWords args with
  | .error refusal =>
    IO.eprintln "usage: [-n NETWORK] [--datadir DIR] deposit|commit|secret-hash|snapshot ..."
    return refusal.exitCode.toUInt32
  | .ok invocation =>
    let contents ← match invocation.command.file? with
      | some path => CommandLine.readFile? path
      | none => pure none
    match invocation.command.run contents with
    | .ok answer =>
      IO.println (answer.toJson invocation.network).pretty
      return 0
    | .error failure =>
      IO.eprintln s!"Error: {failure.message}"
      return 1
