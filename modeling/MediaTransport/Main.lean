import MediaTransport.Command.Arguments

/-!
# Command line

Decodes bytes that are given in hexadecimal, or runs a client and a server against
each other, and prints what comes of it.
-/

open MediaTransport

/-- The text to inspect, from the standard input if it is no argument. -/
def inputText (arguments : Arguments) (command : Command) : IO String := do
  match command, arguments.text with
  | .inspect, none => (← IO.getStdin).readToEnd
  | _, text => return text.getD ""

def main (words : List String) : IO UInt32 := do
  match Arguments.ofWords words with
  | .error usage =>
    IO.eprintln ("error: " ++ usage.message)
    return 2
  | .ok arguments =>
    match arguments.command with
    | none =>
      IO.eprintln ("error: " ++ UsageError.missingCommand.message)
      return 2
    | some command =>
      match arguments.run command (← inputText arguments command) with
      | .ok lines =>
        lines.forM IO.println
        return 0
      | .error failure =>
        IO.eprintln ("Error: " ++ failure.message)
        return 1
