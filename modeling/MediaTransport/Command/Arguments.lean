import MediaTransport.Command.Inspect
import MediaTransport.Command.Loopback

/-!
# Arguments

What the words of a command line ask for: settings, a command, and what belongs to
it.  Flags may stand before and after the name of the command.
-/

namespace MediaTransport

inductive Command where
  | inspect
  | loopback
deriving DecidableEq, Repr

/-- Why a command line is not understood. -/
inductive UsageError where
  | unknownFlag (flag : String)
  | missingValue (flag : String)
  | invalidValue (flag value : String)
  | unexpectedWord (word : String)
  | missingCommand
deriving DecidableEq, Repr

def UsageError.message : UsageError → String
  | .unknownFlag flag => "unexpected argument " ++ Text.quoted flag
  | .missingValue flag => "a value is required for " ++ flag
  | .invalidValue flag value => "invalid value " ++ Text.quoted value ++ " for " ++ flag
  | .unexpectedWord word => "unexpected argument " ++ Text.quoted word
  | .missingCommand => "a command is required: inspect or loopback"

structure Arguments where
  settings : Settings := {}
  command : Option Command := none
  /-- What to take the bytes for. -/
  kind : Inspect.Kind := .control
  /-- The bytes to inspect, if they are not read from the standard input. -/
  text : Option String := none
  loopback : Loopback.Options := {}
deriving DecidableEq, Repr

namespace Arguments

def kindOfName? : String → Option Inspect.Kind
  | "control" => some .control
  | "stream" => some .stream
  | "datagram" => some .datagram
  | _ => none

/-- A number of at most 64 bits. -/
def number? (text : String) : Option Nat :=
  (Text.decimal? text.toList).filter (· < UInt64.size)

/-- Turns on what a flag without a value stands for. -/
def turnOn? (arguments : Arguments) (flag : String) : Option Arguments :=
  let { log, session } := arguments.settings
  match flag with
  | "--log-json" =>
    some { arguments with settings := { log := { log with json := true }, session } }
  | "--strict-messages" =>
    some { arguments with settings := { log, session := { session with strictMessages := true } } }
  | _ => none

def setLog? (settings : LogSettings) (flag value : String) : Option LogSettings :=
  match flag with
  | "--log-level" => some { settings with level := value }
  | _ => none

def setSession? (settings : SessionSettings) (flag value : String) : Option SessionSettings :=
  match flag with
  | "--path" => some { settings with path := value }
  | "--max-request-id" => do return { settings with maxRequestId := ← number? value }
  | "--auto-grant-window" => do return { settings with autoGrantWindow := ← number? value }
  | "--extension-policy" => do
    return { settings with extensionPolicy := ← ExtensionPolicy.ofName? value }
  | "--stream-end-policy" => do
    return { settings with streamEndPolicy := ← StreamEndPolicy.ofName? value }
  | _ => none

def setLoopback? (options : Loopback.Options) (flag value : String) : Option Loopback.Options :=
  match flag with
  | "--namespace" => some { options with path := value }
  | "--track" => some { options with track := value }
  | "--objects" => do return { options with objects := ← number? value }
  | _ => none

/-- Sets what a flag with a value stands for, if the value fits it. -/
def set? (arguments : Arguments) (flag value : String) : Option Arguments :=
  let { log, session } := arguments.settings
  if flag = "--kind" then do return { arguments with kind := ← kindOfName? value }
  else if let some log := setLog? log flag value then
    some { arguments with settings := { log, session } }
  else if let some session := setSession? session flag value then
    some { arguments with settings := { log, session } }
  else do return { arguments with loopback := ← setLoopback? arguments.loopback flag value }

/-- The flags that take a value. -/
def valueFlags : List String :=
  ["--kind", "--log-level", "--path", "--max-request-id", "--auto-grant-window",
    "--extension-policy", "--stream-end-policy", "--namespace", "--track", "--objects"]

/-- Takes in a word that is not a flag: the command, or the bytes to inspect. -/
def take (arguments : Arguments) (word : String) : Except UsageError Arguments :=
  match arguments.command, arguments.text, word with
  | none, _, "inspect" => .ok { arguments with command := some .inspect }
  | none, _, "loopback" => .ok { arguments with command := some .loopback }
  | some .inspect, none, text => .ok { arguments with text := some text }
  | _, _, _ => .error (.unexpectedWord word)

/-- Takes in words from left to right. -/
def takeAll (arguments : Arguments) : (words : List String) → Except UsageError Arguments
  | [] => .ok arguments
  | [word] =>
    if word ∈ valueFlags then .error (.missingValue word)
    else takeOne arguments word
  | word :: value :: rest =>
    if word ∈ valueFlags then
      match arguments.set? word value with
      | some next => takeAll next rest
      | none => .error (.invalidValue word value)
    else do takeAll (← takeOne arguments word) (value :: rest)
where
  takeOne (arguments : Arguments) (word : String) : Except UsageError Arguments :=
    if word.startsWith "--" then
      match arguments.turnOn? word with
      | some next => .ok next
      | none => .error (.unknownFlag word)
    else arguments.take word

def ofWords (words : List String) : Except UsageError Arguments := takeAll {} words

/-- Runs the command on a text to inspect.  The log level is checked first. -/
def run (arguments : Arguments) (command : Command) (text : String) :
    Except Failure (List String) := do
  let _ ← arguments.settings.log.parsedLevel.mapError Failure.invalidLogLevel
  match command with
  | .inspect => Inspect.run arguments.kind text arguments.settings.session
  | .loopback => Loopback.run arguments.loopback arguments.settings.session

end Arguments

end MediaTransport
