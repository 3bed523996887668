import MediaTransport.Text.Decimal

/-!
# Log levels

How much is logged.  A level is given by its name in letters of either case, or by
its rank.
-/

namespace MediaTransport

inductive LogLevel where
  | off
  | error
  | warn
  | info
  | debug
  | trace
deriving DecidableEq, Repr

namespace LogLevel

/-- From the least to the most talkative. -/
def all : List LogLevel := [.off, .error, .warn, .info, .debug, .trace]

def name : LogLevel → String
  | .off => "off"
  | .error => "error"
  | .warn => "warn"
  | .info => "info"
  | .debug => "debug"
  | .trace => "trace"

/-- A rank, which may have a plus sign in front. -/
def ofRank? (text : List Char) : Option LogLevel := do
  let rank ← Text.decimal? (match text with
    | '+' :: digits => digits
    | digits => digits)
  all[rank]?

/-- No text at all stands for errors alone. -/
def ofText? (text : String) : Option LogLevel :=
  (ofRank? text.toList).or <|
    if text.isEmpty then some .error
    else all.find? fun level => level.name.toList = text.toList.map Char.toLower

end LogLevel

end MediaTransport
