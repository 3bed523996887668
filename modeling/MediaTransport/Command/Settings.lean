import MediaTransport.Command.LogLevel
import MediaTransport.Session.Config

/-!
# Settings

What can be set by flags and by a file.  A flag that is given wins over the file,
and a switch is on if either turns it on.
-/

namespace MediaTransport

structure LogSettings where
  level : Option String := none
  json : Bool := false
deriving DecidableEq, Repr

structure SessionSettings where
  path : Option String := none
  maxRequestId : Option Nat := none
  autoGrantWindow : Option Nat := none
  strictMessages : Bool := false
  extensionPolicy : Option ExtensionPolicy := none
  streamEndPolicy : Option StreamEndPolicy := none
deriving DecidableEq, Repr

structure Settings where
  log : LogSettings := {}
  session : SessionSettings := {}
deriving DecidableEq, Repr

namespace LogSettings

/-- The settings, with what they leave open taken from others. -/
def withDefaults (settings defaults : LogSettings) : LogSettings where
  level := settings.level.or defaults.level
  json := settings.json || defaults.json

/-- The level, or the text that names none. -/
def parsedLevel (settings : LogSettings) : Except String LogLevel :=
  match settings.level with
  | none => .ok .info
  | some text =>
    match LogLevel.ofText? text with
    | some level => .ok level
    | none => .error text

def toSetting (settings : LogSettings) : Setting := .group [
  ("level", .ofOption .text settings.level),
  ("json", .switch settings.json)]

end LogSettings

namespace SessionSettings

/-- The settings, with what they leave open taken from others. -/
def withDefaults (settings defaults : SessionSettings) : SessionSettings where
  path := settings.path.or defaults.path
  maxRequestId := settings.maxRequestId.or defaults.maxRequestId
  autoGrantWindow := settings.autoGrantWindow.or defaults.autoGrantWindow
  strictMessages := settings.strictMessages || defaults.strictMessages
  extensionPolicy := settings.extensionPolicy.or defaults.extensionPolicy
  streamEndPolicy := settings.streamEndPolicy.or defaults.streamEndPolicy

/-- The configuration of one side.  Only a client announces a path. -/
def config (settings : SessionSettings) (role : Role) : SessionConfig :=
  let standard : SessionConfig := { role }
  { standard with
    path := if role = .client then settings.path else none
    maxRequestId := settings.maxRequestId.getD standard.maxRequestId
    autoGrantWindow := settings.autoGrantWindow
    skipUnknownMessages := !settings.strictMessages
    extensionPolicy := settings.extensionPolicy.getD standard.extensionPolicy
    streamEndPolicy := settings.streamEndPolicy.getD standard.streamEndPolicy }

def toSetting (settings : SessionSettings) : Setting := .group [
  ("path", .ofOption .text settings.path),
  ("max_request_id", .ofOption .ofNat settings.maxRequestId),
  ("auto_grant_window", .ofOption .ofNat settings.autoGrantWindow),
  ("strict_messages", .switch settings.strictMessages),
  ("extension_policy", .ofOption (.text ·.name) settings.extensionPolicy),
  ("stream_end_policy", .ofOption (.text ·.name) settings.streamEndPolicy)]

end SessionSettings

namespace Settings

/-- The settings, with what they leave open taken from others. -/
def withDefaults (settings defaults : Settings) : Settings where
  log := settings.log.withDefaults defaults.log
  session := settings.session.withDefaults defaults.session

def toSetting (settings : Settings) : Setting := .group [
  ("log", settings.log.toSetting),
  ("session", settings.session.toSetting)]

end Settings

end MediaTransport
