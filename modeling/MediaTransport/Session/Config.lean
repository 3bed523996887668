import MediaTransport.Media.Extension
import MediaTransport.Setting
import MediaTransport.Version

/-!
# Session configuration

What one side of a connection is told before the session begins.
-/

namespace MediaTransport

inductive Role where
  /-- Opens the session and issues even request ids. -/
  | client
  /-- Answers and issues odd request ids. -/
  | server
deriving DecidableEq, Repr

namespace Role

def firstRequestId : Role → Nat
  | .client => 0
  | .server => 1

def peer : Role → Role
  | .client => .server
  | .server => .client

instance : Listing Role :=
  ⟨fun
    | .client => "Client"
    | .server => "Server"⟩

/-- The name of a role among settings. -/
def name : Role → String
  | .client => "client"
  | .server => "server"

def ofName? (text : String) : Option Role := [client, server].find? (·.name = text)

end Role

/-- What to do with objects that arrive after the track they belong to was given up. -/
inductive StreamEndPolicy where
  | abort
  | drain
deriving DecidableEq, Repr

namespace StreamEndPolicy

/-- The name of a policy among settings. -/
def name : StreamEndPolicy → String
  | .abort => "abort"
  | .drain => "drain"

def ofName? (text : String) : Option StreamEndPolicy := [abort, drain].find? (·.name = text)

end StreamEndPolicy

structure SessionConfig where
  role : Role := .client
  /-- The supported versions in order of preference. -/
  versions : List Version := [Version.draft15]
  /-- The path that a client announces. -/
  path : Option String := none
  /-- The name of the implementation that both sides announce. -/
  implementation : Option String := some "moqt-rs/0.1.0"
  /-- The largest request id that the peer may use. -/
  maxRequestId : Nat := 100
  /-- By how much to raise that limit whenever the peer says that it is blocked. -/
  autoGrantWindow : Option Nat := none
  skipUnknownMessages : Bool := true
  extensionPolicy : ExtensionPolicy := .preserve
  streamEndPolicy : StreamEndPolicy := .drain
deriving DecidableEq, Repr

/-! ## Configurations as settings -/

namespace SessionConfig

def toSetting (config : SessionConfig) : Setting := .group [
  ("role", .text config.role.name),
  ("versions", .list (config.versions.map .ofNat)),
  ("path", .ofOption .text config.path),
  ("implementation", .ofOption .text config.implementation),
  ("max_request_id", .ofNat config.maxRequestId),
  ("auto_grant_window", .ofOption .ofNat config.autoGrantWindow),
  ("skip_unknown_messages", .switch config.skipUnknownMessages),
  ("extension_policy", .text config.extensionPolicy.name),
  ("stream_end_policy", .text config.streamEndPolicy.name)]

/-- Changes one setting, if there is one of this name and the value fits it. -/
def set? (config : SessionConfig) (name : String) (value : Setting) : Option SessionConfig :=
  match name with
  | "role" => do return { config with role := ← value.text? >>= Role.ofName? }
  | "versions" => do return { config with versions := ← value.numbers? }
  | "path" => do return { config with path := ← value.optional? Setting.text? }
  | "implementation" => do return { config with implementation := ← value.optional? Setting.text? }
  | "max_request_id" => do return { config with maxRequestId := ← value.number? }
  | "auto_grant_window" => do
    return { config with autoGrantWindow := ← value.optional? Setting.number? }
  | "skip_unknown_messages" => do return { config with skipUnknownMessages := ← value.switch? }
  | "extension_policy" => do
    return { config with extensionPolicy := ← value.text? >>= ExtensionPolicy.ofName? }
  | "stream_end_policy" => do
    return { config with streamEndPolicy := ← value.text? >>= StreamEndPolicy.ofName? }
  | _ => none

/-- The standard configuration with a group of settings changed. -/
def ofSetting? : Setting → Option SessionConfig
  | .group fields => fields.foldlM (fun config field => config.set? field.1 field.2) {}
  | _ => none

end SessionConfig

end MediaTransport
