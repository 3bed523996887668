/-!
# Values of settings

Outside of the program a configuration is a list of named values.  Reading one is
strict: a value has to be of the kind that its name calls for.
-/

namespace MediaTransport

inductive Setting where
  | null
  | switch (value : Bool)
  | number (value : Int)
  | text (value : String)
  | list (values : List Setting)
  | group (fields : List (String × Setting))
deriving Inhabited

namespace Setting

def switch? : Setting → Option Bool
  | .switch value => some value
  | _ => none

/-- A number of at most 64 bits. -/
def number? : Setting → Option Nat
  | .number (.ofNat value) => if value < UInt64.size then some value else none
  | _ => none

def text? : Setting → Option String
  | .text value => some value
  | _ => none

def numbers? : Setting → Option (List Nat)
  | .list values => values.mapM number?
  | _ => none

/-- A value that may be left open. -/
def optional? {α : Type} (read : Setting → Option α) : Setting → Option (Option α)
  | .null => some none
  | setting => (read setting).map some

def ofNat (value : Nat) : Setting := .number value

def ofOption {α : Type} (write : α → Setting) : Option α → Setting
  | some value => write value
  | none => .null

end Setting

end MediaTransport
