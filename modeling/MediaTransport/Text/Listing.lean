/-!
# Listing values

Values are listed on one line: a record as its name and its fields in braces, a
tagged value as its tag and its contents in parentheses, a sequence in brackets
and a map in braces.  A `Listing` says how the values of a type are listed.
-/

namespace MediaTransport.Text

def commaSeparated (parts : List String) : String :=
  ", ".intercalate parts

/-- A record with its fields in declaration order. -/
def record (name : String) (fields : List (String × String)) : String :=
  name ++ " \x7b " ++ commaSeparated (fields.map fun field => field.1 ++ ": " ++ field.2) ++ " \x7d"

def tagged (tag : String) (contents : List String) : String :=
  tag ++ "(" ++ commaSeparated contents ++ ")"

def sequence (items : List String) : String :=
  "[" ++ commaSeparated items ++ "]"

def mapping (entries : List (String × String)) : String :=
  "\x7b" ++ commaSeparated (entries.map fun entry => entry.1 ++ ": " ++ entry.2) ++ "\x7d"

end MediaTransport.Text

namespace MediaTransport

class Listing (α : Type) where
  listing : α → String

export Listing (listing)

instance : Listing Nat := ⟨toString⟩

instance : Listing Bool := ⟨fun flag => if flag then "true" else "false"⟩

instance : Listing UInt8 := ⟨fun byte => toString byte.toNat⟩

instance {α : Type} [Listing α] : Listing (Option α) :=
  ⟨fun
    | some value => Text.tagged "Some" [listing value]
    | none => "None"⟩

instance {α : Type} [Listing α] : Listing (List α) :=
  ⟨fun items => Text.sequence (items.map listing)⟩

end MediaTransport
