/-!
TOML values and keys. A value is a string, an integer, a float, a boolean, a date-time
(kept as written), an array or an inline table; keys remember where they were written, so that
a report about a table made by a dotted key can point at the key.
-/

namespace ButtonRelay.Toml

/-- A byte range of the text. -/
structure Span where
  start : Nat
  stop : Nat
  deriving DecidableEq, Repr, Inhabited

/-- A key as read, with where it was written. -/
structure Key where
  name : String
  span : Option Span
  deriving DecidableEq, Repr, Inhabited

/-- A TOML value. -/
inductive Value where
  | string (s : String)
  | integer (n : Int)
  | float (f : Float)
  | boolean (b : Bool)
  | datetime (text : String)
  | array (items : List Value)
  | table (entries : List (String × Value))
  deriving Inhabited

/-- The name of a value's type in reports. -/
def Value.typeName : Value → String
  | .string _ => "string"
  | .integer _ => "integer"
  | .float _ => "float"
  | .boolean _ => "boolean"
  | .datetime _ => "datetime"
  | .array _ => "array"
  | .table _ => "inline table"

/-- Keys joined by dots, as a path is shown. -/
def dotted (path : List Key) : String := ".".intercalate (path.map (·.name))

end ButtonRelay.Toml
