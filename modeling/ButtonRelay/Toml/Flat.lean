import ButtonRelay.Toml.Report
import ButtonRelay.Fault
import ButtonRelay.Text.Escape

/-!
Flat string tables. A flat table holds only string values at its top level; anything else is
refused at the first such key in document order, with the data model's name for what was found
there and the span of the value (or of its key, for a table that only dotted keys made).
Configurations are read from such tables.
-/

namespace ButtonRelay.Toml

/-- Floats in reports: shortest digits, always positional, `.0` on integral values. -/
def floatStyle : Decimal.Style := ⟨-1000, none, true, false, "NaN", "inf"⟩

/-- How the data model names a value found where a string was expected. -/
def Value.found : Value → String
  | .string s => "string " ++ Text.quoteString s
  | .integer n => "integer `" ++ toString n ++ "`"
  | .float f => "floating point `" ++ floatStyle.render f ++ "`"
  | .boolean b => "boolean `" ++ toString b ++ "`"
  | .datetime _ => "map"
  | .array _ => "sequence"
  | .table _ => "map"

/-- The failure for a key that does not hold a string. -/
def notString (found : String) (span : Option Span) : Failure :=
  ⟨"invalid type: " ++ found ++ ", expected a string", span⟩

/-- The string entries of a table, in order, or the failure at the first other entry. -/
def Table.strings (t : Table) : Except Failure (List (String × String)) :=
  t.entries.mapM fun (k, n) => match n with
    | .value (.string s) _ => .ok (k.name, s)
    | .value v span => .error (notString v.found (some span))
    | .table inner => .error (notString "map" (inner.span.orElse fun _ => k.span))
    | .tables _ span => .error (notString "sequence" (span.orElse fun _ => k.span))

/-- Reads a flat string table from TOML text; a failure comes as its report. -/
def readFlat (text : String) : Except String (List (String × String)) :=
  match parse text >>= Table.strings with
  | .ok pairs => .ok pairs
  | .error f => .error (f.report text)

end ButtonRelay.Toml

namespace ButtonRelay

/-- Reads a configuration from TOML text holding string values only. -/
def Config.ofToml (text : String) : Except ConfigFault Config :=
  match Toml.readFlat text with
  | .ok pairs => Config.ofPairs pairs
  | .error report => .error (.invalidToml report)

/-- A configuration read from TOML text for the module. -/
def Config.checkToml (text : String) : Except Fault Config :=
  (Config.ofToml text).mapError .invalidConfiguration

end ButtonRelay
