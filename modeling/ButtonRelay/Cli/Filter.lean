import ButtonRelay.Log
import ButtonRelay.Text.Alphanumeric
import ButtonRelay.Text.Blank
import ButtonRelay.Text.Utf8
import ButtonRelay.Cli.Pattern

/-!
Which log events are printed. A filter is a list of directives split at every comma, empty
ones skipped. A directive is read character by character after its blanks at both ends are
trimmed:

* a first character that is not `[`, a letter, a digit, `-`, `:` or `_` spoils it;
* a word alone is a level when it reads as one (a level name in any case, `off`, or a number
  from 0 to 5), and a target otherwise;
* `target=level` and `target[span]=level` name a target; the target is all up to the `=` or
  `[`, whatever it holds;
* `[name]` names a span; `[{a,b}]` or `[name{a,b}]` asks for fields, `field=value` for a value,
  which must be a boolean, a number or a pattern that compiles; after the closing bracket only
  `=` may follow;
* an empty level after `=` lets every level through.

The pieces are cut from the directive as given, at the byte offsets found in the trimmed text,
so blanks at the front shift every cut to the left and blanks at the end stay in the last
piece; a cut that falls inside a character spoils the directive.

A directive that names a span or asks for a field's value only acts inside spans, and no event
here is inside one. An event is printed when the most specific other directive covering its
target lets its level through: a longer target is more specific, a directive with no target
the least, then more fields; of two with the same target and fields the later one counts. With
no directive covering it, an event is not printed. A list with a spoiled directive gives way to
`info`, and so does a missing filter; an empty one prints nothing.
-/

namespace ButtonRelay.Cli

/-- The most verbose level a directive lets through; `none` turns everything off. -/
abbrev Ceiling := Option Level

/-- A field a directive asks for: its name, and whether a value is asked for too. -/
structure FieldMatch where
  name : String
  hasValue : Bool
  deriving DecidableEq, Repr

/-- A field request `name` or `name=value`: the part before the first `=` names the field, and
the part after it, up to a second `=`, is the value. -/
def fieldParts (text : String) : String × Option String :=
  match text.splitOn "=" with
  | name :: value :: _ => (name, some value)
  | _ => (text, none)

/-- A field request, if its value is accepted. -/
def FieldMatch.ofText? (text : String) : Option FieldMatch :=
  let (name, value) := fieldParts text
  if value.all Pattern.valueAccepted then some ⟨name, value.isSome⟩ else none

/-- One directive of a filter. -/
structure Directive where
  target : Option String
  span : Option String
  fields : List FieldMatch
  ceiling : Ceiling
  deriving DecidableEq, Repr

/-- A directive with nothing named yet; it lets every level through. -/
def Directive.blank : Directive := ⟨none, none, [], some .trace⟩

/-- Whether a word is a decimal number, with an optional leading `+`, and its value. -/
def numberOf (word : String) : Option Nat :=
  let digits := match word.toList with
    | '+' :: rest => rest
    | cs => cs
  if !digits.isEmpty && digits.all Char.isDigit then some (String.ofList digits).toNat! else none

/-- A level word: a number from 0 (off) to 5 (trace), or a level name or `off` with ASCII case
ignored; the empty word is `error`. -/
def ceilingOf (word : String) : Option Ceiling :=
  let byNumber : Option Ceiling := match numberOf word with
    | some 0 => some none
    | some 1 => some (some .error)
    | some 2 => some (some .warn)
    | some 3 => some (some .info)
    | some 4 => some (some .debug)
    | some 5 => some (some .trace)
    | _ => none
  byNumber <|> match Text.asciiLower word with
    | "" => some (some .error)
    | "error" => some (some .error)
    | "warn" => some (some .warn)
    | "info" => some (some .info)
    | "debug" => some (some .debug)
    | "trace" => some (some .trace)
    | "off" => some none
    | _ => none

/-- Where the reader of a directive stands; each offset is where the piece being read began. -/
inductive Stage where
  | start
  | levelOrTarget (first : Nat)
  | span (first : Nat)
  | field (first : Nat)
  /-- After the closing brace of the fields. -/
  | fields
  /-- After the closing bracket of a span. -/
  | target
  | level (first : Nat)
  deriving DecidableEq, Repr

/-- The text between two byte offsets of the directive as given, if both fall between
characters. -/
def cut (bytes : List UInt8) (first stop : Nat) : Option String :=
  Utf8.toString? ((bytes.take stop).drop first)

/-- Reads one character, at a byte offset of the trimmed text; `none` spoils the directive. -/
def Stage.step (bytes : List UInt8) : Stage × Directive → Nat × Char → Option (Stage × Directive)
  | (.start, d), (i, c) =>
    if c = '[' then some (.span (i + 1), d)
    else if c = '-' || c = ':' || c = '_' || Text.isAlphanumeric c then some (.levelOrTarget i, d)
    else none
  | (.levelOrTarget first, d), (i, c) =>
    if c = '=' then (cut bytes first i).map fun t => (.level (i + 1), { d with target := some t })
    else if c = '[' then (cut bytes first i).map fun t => (.span (i + 1), { d with target := some t })
    else some (.levelOrTarget first, d)
  | (.span first, d), (i, c) =>
    if c = ']' then (cut bytes first i).map fun n => (.target, { d with span := some n })
    else if c = '\x7b' then
      (cut bytes first i).map fun n => (.field (i + 1), { d with span := if n.isEmpty then none else some n })
    else some (.span first, d)
  | (.field first, d), (i, c) =>
    if c = '\x7d' then
      match cut bytes first i with
      | some "" | none => none
      | some f => (FieldMatch.ofText? f).map fun m => (.fields, { d with fields := d.fields ++ [m] })
    else some (.field first, d)
  | (.fields, d), (_, c) => if c = ']' then some (.target, d) else none
  | (.target, d), (i, c) => if c = '=' then some (.level (i + 1), d) else none
  | (.level first, d), _ => some (.level first, d)

/-- Ends a directive: a word alone is a level or a target, a level after `=` is read to the end
of the directive as given. -/
def Stage.finish (bytes : List UInt8) : Stage × Directive → Option Directive
  | (.levelOrTarget first, d) => do
    let word ← cut bytes first bytes.length
    match ceilingOf word with
    | some c => some { d with target := none, ceiling := c }
    | none => some { d with target := some word, ceiling := some .trace }
  | (.level first, d) => do
    let word ← cut bytes first bytes.length
    if word.isEmpty then some { d with ceiling := some .trace }
    else (ceilingOf word).map fun c => { d with ceiling := c }
  | (.target, d) => some d
  | _ => none

/-- Each character of a text with the byte offset it starts at, counting from `offset`. -/
def withOffsets : Nat → List Char → List (Nat × Char)
  | _, [] => []
  | offset, c :: rest => (offset, c) :: withOffsets (offset + c.utf8Size) rest

/-- Reads one directive. -/
def Directive.parse (text : String) : Option Directive := do
  let bytes := Utf8.encode text
  let read ← (withOffsets 0 (Text.trimBlankList text.toList)).foldlM (Stage.step bytes)
    (.start, Directive.blank)
  Stage.finish bytes read

/-- A filter: its directives in order. -/
abbrev Filter := List Directive

/-- Reads a filter; `none` when a directive is spoiled. -/
def Filter.parse (text : String) : Option Filter :=
  ((text.splitOn ",").filter (· != "")).mapM Directive.parse

/-- The filter that lets `info` and above through everywhere. -/
def Filter.info : Filter := [⟨none, none, [], some .info⟩]

/-- The filter a run uses: the given one, or `info` when it is missing or does not parse. -/
def Filter.ofSetting : Option String → Filter
  | none => Filter.info
  | some text => (Filter.parse text).getD Filter.info

/-- Whether a directive acts outside spans: it names no span and asks for no field's value. -/
def Directive.isStatic (d : Directive) : Bool :=
  d.span.isNone && d.fields.all fun f => !f.hasValue

/-- Whether a directive covers events of a target; every event has one field, its message. -/
def Directive.covers (d : Directive) (target : String) : Bool :=
  d.isStatic && d.fields.all (·.name == "message") &&
    match d.target with
    | some t => target.startsWith t
    | none => true

/-- How specific a directive is: its target's length in bytes (one more, so that no target is
least), then its number of fields. -/
def Directive.specificity (d : Directive) : Nat × Nat :=
  ((d.target.map (·.utf8ByteSize + 1)).getD 0, d.fields.length)

/-- The directive that decides for a target: the most specific covering one, the later of
two equally specific ones with the same target. -/
def Filter.decider (f : Filter) (target : String) : Option Directive :=
  (f.filter (·.covers target)).foldl (fun best d =>
    match best with
    | some b =>
      if b.specificity.1 < d.specificity.1 ||
          (b.specificity.1 = d.specificity.1 && b.specificity.2 ≤ d.specificity.2) then some d
      else best
    | none => some d) none

/-- Whether a ceiling lets a level through. -/
def Ceiling.allows : Ceiling → Level → Bool
  | none, _ => false
  | some c, l => c.rank ≤ l.rank

/-- Whether a filter prints an event. -/
def Filter.allows (f : Filter) (e : Event) : Bool :=
  match f.decider e.component.target with
  | some d => d.ceiling.allows e.level
  | none => false

theorem Filter.info_allows (e : Event) (h : Level.info.rank ≤ e.level.rank) :
    Filter.info.allows e = true := by
  simp [Filter.allows, Filter.decider, Filter.info, Directive.covers, Directive.isStatic,
    Ceiling.allows, h]

example : Directive.parse "warn=info" = some ⟨some "warn", none, [], some .info⟩ := by decide +kernel
example : Directive.parse "debug " = some ⟨some "debug ", none, [], some .trace⟩ := by decide +kernel
example : Directive.parse "[span]target=info" = none := by decide +kernel

end ButtonRelay.Cli
