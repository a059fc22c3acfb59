import ButtonRelay.Text.Utf8
import ButtonRelay.Text.Escape
import ButtonRelay.Decimal.Shortest

/-!
A JSON reader over bytes with exact failure positions, for records of one field. It reads a
record from an object (`{"field": v}`, other keys skipped) or from a one-element array, and
the field as a boolean, an unsigned 32-bit count or a unit variant named by a string.

Positions are byte offsets. A failure raised where a byte was only looked at points one past
that byte; one raised after reading points at the next byte; a failure found by the data model
(a missing field, a value of the wrong type) gets the position of the reader at the moment
the enclosing value finishes.
-/

namespace ButtonRelay.Payload

/-- A value found where another was expected, as the data model names it. -/
inductive Found where
  | bool (b : Bool)
  | unsigned (n : Nat)
  | signed (i : Int)
  | float (bits : UInt64)
  | str (s : String)
  | null
  | seq
  | map
  deriving DecidableEq, Repr

/-- What went wrong. -/
inductive Problem where
  | eofList
  | eofObject
  | eofString
  | eofValue
  | expectedColon
  | expectedListCommaOrEnd
  | expectedObjectCommaOrEnd
  | expectedIdent
  | expectedValue
  | invalidEscape
  | invalidNumber
  | numberOutOfRange
  | invalidCodePoint
  | controlCharacter
  | keyMustBeString
  | loneSurrogate
  | trailingComma
  | trailingCharacters
  | unexpectedEndOfEscape
  | invalidType (found : Found) (expected : String)
  | invalidValue (found : Found) (expected : String)
  | invalidLength (length : Nat) (expected : String)
  | missingField (name : String)
  | duplicateField (name : String)
  | unknownVariant (name : String) (variants : List String)
  deriving DecidableEq, Repr

/-- A problem with the byte offset it is reported at, once known. -/
structure Failure where
  problem : Problem
  place : Option Nat
  deriving DecidableEq, Repr

/-- Floats in messages: shortest digits, positional from `1e-5` to below `1e16` with `.0` on
integral values, otherwise `d.ddde+NN`. -/
def floatStyle : Decimal.Style :=
  ⟨-5, some 15, true, true, "NaN", "inf"⟩

/-- The data model's name for a found value. -/
def Found.text : Found → String
  | .bool b => "boolean `" ++ toString b ++ "`"
  | .unsigned n => "integer `" ++ toString n ++ "`"
  | .signed i => "integer `" ++ toString i ++ "`"
  | .float bits => "floating point `" ++ floatStyle.render (Float.ofBits bits) ++ "`"
  | .str s => "string " ++ Text.quoteString s
  | .null => "null"
  | .seq => "sequence"
  | .map => "map"

/-- Names in back quotes: one name, two joined by `or`, or a list after `one of`. -/
def oneOf : List String → String
  | [] => "there are no variants"
  | [a] => "`" ++ a ++ "`"
  | [a, b] => "`" ++ a ++ "` or `" ++ b ++ "`"
  | names => "one of " ++ ", ".intercalate (names.map fun n => "`" ++ n ++ "`")

/-- The text of a problem. -/
def Problem.text : Problem → String
  | .eofList => "EOF while parsing a list"
  | .eofObject => "EOF while parsing an object"
  | .eofString => "EOF while parsing a string"
  | .eofValue => "EOF while parsing a value"
  | .expectedColon => "expected `:`"
  | .expectedListCommaOrEnd => "expected `,` or `]`"
  | .expectedObjectCommaOrEnd => "expected `,` or `\x7d`"
  | .expectedIdent => "expected ident"
  | .expectedValue => "expected value"
  | .invalidEscape => "invalid escape"
  | .invalidNumber => "invalid number"
  | .numberOutOfRange => "number out of range"
  | .invalidCodePoint => "invalid unicode code point"
  | .controlCharacter => "control character (\\u0000-\\u001F) found while parsing a string"
  | .keyMustBeString => "key must be a string"
  | .loneSurrogate => "lone leading surrogate in hex escape"
  | .trailingComma => "trailing comma"
  | .trailingCharacters => "trailing characters"
  | .unexpectedEndOfEscape => "unexpected end of hex escape"
  | .invalidType f e => "invalid type: " ++ f.text ++ ", expected " ++ e
  | .invalidValue f e => "invalid value: " ++ f.text ++ ", expected " ++ e
  | .invalidLength n e => "invalid length " ++ toString n ++ ", expected " ++ e
  | .missingField n => "missing field `" ++ n ++ "`"
  | .duplicateField n => "duplicate field `" ++ n ++ "`"
  | .unknownVariant v [] => "unknown variant `" ++ v ++ "`, " ++ oneOf []
  | .unknownVariant v vs => "unknown variant `" ++ v ++ "`, expected " ++ oneOf vs

/-- Line and column of a byte offset: lines count from one, columns count the bytes after
the last line feed before the offset. -/
def lineColumn (input : List UInt8) (offset : Nat) : Nat × Nat :=
  let before := input.take offset
  let lineStart := before.length - (before.reverse.takeWhile (· ≠ 0x0A)).length
  (1 + (before.take lineStart).count 0x0A, offset - lineStart)

/-- The text of a failure within the given input. -/
def Failure.text (input : List UInt8) (f : Failure) : String :=
  match f.place with
  | none => f.problem.text
  | some offset =>
    let (line, column) := lineColumn input offset
    f.problem.text ++ " at line " ++ toString line ++ " column " ++ toString column

/-- The unread bytes and how many were read. -/
structure Cursor where
  rest : List UInt8
  pos : Nat
  deriving DecidableEq, Repr

/-- Reading keeps its cursor when it fails, so a failure found late can be placed. -/
abbrev Read := ExceptT Failure (StateM Cursor)

/-- The next byte, if any, left unread. -/
def peek : Read (Option UInt8) := return (← get).rest.head?

/-- Reads one byte; at the end nothing moves. -/
def bump : Read Unit := modify fun c => match c.rest with
  | [] => c
  | _ :: r => ⟨r, c.pos + 1⟩

/-- Reads `n` bytes. -/
def bumpN (n : Nat) : Read Unit := modify fun c => ⟨c.rest.drop n, c.pos + min n c.rest.length⟩

/-- Reads and returns the next byte, if any. -/
def next : Read (Option UInt8) := do
  let b ← peek
  bump
  return b

/-- Fails at the given offset. -/
def failAt {α : Type} (p : Problem) (offset : Nat) : Read α := throw ⟨p, some offset⟩

/-- Fails at the reader's offset. -/
def failHere {α : Type} (p : Problem) : Read α := do failAt p (← get).pos

/-- Fails one past the byte looked at (at the end, at the end). -/
def failPeek {α : Type} (p : Problem) : Read α := do
  let c ← get
  failAt p (c.pos + min 1 c.rest.length)

/-- Fails with a problem of the data model, to be placed later. -/
def failLater {α : Type} (p : Problem) : Read α := throw ⟨p, none⟩

/-- Places the failures of `x` that have no offset yet at the reader's offset then. -/
def placed {α : Type} (x : Read α) : Read α :=
  tryCatch x fun e => do
    match e.place with
    | some _ => throw e
    | none => failHere e.problem

/-- Runs `x` and keeps its outcome, so reading may go on after a failure. -/
def attempt {α : Type} (x : Read α) : Read (Except Failure α) :=
  tryCatch (Except.ok <$> x) fun e => pure (.error e)

/-- JSON's blank bytes: space, line feed, tab and carriage return. -/
def isBlankByte (b : UInt8) : Bool := b = 0x20 || b = 0x0A || b = 0x09 || b = 0x0D

/-- Skips blank bytes from a position. -/
def skipBlankFrom : List UInt8 → Nat → Cursor
  | b :: r, p => if isBlankByte b then skipBlankFrom r (p + 1) else ⟨b :: r, p⟩
  | [], p => ⟨[], p⟩

/-- Skips blanks and looks at the next byte. -/
def peekPastBlank : Read (Option UInt8) := do
  modify fun c => skipBlankFrom c.rest c.pos
  peek

/-- Reads the given bytes of a keyword, failing on the first that differs or is missing. -/
def keyword : List UInt8 → Read Unit
  | [] => pure ()
  | b :: more => do
    match ← next with
    | none => failHere .eofValue
    | some x => if x = b then keyword more else failHere .expectedIdent

/-! ## Numbers -/

/-- A decimal digit byte. -/
def isDigit (b : UInt8) : Bool := 0x30 ≤ b && b ≤ 0x39

/-- The value of a digit byte. -/
def digitValue (b : UInt8) : Nat := b.toNat - 0x30

/-- The largest unsigned 64-bit value. -/
def u64Max : Nat := Nat.pow 2 64 - 1

/-- Takes digits onto `acc` while the value stays within 64 bits; returns the value and the
number of digits taken. -/
def accumulate (acc : Nat) : List UInt8 → Nat × Nat
  | b :: rest =>
    if isDigit b && acc * 10 + digitValue b ≤ u64Max then
      let (v, n) := accumulate (acc * 10 + digitValue b) rest
      (v, n + 1)
    else (acc, 0)
  | [] => (acc, 0)

/-- Takes exponent digits onto `acc` while the value stays within 31 bits; returns the value
and the number of digits taken. -/
def accumulateExp (acc : Nat) : List UInt8 → Nat × Nat
  | b :: rest =>
    if isDigit b && acc * 10 + digitValue b ≤ 2147483647 then
      let (v, n) := accumulateExp (acc * 10 + digitValue b) rest
      (v, n + 1)
    else (acc, 0)
  | [] => (acc, 0)

/-- The number of leading digit bytes. -/
def digitRun (bs : List UInt8) : Nat := (bs.takeWhile isDigit).length

/-- A number as read: unsigned, negative, or a double. -/
inductive Number where
  | unsigned (n : Nat)
  | signed (i : Int)
  | float (f : Float)

/-- How the data model names a number found where something else was expected. -/
def Number.found : Number → Found
  | .unsigned n => .unsigned n
  | .signed i => .signed i
  | .float f => .float f.toBits

/-- Powers of ten as doubles, `10 ^ k` for `k ≤ 308`, each the nearest double. -/
def pow10 (k : Nat) : Float := Float.ofBits (Decimal.nearestBits (Nat.pow 10 k) 1)

/-- Scales a double by `10 ^ e` the way the reader does: one multiplication or division by
a power of ten, after dividing by `1e308` while the exponent is below `-308`. -/
def scale (f : Float) (e : Int) : Read Float :=
  if e.natAbs ≤ 308 then
    if 0 ≤ e then
      let g := f * pow10 e.natAbs
      if g.isInf then failHere .numberOutOfRange else pure g
    else pure (f / pow10 e.natAbs)
  else if f == 0 then pure f
  else if 0 ≤ e then failHere .numberOutOfRange
  else scale (f / pow10 308) (e + 308)
termination_by e.natAbs
decreasing_by omega

/-- A double from its decimal parts: the significand as a double, scaled. -/
def fromParts (positive : Bool) (significand : Nat) (e : Int) : Read Float := do
  let f ← scale (UInt64.ofNat significand).toFloat e
  pure (if positive then f else -f)

/-- Adds to an exponent, staying within 32 bits. -/
def saturate (e : Int) : Int := max (-2147483648) (min 2147483647 e)

/-- Reads an exponent after `e` or `E`. -/
def exponent (positive : Bool) (significand : Nat) (start : Int) : Read Float := do
  bump
  let positiveExp ← match ← peek with
    | some 0x2B => do bump; pure true
    | some 0x2D => do bump; pure false
    | _ => pure true
  match ← next with
  | none => failHere .eofValue
  | some b =>
    if !isDigit b then failHere .invalidNumber else
    let (exp, n) := accumulateExp (digitValue b) (← get).rest
    bumpN n
    match ← peek with
    | some d =>
      if isDigit d then
        -- the next digit would pass 31 bits
        bump
        if significand ≠ 0 && positiveExp then failHere .numberOutOfRange
        else
          bumpN (digitRun (← get).rest)
          pure (if positive then 0.0 else -0.0)
      else fromParts positive significand (saturate (if positiveExp then start + exp else start - exp))
    | none => fromParts positive significand (saturate (if positiveExp then start + exp else start - exp))

/-- Reads a fraction after `.`; digits past 64 bits are dropped. -/
def fraction (positive : Bool) (significand : Nat) (start : Int) : Read Float := do
  bump
  let (sig, n) := accumulate significand (← get).rest
  bumpN n
  let e := start - n
  let overflow := match (← get).rest.head? with
    | some d => isDigit d
    | none => false
  if overflow then
    bumpN (digitRun (← get).rest)
    match ← peek with
    | some 0x65 | some 0x45 => exponent positive sig e
    | _ => fromParts positive sig e
  else if n = 0 then
    match ← peek with
    | some _ => failPeek .invalidNumber
    | none => failPeek .eofValue
  else
    match ← peek with
    | some 0x65 | some 0x45 => exponent positive sig e
    | _ => fromParts positive sig e

/-- What follows the integer digits: a fraction, an exponent, or nothing. -/
def numberTail (positive : Bool) (significand : Nat) : Read Number := do
  match ← peek with
  | some 0x2E => .float <$> fraction positive significand 0
  | some 0x65 | some 0x45 => .float <$> exponent positive significand 0
  | _ =>
    if positive then pure (.unsigned significand)
    else if 0 < significand && significand ≤ Nat.pow 2 63 then pure (.signed (-(significand : Int)))
    else pure (.float (-(UInt64.ofNat significand).toFloat))

/-- Reads an integer part, after the sign; one past 64 bits goes on as a double. -/
def integer (positive : Bool) : Read Number := do
  match ← next with
  | none => failHere .eofValue
  | some b =>
    if b = 0x30 then
      match ← peek with
      | some d => if isDigit d then failPeek .invalidNumber else numberTail positive 0
      | none => numberTail positive 0
    else if isDigit b then
      let (sig, n) := accumulate (digitValue b) (← get).rest
      bumpN n
      let long := match (← get).rest.head? with
        | some d => isDigit d
        | none => false
      if long then
        let extra := digitRun (← get).rest
        bumpN extra
        match ← peek with
        | some 0x2E => .float <$> fraction positive sig extra
        | some 0x65 | some 0x45 => .float <$> exponent positive sig extra
        | _ => .float <$> fromParts positive sig extra
      else numberTail positive sig
    else failHere .invalidNumber

/-! ## Strings -/

/-- The value of a hexadecimal digit byte. -/
def hexValue (b : UInt8) : Option Nat :=
  if isDigit b then some (digitValue b)
  else if 0x61 ≤ b && b ≤ 0x66 then some (b.toNat - 0x61 + 10)
  else if 0x41 ≤ b && b ≤ 0x46 then some (b.toNat - 0x41 + 10)
  else none

/-- Reads four hexadecimal digits of a `\u` escape. -/
def hexEscape : Read Nat := do
  let c ← get
  match c.rest with
  | a :: b :: d :: e :: _ =>
    bumpN 4
    match hexValue a, hexValue b, hexValue d, hexValue e with
    | some w, some x, some y, some z => pure (((w * 16 + x) * 16 + y) * 16 + z)
    | _, _, _, _ => failHere .invalidEscape
  | _ =>
    bumpN c.rest.length
    failHere .eofString

/-- The UTF-8 bytes of a code point. -/
def utf8Bytes (n : Nat) : List UInt8 := (String.singleton (Char.ofNat n)).toUTF8.toList

/-- Reads the rest of a `\u` escape, pairing surrogates. -/
def unicodeEscape : Read (List UInt8) := do
  let n ← hexEscape
  if 0xDC00 ≤ n && n ≤ 0xDFFF then failHere .loneSurrogate
  else if n < 0xD800 || 0xDBFF < n then pure (utf8Bytes n)
  else
    match ← peek with
    | none => failHere .eofString
    | some 0x5C =>
      bump
      match ← peek with
      | none => failHere .eofString
      | some 0x75 =>
        bump
        let low ← hexEscape
        if low < 0xDC00 || 0xDFFF < low then failHere .loneSurrogate
        else pure (utf8Bytes ((n - 0xD800) * 1024 + (low - 0xDC00) + 0x10000))
      | some _ => do bump; failHere .unexpectedEndOfEscape
    | some _ => do bump; failHere .unexpectedEndOfEscape

/-- Reads the byte after a backslash. -/
def escape : Read (List UInt8) := do
  match ← next with
  | none => failHere .eofString
  | some 0x22 => pure [0x22]
  | some 0x5C => pure [0x5C]
  | some 0x2F => pure [0x2F]
  | some 0x62 => pure [0x08]
  | some 0x66 => pure [0x0C]
  | some 0x6E => pure [0x0A]
  | some 0x72 => pure [0x0D]
  | some 0x74 => pure [0x09]
  | some 0x75 => unicodeEscape
  | some _ => failHere .invalidEscape

/-- A byte that ends a run of plain string bytes. -/
def isStringStop (b : UInt8) : Bool := b = 0x22 || b = 0x5C || b < 0x20

/-- Reads a string body after its opening quote, decoding escapes. The bytes are checked as
they are read: a character that is not well-formed UTF-8 stops the reading at its first
byte. -/
def stringBody : Nat → List UInt8 → Read (List UInt8)
  | 0, _ => failHere .eofString
  | fuel + 1, acc => do
    let plain := (← get).rest.takeWhile (fun b => !isStringStop b)
    let whole := Utf8.validPrefix plain
    bumpN whole
    if whole < plain.length then failPeek .invalidCodePoint else
    let acc := acc ++ plain
    match ← peek with
    | none => failHere .eofString
    | some 0x22 =>
      bump
      pure acc
    | some 0x5C =>
      bump
      let e ← escape
      stringBody fuel (acc ++ e)
    | some _ => do bump; failHere .controlCharacter

/-- Reads a string after its opening quote. -/
def string : Read (List UInt8) := do
  stringBody ((← get).rest.length + 1) []

/-- Skips the byte after a backslash. -/
def skipEscape : Read Unit := do
  match ← next with
  | none => failHere .eofString
  | some b =>
    if b = 0x22 || b = 0x5C || b = 0x2F || b = 0x62 || b = 0x66 || b = 0x6E || b = 0x72 ||
      b = 0x74 then pure ()
    else if b = 0x75 then do let _ ← hexEscape; pure ()
    else failHere .invalidEscape

/-- Skips a string body after its opening quote, checking only its escapes. -/
def skipStringBody : Nat → Read Unit
  | 0 => failHere .eofString
  | fuel + 1 => do
    bumpN ((← get).rest.takeWhile (fun b => !isStringStop b)).length
    match ← peek with
    | none => failHere .eofString
    | some 0x22 => bump
    | some 0x5C => do bump; skipEscape; skipStringBody fuel
    | some _ => failHere .controlCharacter

/-- Skips a string after its opening quote. -/
def skipString : Read Unit := do
  skipStringBody ((← get).rest.length + 1)

/-! ## Values -/

/-- Reads the value that is not what was expected, and fails naming it. -/
def wrongType {α : Type} (expected : String) : Read α := do
  let found ← match ← peek with
    | some 0x6E => do bump; keyword [0x75, 0x6C, 0x6C]; pure Found.null
    | some 0x74 => do bump; keyword [0x72, 0x75, 0x65]; pure (Found.bool true)
    | some 0x66 => do bump; keyword [0x61, 0x6C, 0x73, 0x65]; pure (Found.bool false)
    | some 0x2D => do bump; pure (← integer false).found
    | some 0x22 => do
      bump
      let bs ← string
      pure (Found.str ((Utf8.toString? bs).getD ""))
    | some 0x5B => pure Found.seq
    | some 0x7B => pure Found.map
    | some b =>
      if isDigit b then do pure (← integer true).found else failPeek .expectedValue
    | none => failPeek .expectedValue
  failHere (.invalidType found expected)

/-- Reads a boolean. -/
def boolean : Read Bool := placed do
  match ← peekPastBlank with
  | none => failPeek .eofValue
  | some 0x74 => do bump; keyword [0x72, 0x75, 0x65]; pure true
  | some 0x66 => do bump; keyword [0x61, 0x6C, 0x73, 0x65]; pure false
  | some _ => wrongType "a boolean"

/-- Checks that a number is an unsigned 32-bit count. -/
def countOf : Number → Read UInt32
  | .unsigned n =>
    if n ≤ 4294967295 then pure n.toUInt32 else failHere (.invalidValue (.unsigned n) "u32")
  | .signed i => failHere (.invalidValue (.signed i) "u32")
  | .float f => failHere (.invalidType (.float f.toBits) "u32")

/-- Reads an unsigned 32-bit count. -/
def count : Read UInt32 := placed do
  match ← peekPastBlank with
  | none => failPeek .eofValue
  | some 0x2D => do bump; countOf (← integer false)
  | some b => if isDigit b then do countOf (← integer true) else wrongType "u32"

/-- Reads a variant name and gives its index among `names`. -/
def variantName (names : List String) : Read Nat := placed do
  match ← peekPastBlank with
  | none => failPeek .eofValue
  | some 0x22 => do
    bump
    let bs ← string
    let name := (Utf8.toString? bs).getD ""
    match names.idxOf? name with
    | some i => pure i
    | none => failLater (.unknownVariant name names)
  | some _ => wrongType "variant identifier"

/-- Reads a variant name that stands as the key of an object: anything but a string there
is refused as a key. -/
def variantKey (names : List String) : Read Nat := do
  match ← peekPastBlank with
  | some 0x22 => variantName names
  | some _ => failPeek .keyMustBeString
  | none => failPeek .eofValue

/-- Reads the empty content of a unit variant, `null`. -/
def unitValue : Read Unit := placed do
  match ← peekPastBlank with
  | none => failPeek .eofValue
  | some 0x6E => do bump; keyword [0x75, 0x6C, 0x6C]
  | some _ => wrongType "unit"

/-- Reads the `:` after a key. -/
def colon : Read Unit := do
  match ← peekPastBlank with
  | some 0x3A => bump
  | some _ => failPeek .expectedColon
  | none => failPeek .eofObject

/-- Reads a unit variant: its name as a string, or `{"name": null}`. -/
def variant (names : List String) : Read Nat := do
  match ← peekPastBlank with
  | some 0x7B => do
    bump
    let i ← variantKey names
    colon
    unitValue
    match ← peekPastBlank with
    | some 0x7D => do bump; pure i
    | some _ => failHere .expectedValue
    | none => failHere .eofObject
  | some 0x22 => variantName names
  | some _ => failPeek .expectedValue
  | none => failPeek .eofValue

/-- Where a skipped value stands: before a value (inside the given bracket, if any), or
after one, inside `frame`, where a comma may or may not come. -/
inductive Skip where
  | value (enclosing : Option UInt8)
  | close (frame : UInt8) (acceptComma : Bool)

/-- Skips the whole digits of a number. -/
def skipWhole : Read Unit := do
  match ← next with
  | some 0x30 =>
    match ← peek with
    | some d => if isDigit d then failPeek .invalidNumber else pure ()
    | none => pure ()
  | some b => if isDigit b && b ≠ 0x30 then bumpN (digitRun (← get).rest) else failHere .invalidNumber
  | none => failHere .invalidNumber

/-- Skips a fraction, if one follows. -/
def skipFraction : Read Unit := do
  match ← peek with
  | some 0x2E => do
    bump
    let n := digitRun (← get).rest
    bumpN n
    if n = 0 then failPeek .invalidNumber else pure ()
  | _ => pure ()

/-- Skips an exponent, if one follows. -/
def skipExponent : Read Unit := do
  match ← peek with
  | some 0x65 | some 0x45 => do
    bump
    match ← peek with
    | some 0x2B | some 0x2D => bump
    | _ => pure ()
    match ← next with
    | some d => if isDigit d then bumpN (digitRun (← get).rest) else failHere .invalidNumber
    | none => failHere .invalidNumber
  | _ => pure ()

/-- Skips a number after its sign, checking only its form. -/
def skipNumber : Read Unit := do
  skipWhole
  skipFraction
  skipExponent

/-- Skips an object key and its colon. -/
def skipKey : Read Unit := do
  match ← peekPastBlank with
  | some 0x22 => bump
  | some _ => failPeek .keyMustBeString
  | none => failPeek .eofObject
  skipString
  colon

/-- Skips any value, keeping open brackets on a stack; nesting has no limit. After a value
inside brackets a comma or the closing bracket must follow; in an object a key and a colon
come before each value. -/
def skipRun : Nat → List UInt8 → Skip → Read Unit
  | 0, _, _ => failHere .eofValue
  | fuel + 1, stack, .value enclosing => do
    let frame ← match ← peekPastBlank with
      | none => failPeek .eofValue
      | some 0x6E => do bump; keyword [0x75, 0x6C, 0x6C]; pure none
      | some 0x74 => do bump; keyword [0x72, 0x75, 0x65]; pure none
      | some 0x66 => do bump; keyword [0x61, 0x6C, 0x73, 0x65]; pure none
      | some 0x2D => do bump; skipNumber; pure none
      | some 0x22 => do bump; skipString; pure none
      | some 0x5B => do bump; pure (some (0x5B : UInt8))
      | some 0x7B => do bump; pure (some (0x7B : UInt8))
      | some b => if isDigit b then do skipNumber; pure none else failPeek .expectedValue
    match frame with
    | some f => skipRun fuel (enclosing.toList ++ stack) (.close f false)
    | none =>
      match enclosing with
      | some f => skipRun fuel stack (.close f true)
      | none =>
        match stack with
        | f :: more => skipRun fuel more (.close f true)
        | [] => pure ()
  | fuel + 1, stack, .close frame acceptComma => do
    let look ← peekPastBlank
    let closes := (look = some 0x5D && frame = 0x5B) || (look = some 0x7D && frame = 0x7B)
    if look = some 0x2C && acceptComma then
      bump
      if frame = 0x7B then skipKey
      skipRun fuel stack (.value (some frame))
    else if closes then
      bump
      match stack with
      | f :: more => skipRun fuel more (.close f true)
      | [] => pure ()
    else
      match look with
      | none => failPeek (if frame = 0x5B then .eofList else .eofObject)
      | some _ =>
        if acceptComma then
          failPeek (if frame = 0x5B then .expectedListCommaOrEnd else .expectedObjectCommaOrEnd)
        else do
          if frame = 0x7B then skipKey
          skipRun fuel stack (.value (some frame))

/-- Skips any value. -/
def skipValue : Read Unit := do
  skipRun (2 * (← get).rest.length + 2) [] (.value none)

/-! ## Records -/

/-- Looks for the next key of an object: `none` at its end, else whether the key is
`field`. -/
def nextKey (field : String) (first : Bool) : Read (Option Bool) := do
  let look ← match ← peekPastBlank with
    | some 0x7D => return none
    | some 0x2C => if first then pure (some (0x2C : UInt8)) else do bump; peekPastBlank
    | some b => if first then pure (some b) else failPeek .expectedObjectCommaOrEnd
    | none => failPeek .eofObject
  match look with
  | some 0x22 => do
    bump
    let key ← string
    pure (some (key = field.toUTF8.toList))
  | some 0x7D => failPeek .trailingComma
  | some _ => failPeek .keyMustBeString
  | none => failPeek .eofValue

/-- Reads the members of an object after `{`, keeping the one value of `field`. -/
def members {α : Type} (field : String) (value : Read α) : Nat → Bool → Option α → Read α
  | 0, _, _ => failHere .eofObject
  | fuel + 1, first, found => do
    match ← nextKey field first with
    | none =>
      match found with
      | some v => pure v
      | none => failLater (.missingField field)
    | some true =>
      if found.isSome then failLater (.duplicateField field)
      else do
        colon
        let v ← value
        members field value fuel false (some v)
    | some false => do
      colon
      skipValue
      members field value fuel false found

/-- Reads the end of an object. -/
def objectEnd : Read Unit := do
  match ← peekPastBlank with
  | some 0x7D => bump
  | some 0x2C => failPeek .trailingComma
  | some _ => failPeek .trailingCharacters
  | none => failPeek .eofObject

/-- Reads the end of an array holding one element. -/
def arrayEnd : Read Unit := do
  match ← peekPastBlank with
  | some 0x5D => bump
  | some 0x2C => do
    bump
    match ← peekPastBlank with
    | some 0x5D => failPeek .trailingComma
    | _ => failPeek .trailingCharacters
  | some _ => failPeek .trailingCharacters
  | none => failPeek .eofList

/-- Reads the only element of an array after `[`. -/
def element {α : Type} (name : String) (value : Read α) : Read α := do
  match ← peekPastBlank with
  | some 0x5D => failLater (.invalidLength 0 ("struct " ++ name ++ " with 1 element"))
  | some _ => value
  | none => failPeek .eofList

/-- Joins the outcome of a body with that of its closing bracket: the body's failure wins. -/
def settle {α : Type} : Except Failure α → Except Failure Unit → Read α
  | .error e, _ => throw e
  | .ok _, .error e => throw e
  | .ok v, .ok () => pure v

/-- Reads a record named `name` with one field, from an object or a one-element array. The
closing bracket is read even after the body failed, which moves where a late failure is
placed. -/
def record {α : Type} (name field : String) (value : Read α) : Read α := placed do
  match ← peekPastBlank with
  | none => failPeek .eofValue
  | some 0x5B => do
    bump
    let body ← attempt (element name value)
    let close ← attempt arrayEnd
    settle body close
  | some 0x7B => do
    bump
    let fuel := (← get).rest.length + 1
    let body ← attempt (members field value fuel true none)
    let close ← attempt objectEnd
    settle body close
  | some _ => wrongType ("struct " ++ name)

/-- Reads a whole input as one record, with nothing but blanks after it. -/
def document {α : Type} (name field : String) (value : Read α) (input : List UInt8) :
    Except Failure α :=
  let reading : Read α := do
    let v ← record name field value
    match ← peekPastBlank with
    | some _ => failPeek .trailingCharacters
    | none => pure v
  (reading.run.run ⟨input, 0⟩).1

end ButtonRelay.Payload
