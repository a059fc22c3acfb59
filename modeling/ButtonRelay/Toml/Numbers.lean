import ButtonRelay.Toml.Scan
import ButtonRelay.Decimal.Shortest

/-!
TOML numbers, booleans and date-times. Integers are decimal with an optional sign, or
hexadecimal, octal or binary after `0x`, `0o`, `0b`, with single underscores between digits,
and must fit in 64 signed bits. Floats have a fraction, an exponent or both, or are `inf` or
`nan` with an optional sign; they are read to the nearest double, and positive infinity from a
too large literal is refused. Date-times are checked field by field and kept as written.
-/

namespace ButtonRelay.Toml

/-- One decimal digit. -/
def digit : Scan Char := charIf isDigit

/-- Digits with single underscores between them, after a first digit `first` reads. -/
def digitsAfter (first : Scan Char) (isDigitOf : Char → Bool) : Scan (List Char) := do
  let d ← first
  let more ← many (orElse (do pure [← charIf isDigitOf]) (do
    token '_'
    let d ← within (.expected (.description "digit")) (commit (charIf isDigitOf))
    pure ['_', d]))
  pure (d :: more.flatten)

/-- A decimal integer as written: an optional sign, then `0` or digits not starting with `0`. -/
def decimalInteger : Scan (List Char) :=
  labelled "integer" do
    let sign ← optional (charIf fun c => c = '+' || c = '-')
    let body ← orElse (digitsAfter (charIf fun c => '1' ≤ c && c ≤ '9') isDigit) (do pure [← digit])
    pure (sign.toList ++ body)

/-- The value of digits in a base, underscores skipped. -/
def digitsValue (base : Nat) (ds : List Char) : Nat :=
  ds.foldl (fun acc d =>
    if d = '_' then acc
    else acc * base + (if isDigit d then d.toNat - '0'.toNat
      else if 'a' ≤ d && d ≤ 'f' then d.toNat - 'a'.toNat + 10
      else d.toNat - 'A'.toNat + 10)) 0

/-- The least and greatest 64-bit signed integers. -/
def int64Min : Int := -9223372036854775808
def int64Max : Int := 9223372036854775807

/-- A decimal integer as written, with its value checked against 64 bits. -/
def decimalValue (text : List Char) : Except String Int :=
  let (negative, ds) := match text with
    | '-' :: ds => (true, ds)
    | '+' :: ds => (false, ds)
    | ds => (false, ds)
  let n : Int := digitsValue 10 ds
  let v := if negative then -n else n
  if v < int64Min then .error "number too small to fit in target type"
  else if int64Max < v then .error "number too large to fit in target type"
  else .ok v

/-- Digits after a prefix such as `0x`. -/
def prefixedInteger (pre : List Char) (label : String) (isDigitOf : Char → Bool)
    (base : Nat) : Scan Int :=
  commit (refine
    (labelled label do
      literal pre
      commit (digitsAfter (charIf isDigitOf) isDigitOf))
    fun ds =>
      let v := digitsValue base ds
      if v ≤ int64Max.toNat then .ok v else .error "number too large to fit in target type")

/-- An integer value. -/
def integer : Scan Int := do
  match ← peekTwo with
  | some ('0', 'x') => prefixedInteger ['0', 'x'] "hexadecimal integer" isHexDigit 16
  | some ('0', 'o') => prefixedInteger ['0', 'o'] "octal integer" (fun c => '0' ≤ c && c ≤ '7') 8
  | some ('0', 'b') => prefixedInteger ['0', 'b'] "binary integer" (fun c => c = '0' || c = '1') 2
  | _ => do
    let start ← get
    let text ← decimalInteger
    match decimalValue text with
    | .ok v => pure v
    | .error cause => do set start; throw ⟨true, [], some cause⟩

/-- Digits that may start with `0`, with single underscores between them. -/
def leadingZeroDigits : Scan (List Char) := digitsAfter digit isDigit

/-- A fraction: `.` and digits. -/
def fraction : Scan (List Char) := do
  token '.'
  let ds ← within (.expected (.description "digit")) (commit leadingZeroDigits)
  pure ('.' :: ds)

/-- An exponent: `e` or `E`, an optional sign, digits. -/
def exponentPart : Scan (List Char) := do
  let e ← charIf fun c => c = 'e' || c = 'E'
  let sign ← optional (charIf fun c => c = '+' || c = '-')
  let ds ← commit leadingZeroDigits
  pure (e :: sign.toList ++ ds)

/-- The double nearest to a decimal float as written (underscores skipped). -/
def floatOfText (text : List Char) : Float :=
  let clean := text.filter (· ≠ '_')
  let (negative, body) := match clean with
    | '-' :: r => (true, r)
    | '+' :: r => (false, r)
    | r => (false, r)
  let mantissa := body.takeWhile fun c => c ≠ 'e' && c ≠ 'E'
  let expText := (body.dropWhile fun c => c ≠ 'e' && c ≠ 'E').drop 1
  let intPart := mantissa.takeWhile (· ≠ '.')
  let fracPart := (mantissa.dropWhile (· ≠ '.')).drop 1
  let expValue : Int := match expText with
    | '-' :: ds => -(digitsValue 10 ds : Int)
    | '+' :: ds => digitsValue 10 ds
    | ds => digitsValue 10 ds
  Decimal.ofDecimal negative (digitsValue 10 (intPart ++ fracPart)) (expValue - fracPart.length)

/-- `inf` or `nan`, with an optional sign. -/
def specialFloat : Scan Float := do
  let sign ← optional (charIf fun c => c = '+' || c = '-')
  let f ← orElse (do literal ['i', 'n', 'f']; pure (1.0 / 0.0 : Float))
    (do literal ['n', 'a', 'n']; pure (0.0 / 0.0 : Float))
  pure (if sign = some '-' then -f else f)

/-- The double a float literal stands for; positive infinity is refused. -/
def decimalFloat : Scan Float := do
  let start ← get
  let text ← (do
    let i ← decimalInteger
    let tail ← orElse exponentPart (do
      let f ← fraction
      let e ← optional exponentPart
      pure (f ++ e.getD []))
    pure (i ++ tail))
  let f := floatOfText text
  if f.isInf && 0 < f then do set start; throw ⟨true, [], none⟩
  else pure f

/-- A float value. -/
def float : Scan Float :=
  labelled "floating-point number" (orElse decimalFloat specialFloat)

/-- Exactly `n` digits, read as a number when it lies in `[lo, hi]`. -/
def fieldDigits (n lo hi : Nat) : Scan Nat :=
  refine (do
      let ds ← takeBetween isDigit n n
      pure (digitsValue 10 ds))
    fun v => if lo ≤ v && v ≤ hi then .ok v else .error "value is out of range"

/-- A full date `YYYY-MM-DD`, the day checked against its month. -/
def fullDate : Scan Unit := do
  let year ← fieldDigits 4 0 9999
  token '-'
  let month ← commit (fieldDigits 2 1 12)
  commit (token '-')
  let dayStart ← get
  let day ← commit (fieldDigits 2 1 31)
  let leap := year % 4 = 0 && (year % 100 ≠ 0 || year % 400 = 0)
  let most := if month = 2 then (if leap then 29 else 28)
    else if month = 4 || month = 6 || month = 9 || month = 11 then 30 else 31
  if most < day then do set dayStart; throw ⟨true, [], some "value is out of range"⟩
  else pure ()

/-- A time `HH:MM:SS` with an optional fraction of a second. -/
def partialTime : Scan Unit := do
  let _ ← fieldDigits 2 0 23
  token ':'
  commit do
    let _ ← fieldDigits 2 0 59
    token ':'
    let _ ← fieldDigits 2 0 60
    let _ ← optional (do token '.'; let _ ← takeSome isDigit; pure ())
    pure ()

/-- A time offset: `Z`, or a sign, hours and minutes. -/
def timeOffset : Scan Unit :=
  labelled "time offset" (orElse (do let _ ← charIf fun c => c = 'Z' || c = 'z'; pure ()) (do
    let _ ← charIf fun c => c = '+' || c = '-'
    commit do
      let _ ← fieldDigits 2 0 23
      token ':'
      let _ ← fieldDigits 2 0 59
      pure ()))

/-- A date with an optional time and offset, or a time alone; the text as written. -/
def dateTime : Scan String := do
  let start ← get
  orElse (labelled "date-time" do
      fullDate
      let _ ← optional (do
        let _ ← charIf fun c => c = 'T' || c = 't' || c = ' '
        partialTime
        let _ ← optional timeOffset
        pure ())
      let stop ← get
      pure (String.ofList (start.rest.take (start.rest.length - stop.rest.length))))
    (labelled "time" do
      partialTime
      let stop ← get
      pure (String.ofList (start.rest.take (start.rest.length - stop.rest.length))))

/-- `true`, once its first letter is seen. -/
def trueValue : Scan Bool := do
  let mark ← get
  token 't'
  set mark
  commit (literal ['t', 'r', 'u', 'e'])
  pure true

/-- `false`, once its first letter is seen. -/
def falseValue : Scan Bool := do
  let mark ← get
  token 'f'
  set mark
  commit (literal ['f', 'a', 'l', 's', 'e'])
  pure false

end ButtonRelay.Toml
