import ButtonRelay.Text.GraphemeExtend
import ButtonRelay.Text.Printable

/-!
Quoted debug text for characters, strings and byte strings. A character is quoted with `'`
and a string with `"`; the backslash escapes `\0 \t \r \n \\`, the quote in use, and writes
`\u{hex}` for characters that extend the one before them and for those with no visible
form. A byte string is written `b"…"` with printable ASCII kept and every other byte as
`\xNN`.
-/

namespace ButtonRelay.Text

/-- Lower-case hexadecimal digits of a number, without leading zeros. -/
def hexDigits (n : Nat) : String :=
  String.ofList (Nat.toDigits 16 n)

/-- The escaped form of one character inside quotes; `quote` is the quote in use. -/
def escapeChar (quote c : Char) : String :=
  if c = '\x00' then "\\0"
  else if c = '\t' then "\\t"
  else if c = '\r' then "\\r"
  else if c = '\n' then "\\n"
  else if c = '\\' then "\\\\"
  else if c = quote then "\\" ++ String.singleton c
  else if isGraphemeExtend c || !isPrintable c then "\\u\x7b" ++ hexDigits c.toNat ++ "\x7d"
  else String.singleton c

/-- A character in single quotes. -/
def quoteChar (c : Char) : String := "'" ++ escapeChar '\'' c ++ "'"

/-- A string in double quotes. -/
def quoteString (s : String) : String :=
  "\"" ++ String.join (s.toList.map (escapeChar '"')) ++ "\""

/-- Two hexadecimal digits of a byte. -/
def hexByte (b : UInt8) : String :=
  let d := Nat.toDigits 16 b.toNat
  String.ofList (if d.length < 2 then '0' :: d else d)

/-- A byte string as `b"…"`. -/
def quoteBytes (bs : List UInt8) : String :=
  let part (b : UInt8) : String :=
    if b = 0x0A then "\\n" else if b = 0x0D then "\\r" else if b = 0x09 then "\\t"
    else if b = 0x5C then "\\\\" else if b = 0x22 then "\\\"" else if b = 0 then "\\0"
    else if 0x20 ≤ b && b < 0x7F then String.singleton (Char.ofNat b.toNat)
    else "\\x" ++ hexByte b
  "b\"" ++ String.join (bs.map part) ++ "\""

example : quoteChar 'x' = "'x'" ∧ quoteChar '\'' = "'\\''" ∧ quoteChar '"' = "'\"'" := by decide
example : quoteString "a\"b" = "\"a\\\"b\"" := by decide

end ButtonRelay.Text
