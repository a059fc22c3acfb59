/-!
The JSON library under the messages, as serde_json with serde's derived code provides it. Each
message is a Rust struct of one field, and the field's type is one of three kinds: an unsigned
32-bit count, a boolean, or a unit-only enum whose variants are written by name. The messages
only write such a struct and read one back; `Format.Laws` is what the library promises of these
two. The promises are needed, and stated, only for keys and variant names of printable ASCII that
JSON writes as they are, with no escape.
-/

namespace ButtonRelay.Payload

/-- The kind of value a message's one field holds. -/
inductive Shape where
  | count
  | flag
  /-- A unit-only enum whose variants are written with these names. -/
  | variant (names : List String)
  deriving DecidableEq, Repr

/-- The values of a kind: a count, a boolean, or a variant's place among the names. -/
abbrev Shape.Value : Shape → Type
  | .count => UInt32
  | .flag => Bool
  | .variant _ => Nat

/-- How JSON writes a value: a count in decimal, a boolean as a word, a variant as its name
between quotes. -/
def Shape.text : (s : Shape) → s.Value → String
  | .count, n => toString n.toNat
  | .flag, b => toString b
  | .variant names, i => "\"" ++ names.getD i "" ++ "\""

/-- Whether a text is printable ASCII that JSON writes between quotes as it is: no quote, no
backslash, no control character. -/
def plainText (t : String) : Bool :=
  t.toList.all fun c => c ≠ '"' && c ≠ '\\' && 0x20 ≤ c.toNat && c.toNat < 0x7F

/-- Whether a value of the kind is one the library writes and reads back: a variant stands for
one of the names, the names are distinct, and every name is plain text. -/
def Shape.fits : (s : Shape) → s.Value → Bool
  | .variant names, i => decide (i < names.length) && decide names.Nodup && names.all plainText
  | _, _ => true

/-- A JSON library, as the messages use it. -/
structure Format where
  /-- Writes a struct whose one field `key` holds a value. -/
  write : (key : String) → (s : Shape) → s.Value → List UInt8
  /-- Reads a struct named `struct` whose one field `key` holds a value of the kind; on failure,
  the library's text. -/
  read : (struct key : String) → (s : Shape) → List UInt8 → Except String s.Value

/-- What serde_json promises of writing and reading such a struct. -/
structure Format.Laws (fmt : Format) : Prop where
  /-- `to_vec` writes compactly: the key between quotes, a colon, and the value. -/
  write_eq : ∀ key s v, plainText key → s.fits v →
    fmt.write key s v = ("\x7b\"" ++ key ++ "\":" ++ s.text v ++ "\x7d").toUTF8.toList
  /-- `from_slice` reads back what `to_vec` wrote. -/
  read_write : ∀ struct key s v, plainText key → s.fits v → fmt.read struct key s (fmt.write key s v) = .ok v

end ButtonRelay.Payload
