/-!
UTF-8 over byte lists. `decode?` accepts exactly the well-formed encodings: shortest forms
only, no surrogate code points and nothing past `U+10FFFF`. Line sources and the payload
reader use it to tell text from bytes; `encode` is its inverse on characters.
-/

namespace ButtonRelay.Utf8

/-- A continuation byte has the form `10xxxxxx`. -/
def isCont (b : UInt8) : Bool := b &&& 0xC0 == 0x80

/-- The six payload bits of a continuation byte. -/
def low6 (b : UInt8) : Nat := (b &&& 0x3F).toNat

/-- Reads a UTF-8 byte list as characters, or `none` if it is not well formed. A lead byte
`E0` needs a second byte of at least `A0`, `ED` one of at most `9F`, `F0` one of at least
`90` and `F4` one of at most `8F`; this rules out overlong forms, surrogates and values past
`U+10FFFF`. -/
def decode? : List UInt8 → Option (List Char)
  | [] => some []
  | b :: rest =>
    if b < 0x80 then
      (decode? rest).map (Char.ofNat b.toNat :: ·)
    else if 0xC2 ≤ b && b ≤ 0xDF then
      match rest with
      | c1 :: more =>
        if isCont c1 then
          (decode? more).map (Char.ofNat ((b &&& 0x1F).toNat * 64 + low6 c1) :: ·)
        else none
      | [] => none
    else if 0xE0 ≤ b && b ≤ 0xEF then
      match rest with
      | c1 :: c2 :: more =>
        let lo : UInt8 := if b == 0xE0 then 0xA0 else 0x80
        let hi : UInt8 := if b == 0xED then 0x9F else 0xBF
        if lo ≤ c1 && c1 ≤ hi && isCont c2 then
          (decode? more).map
            (Char.ofNat ((b &&& 0x0F).toNat * 4096 + low6 c1 * 64 + low6 c2) :: ·)
        else none
      | _ => none
    else if 0xF0 ≤ b && b ≤ 0xF4 then
      match rest with
      | c1 :: c2 :: c3 :: more =>
        let lo : UInt8 := if b == 0xF0 then 0x90 else 0x80
        let hi : UInt8 := if b == 0xF4 then 0x8F else 0xBF
        if lo ≤ c1 && c1 ≤ hi && isCont c2 && isCont c3 then
          (decode? more).map (Char.ofNat ((b &&& 0x07).toNat * 262144 + low6 c1 * 4096 +
            low6 c2 * 64 + low6 c3) :: ·)
        else none
      | _ => none
    else none

/-- The number of bytes at the front that form whole well-formed characters: where the first
ill-formed or unfinished character starts, or the length when there is none. -/
def validPrefix : List UInt8 → Nat
  | [] => 0
  | b :: rest =>
    if b < 0x80 then 1 + validPrefix rest
    else if 0xC2 ≤ b && b ≤ 0xDF then
      match rest with
      | c1 :: more => if isCont c1 then 2 + validPrefix more else 0
      | [] => 0
    else if 0xE0 ≤ b && b ≤ 0xEF then
      match rest with
      | c1 :: c2 :: more =>
        let lo : UInt8 := if b == 0xE0 then 0xA0 else 0x80
        let hi : UInt8 := if b == 0xED then 0x9F else 0xBF
        if lo ≤ c1 && c1 ≤ hi && isCont c2 then 3 + validPrefix more else 0
      | _ => 0
    else if 0xF0 ≤ b && b ≤ 0xF4 then
      match rest with
      | c1 :: c2 :: c3 :: more =>
        let lo : UInt8 := if b == 0xF0 then 0x90 else 0x80
        let hi : UInt8 := if b == 0xF4 then 0x8F else 0xBF
        if lo ≤ c1 && c1 ≤ hi && isCont c2 && isCont c3 then 4 + validPrefix more else 0
      | _ => 0
    else 0

/-- Whether a byte list is well-formed UTF-8. -/
def isValid (bs : List UInt8) : Bool := (decode? bs).isSome

/-- The UTF-8 bytes of a string. -/
def encode (s : String) : List UInt8 := s.toUTF8.toList

/-- Reads a byte list as a string, if it is well-formed UTF-8. -/
def toString? (bs : List UInt8) : Option String := (decode? bs).map String.ofList

example : decode? [0x78, 0xC3, 0xA9] = some ['x', 'é'] := by decide
example : validPrefix [0x69, 0x73, 0xFF, 0x70] = 2 ∧ validPrefix [0x78, 0xC3, 0xA9] = 3 ∧
    validPrefix [0x61, 0xE2, 0x82] = 1 := by decide
example : decode? [0xED, 0xA0, 0x80] = none ∧ decode? [0xC0, 0x80] = none ∧
    decode? [0xF4, 0x90, 0x80, 0x80] = none ∧ decode? [0xFF] = none := by decide

end ButtonRelay.Utf8
