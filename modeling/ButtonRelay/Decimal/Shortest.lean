/-!
Doubles and decimals in exact arithmetic. `nearestBits` gives the double nearest to a
fraction (a half goes to the even neighbour), and `shortestDigits` gives the fewest decimal
digits that read back as a given double, the nearest of them when several qualify. A `Style`
says how a printer lays those digits out: which decimal exponents are written positionally,
whether an integral value keeps `.0`, and how the exponent is signed.
-/

namespace ButtonRelay.Decimal

/-- Rounds `n / d` to the nearest integer, a half going to the even neighbour. -/
def roundHalfEven (n d : Nat) : Nat :=
  let q := n / d
  let r := n % d
  if d < 2 * r then q + 1 else if 2 * r < d then q else if q % 2 = 0 then q else q + 1

/-- Whether `num / den` is below `2 ^ k`. -/
def belowPow2 (num den : Nat) (k : Int) : Bool :=
  if 0 ≤ k then num < den * Nat.pow 2 k.toNat else num * Nat.pow 2 (-k).toNat < den

/-- `⌊log₂ (num / den)⌋` for positive `num` and `den`: the estimate from the bit lengths is
exact or one too large. -/
def floorLog2 (num den : Nat) : Int :=
  let guess : Int := (Nat.log2 num : Int) - (Nat.log2 den : Int)
  if belowPow2 num den guess then guess - 1 else guess

/-- The bits of the double nearest to `num / den` (with `den > 0`), a half going to the even
neighbour. Values past the largest double give infinity; the mantissa carry into the next
binade needs no case because bits count up across it. -/
def nearestBits (num den : Nat) : UInt64 :=
  if num = 0 then 0 else
  let e : Int := max (floorLog2 num den - 52) (-1074)
  let q := if 0 ≤ e then roundHalfEven num (den * Nat.pow 2 e.toNat)
    else roundHalfEven (num * Nat.pow 2 (-e).toNat) den
  let bits := (e + 1074).toNat * Nat.pow 2 52 + q
  if 0x7FF0000000000000 ≤ bits then 0x7FF0000000000000 else bits.toUInt64

/-- The double nearest to `digits · 10 ^ exp`, with the sign given apart. Decimal exponents
far outside the range of doubles go straight to zero or infinity. -/
def ofDecimal (negative : Bool) (digits : Nat) (exp : Int) : Float :=
  let width : Int := (Nat.toDigits 10 digits).length
  let bits : UInt64 :=
    if digits = 0 || width + exp < -400 then 0
    else if 400 < width + exp then 0x7FF0000000000000
    else if 0 ≤ exp then nearestBits (digits * Nat.pow 10 exp.toNat) 1
    else nearestBits digits (Nat.pow 10 (-exp).toNat)
  Float.ofBits (if negative then bits ||| 0x8000000000000000 else bits)

/-- A finite double as `mantissa · 2 ^ exponent` with its sign. `narrowBelow` marks a power
of two above the least normal binade, whose lower neighbour is half as far as its upper. -/
structure Split where
  negative : Bool
  mantissa : Nat
  exponent : Int
  narrowBelow : Bool
  deriving DecidableEq, Repr

/-- Splits the bits of a double (its finite values). -/
def Split.ofBits (bits : UInt64) : Split :=
  let b : Nat := bits.toNat
  let field : Nat := (b / Nat.pow 2 52) % 2048
  let frac : Nat := b % Nat.pow 2 52
  if field = 0 then ⟨Nat.pow 2 63 ≤ b, frac, -1074, false⟩
  else ⟨Nat.pow 2 63 ≤ b, frac + Nat.pow 2 52, (field : Int) - 1075, frac = 0 && 1 < field⟩

/-- The multiple of `unit` in `[lo, hi]` nearest to `v` (ends counted when `inclusive`), a
tie going to the even multiple. -/
def nearestMultiple (lo v hi unit : Nat) (inclusive : Bool) : Option Nat :=
  let dmin := if inclusive then (lo + unit - 1) / unit else lo / unit + 1
  let dmax := if inclusive then hi / unit else (hi - 1) / unit
  if dmin ≤ dmax then
    let d0 := v / unit
    some (if d0 < dmin then dmin else if dmax < d0 + 1 then d0
      else if v - d0 * unit < (d0 + 1) * unit - v then d0
      else if (d0 + 1) * unit - v < v - d0 * unit then d0 + 1
      else if d0 % 2 = 0 then d0 else d0 + 1)
  else none

/-- Walks the decimal grids from `10 ^ k` downwards and stops at the first that has a point
between the bounds `lo < v < hi` (all over `den`). -/
def searchGrid (lo v hi den : Nat) (inclusive : Bool) : Nat → Int → Nat × Int
  | 0, k => (v / den, k)
  | fuel + 1, k =>
    let found :=
      if 0 ≤ k then nearestMultiple lo v hi (den * Nat.pow 10 k.toNat) inclusive
      else
        let p := Nat.pow 10 (-k).toNat
        nearestMultiple (lo * p) (v * p) (hi * p) den inclusive
    match found with
    | some d => (d, k)
    | none => searchGrid lo v hi den inclusive fuel (k - 1)

/-- The fewest digits `d` with an exponent `k` such that `d · 10 ^ k` reads back as the double
`mantissa · 2 ^ exponent`; of several such, the nearest. The bounds of the rounding interval
are the midpoints to the two neighbours, included when the mantissa is even. -/
def shortestDigits (s : Split) : Nat × Int :=
  if s.mantissa = 0 then (0, 0) else
  let shift := s.exponent - 2
  let scale := if 0 ≤ shift then Nat.pow 2 shift.toNat else 1
  let den := if 0 ≤ shift then 1 else Nat.pow 2 (-shift).toNat
  let m := s.mantissa
  let v := 4 * m * scale
  let hi := (4 * m + 2) * scale
  let lo := (if s.narrowBelow then 4 * m - 1 else 4 * m - 2) * scale
  let top : Int := (Nat.toDigits 10 (hi / den)).length
  searchGrid lo v hi den (m % 2 = 0) 800 top

/-- How a printer lays out the shortest digits of a double. -/
structure Style where
  /-- The least scientific exponent written positionally. -/
  low : Int
  /-- The greatest scientific exponent written positionally, if there is one. -/
  high : Option Int
  /-- Whether an integral positional value is followed by `.0`. -/
  pointZero : Bool
  /-- Whether a non-negative exponent is written with `+`. -/
  plus : Bool
  nan : String
  infinity : String

/-- `n` zeros. -/
def zeros (n : Nat) : List Char := List.replicate n '0'

/-- Digits `ds` times `10 ^ k`, written positionally. -/
def positional (ds : List Char) (k : Int) (pointZero : Bool) : String :=
  if 0 ≤ k then String.ofList (ds ++ zeros k.toNat) ++ (if pointZero then ".0" else "")
  else
    let point : Int := (ds.length : Int) + k
    if 0 < point then String.ofList (ds.take point.toNat ++ '.' :: ds.drop point.toNat)
    else String.ofList ('0' :: '.' :: zeros (-point).toNat ++ ds)

/-- Digits `ds` with the point after the first digit and the exponent `e`. -/
def scientific (ds : List Char) (e : Int) (plus : Bool) : String :=
  let mantissa := match ds with
    | [] => "0"
    | [d] => String.singleton d
    | d :: more => String.ofList (d :: '.' :: more)
  mantissa ++ "e" ++ (if e < 0 then "-" else if plus then "+" else "") ++ toString e.natAbs

/-- Writes a double in the given style. -/
def Style.render (st : Style) (f : Float) : String :=
  if f.isNaN then st.nan else
  let s := Split.ofBits f.toBits
  let sign := if s.negative then "-" else ""
  if f.isInf then sign ++ st.infinity else
  let (d, k) := shortestDigits s
  let ds := Nat.toDigits 10 d
  let e : Int := (ds.length : Int) - 1 + k
  let inRange := st.low ≤ e && (match st.high with | some h => decide (e ≤ h) | none => true)
  sign ++ (if inRange then positional ds k st.pointZero else scientific ds e st.plus)

end ButtonRelay.Decimal
