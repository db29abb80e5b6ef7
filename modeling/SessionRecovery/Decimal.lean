/-!
# Decimals

The shortest decimals of floating-point numbers, their notation, and the spans of time that are written by
them.
-/

/-! ## Shortest decimals

A positive binary64 value is an integer times a power of two, and the reals that round to it form an
interval around it. Of the decimals in that interval the ones with the fewest digits are the shortest
that read back; the nearest of them to the value is taken, and of two equally near ones the even one.
All of it is exact arithmetic on natural numbers. -/

namespace SessionRecovery

/-- A decimal: an integer times a power of ten. -/
structure Decimal where
  /-- The integer, whose last digit is not zero unless it is zero itself. -/
  coefficient : Nat
  /-- The power of ten. -/
  exponent : Int
  deriving DecidableEq, Repr

namespace Decimal

/-- A positive value and the ends of the interval that rounds to it, over one denominator. -/
structure Interval where
  /-- Numerator of the lower end. -/
  low : Nat
  /-- Numerator of the value. -/
  value : Nat
  /-- Numerator of the upper end. -/
  high : Nat
  /-- The common denominator. -/
  scale : Nat
  /-- The ends themselves round to the value. -/
  closed : Bool
  deriving DecidableEq, Repr

/-- The interval of `mantissa · 2 ^ exponent`; the gap below is halved at a power of two, unless the
exponent is the least one. -/
def Interval.ofBinary (mantissa : Nat) (exponent : Int) : Interval :=
  let below := if mantissa = Nat.pow 2 52 ∧ -1074 < exponent then 1 else 2
  let up := Nat.pow 2 (exponent - 2).toNat
  ⟨(4 * mantissa - below) * up, 4 * mantissa * up, (4 * mantissa + 2) * up,
    Nat.pow 2 (2 - exponent).toNat, mantissa % 2 = 0⟩

/-- The interval measured in units of a power of ten. -/
def Interval.inUnits (i : Interval) (exponent : Int) : Interval :=
  let up := Nat.pow 10 (-exponent).toNat
  ⟨i.low * up, i.value * up, i.high * up, i.scale * Nat.pow 10 exponent.toNat, i.closed⟩

/-- An integer number of units lies in the interval. -/
def Interval.holds (i : Interval) (n : Nat) : Bool :=
  if i.closed then i.low ≤ n * i.scale && n * i.scale ≤ i.high
  else i.low < n * i.scale && n * i.scale < i.high

/-- The nearer of the two integers around the value that lie in the interval, if any does. -/
def Interval.nearest? (i : Interval) : Option Nat :=
  let n := i.value / i.scale
  match i.holds n, i.holds (n + 1) with
  | false, false => none
  | true, false => some n
  | false, true => some (n + 1)
  | true, true =>
    let below := i.value - n * i.scale
    let above := (n + 1) * i.scale - i.value
    if below < above then some n
    else if above < below then some (n + 1)
    else if n % 2 = 0 then some n else some (n + 1)

/-- The greatest power of ten that is not above `num / den`. -/
def leadingExponent (num den : Nat) : Int :=
  if den ≤ num then ((Nat.toDigits 10 (num / den)).length : Int) - 1
  else
    let places := (Nat.toDigits 10 (den / num)).length
    if den ≤ num * Nat.pow 10 (places - 1) then 1 - (places : Int) else -(places : Int)

/-- Moves the zeros at the end of the integer into the exponent; `fuel` bounds their number. -/
def stripZeros : Nat → Decimal → Decimal
  | 0, d => d
  | fuel + 1, d =>
    if d.coefficient ≠ 0 ∧ d.coefficient % 10 = 0 then stripZeros fuel ⟨d.coefficient / 10, d.exponent + 1⟩ else d

/-- The nearest decimal in the interval with the fewest digits, from `count` on; `more` is the number
of lengths to try, and the integer part of the value stands in where none of them fits. -/
def searchFrom (i : Interval) (lead : Int) : Nat → Nat → Decimal
  | 0, _ => ⟨i.value / i.scale, 0⟩
  | more + 1, count =>
    match (i.inUnits (lead - count + 1)).nearest? with
    | some n => ⟨n, lead - count + 1⟩
    | none => searchFrom i lead more (count + 1)

/-- The shortest decimal that reads back as `mantissa · 2 ^ exponent`; seventeen digits suffice. -/
def ofBinary (mantissa : Nat) (exponent : Int) : Decimal :=
  let i := Interval.ofBinary mantissa exponent
  stripZeros 17 (searchFrom i (leadingExponent i.value i.scale) 17 1)

/-- The integer and the power of two of a finite binary64 value, without its sign. -/
def binaryParts (bits : UInt64) : Nat × Int :=
  let n := bits.toNat
  let fraction : Nat := n % Nat.pow 2 52
  let biased : Nat := n / Nat.pow 2 52 % Nat.pow 2 11
  if biased = 0 then (fraction, -1074) else (Nat.pow 2 52 + fraction, (biased : Int) - 1075)

/-- The shortest decimal of a finite binary64 value, without its sign. -/
def ofFloat (x : Float) : Decimal :=
  match binaryParts x.toBits with
  | (0, _) => ⟨0, 0⟩
  | (mantissa, exponent) => ofBinary mantissa exponent

/-- The sign bit of a binary64 value. -/
def isNegative (x : Float) : Bool := Nat.pow 2 63 ≤ x.toBits.toNat

end Decimal

end SessionRecovery

/-! ## The notation of a decimal

A decimal is written positionally while its size stays within bounds, and with an exponent outside
them. The bounds and the spelling of the exponent belong to the format that is written. -/

namespace SessionRecovery.Decimal

/-- The choices of a format. -/
structure Notation where
  /-- Positional while the point stands after at most this many digits. -/
  most : Int
  /-- Positional while the point stands after more than this many digits; negative counts are zeros
  between the point and the first digit. -/
  least : Int
  /-- Written between an integral positional value's digits and its end. -/
  integral : List Char
  /-- Written before an exponent that is not negative. -/
  positiveMark : List Char
  /-- Written before the size of a negative exponent. -/
  negativeMark : List Char

/-- The digits of a natural number. -/
def natChars (n : Nat) : List Char := Nat.toDigits 10 n

/-- The text of a decimal, without a sign. -/
def Notation.render (f : Notation) (d : Decimal) : List Char :=
  let ds := natChars d.coefficient
  let point : Int := ds.length + d.exponent
  if 0 ≤ d.exponent ∧ point ≤ f.most then
    ds ++ List.replicate d.exponent.toNat '0' ++ f.integral
  else if 0 < point ∧ point ≤ f.most then
    ds.take point.toNat ++ '.' :: ds.drop point.toNat
  else if f.least < point ∧ point ≤ 0 then
    ['0', '.'] ++ List.replicate (-point).toNat '0' ++ ds
  else
    let mantissa := match ds with
      | c :: d :: rest => c :: '.' :: d :: rest
      | one => one
    let power := point - 1
    mantissa ++ (if power < 0 then f.negativeMark else f.positiveMark) ++ natChars power.natAbs

end SessionRecovery.Decimal

/-! ## Durations

Spans of time in whole nanoseconds, and their text in the largest unit that keeps a digit before the
point. -/

namespace SessionRecovery

/-- A span of time. -/
structure Duration where
  /-- Its nanoseconds. -/
  nanos : Nat
  deriving DecidableEq

namespace Duration

/-- Whole seconds. -/
def ofSeconds (n : Nat) : Duration := ⟨n * Nat.pow 10 9⟩

/-- Whole milliseconds. -/
def ofMillis (n : Nat) : Duration := ⟨n * Nat.pow 10 6⟩

/-- The last `places` digits of a number, without the zeros at their end. -/
def fractionChars (n places : Nat) : List Char :=
  let ds := Decimal.natChars (n % Nat.pow 10 places)
  ((List.replicate (places - ds.length) '0' ++ ds).reverse.dropWhile (· == '0')).reverse

/-- A number of units, of `10 ^ places` parts each, with the name of the unit. -/
def inUnit (n places : Nat) (unit : String) : String :=
  let whole := Decimal.natChars (n / Nat.pow 10 places)
  match fractionChars n places with
  | [] => String.ofList whole ++ unit
  | fraction => String.ofList (whole ++ '.' :: fraction) ++ unit

/-- The text of a duration. -/
def text (d : Duration) : String :=
  if Nat.pow 10 9 ≤ d.nanos then inUnit d.nanos 9 "s"
  else if Nat.pow 10 6 ≤ d.nanos then inUnit d.nanos 6 "ms"
  else if Nat.pow 10 3 ≤ d.nanos then inUnit d.nanos 3 "µs"
  else inUnit d.nanos 0 "ns"

end Duration

end SessionRecovery
