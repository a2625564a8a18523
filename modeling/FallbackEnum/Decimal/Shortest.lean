import FallbackEnum.Decimal.Binary64

/-!
# Shortest decimals

The decimal with the fewest digits that reads back as a given number and, among those, the
nearest. How it is written is up to a style: when an exponent is used, and what it looks like.
-/

namespace FallbackEnum

namespace Decimal

/-! ### Digits -/

/-- The least number of places that `num / den`, below one, has to be moved to reach one. -/
def placesBelowOne (num den : Nat) : Nat → Nat → Nat
  | 0, places => places
  | bound + 1, places =>
    if den ≤ num * Nat.pow 10 places then places else placesBelowOne num den bound (places + 1)

/-- The decimal exponent of the leading digit of a positive quotient. -/
def leadingPlace (num den : Nat) : Int :=
  if den ≤ num then (Nat.toDigits 10 (num / den)).length - 1
  else -(placesBelowOne num den 400 1 : Int)

/-- The interval of reals that round to a number, in quarters of its last place. -/
structure Interval where
  low : Nat
  value : Nat
  high : Nat
  closed : Bool

/-- The interval of a significand. Below a power of two the neighbours are closer. -/
def Interval.ofSignificand (m : Nat) (exponent : Int) : Interval where
  low := 4 * m - if m = Nat.pow 2 52 ∧ Binary64.minExponent < exponent then 1 else 2
  value := 4 * m
  high := 4 * m + 2
  closed := m % 2 = 0

/-- Is `x` inside an interval whose ends are multiples of `scale`? -/
def Interval.contains (i : Interval) (scale x : Nat) : Bool :=
  if i.closed then i.low * scale ≤ x && x ≤ i.high * scale
  else i.low * scale < x && x < i.high * scale

/-- The nearest decimal of `count` digits inside the interval of a number, if one of its two
neighbours of that length is inside. Gives the digits and the place of the last one. -/
def ofLength? (m : Nat) (exponent : Int) (count : Nat) : Option (Nat × Int) :=
  let i := Interval.ofSignificand m exponent
  let quarter := exponent - 2
  let (up, down) : Nat × Nat :=
    if 0 ≤ quarter then (Nat.pow 2 quarter.toNat, 1) else (1, Nat.pow 2 (-quarter).toNat)
  let place := leadingPlace (i.value * up) down - (count - 1 : Nat)
  let (grow, shrink) : Nat × Nat :=
    if 0 ≤ place then (1, Nat.pow 10 place.toNat) else (Nat.pow 10 (-place).toNat, 1)
  let unit := down * shrink
  let scaled := i.value * up * grow
  let below := scaled / unit
  let inside (d : Nat) : Bool := i.contains (up * grow) (d * unit)
  let twice := 2 * (scaled % unit)
  let preferAbove := unit < twice || (unit = twice && below % 2 = 1)
  match inside below, inside (below + 1) with
  | true, true => some (carry count (if preferAbove then below + 1 else below) place)
  | true, false => some (below, place)
  | false, true => some (carry count (below + 1) place)
  | false, false => none
where
  /-- A number that has grown to one digit more than `count` ends in zero: move it one place
  on. -/
  carry (count number : Nat) (place : Int) : Nat × Int :=
    if number = Nat.pow 10 count then (Nat.pow 10 (count - 1), place + 1) else (number, place)

/-- The shortest digits of a positive number and the place of the last one. -/
def shortest (m : Nat) (exponent : Int) : Nat × Int :=
  ((List.range 17).findSome? fun n => ofLength? m exponent (n + 1)).getD (m, 0)

/-! ### Text -/

/-- How numbers are written. -/
structure Style where
  /-- The exponents of the leading digit that are written without an exponent; all, if `none`. -/
  positional : Option (Int × Int)
  /-- The least number of digits of an exponent. -/
  exponentDigits : Nat

/-- Digits in positional form, always with a point. -/
def positionalText (digits : List Char) (place : Int) : List Char :=
  let lead : Int := digits.length - 1 + place
  if 0 ≤ place then digits ++ List.replicate place.toNat '0' ++ ['.', '0']
  else if 0 ≤ lead then
    digits.take (lead.toNat + 1) ++ ['.'] ++ digits.drop (lead.toNat + 1)
  else ['0', '.'] ++ List.replicate (-lead - 1).toNat '0' ++ digits

/-- Digits with an exponent, which always has a sign. -/
def exponentText (style : Style) (digits : List Char) (lead : Int) : List Char :=
  let exponent := Nat.toDigits 10 lead.natAbs
  let padding := List.replicate (style.exponentDigits - exponent.length) '0'
  digits.take 1 ++ (if digits.length = 1 then [] else ['.'] ++ digits.drop 1) ++
    ['e', if lead < 0 then '-' else '+'] ++ padding ++ exponent

/-- The text of a positive number. -/
def magnitudeText (style : Style) (m : Nat) (exponent : Int) : List Char :=
  let (number, place) := shortest m exponent
  let digits := Nat.toDigits 10 number
  let lead : Int := digits.length - 1 + place
  match style.positional with
  | none => positionalText digits place
  | some (least, greatest) =>
    if least ≤ lead && lead ≤ greatest then positionalText digits place
    else exponentText style digits lead

/-- The text of a number. -/
def text (style : Style) : Binary64 → String
  | .finite negative m exponent =>
    let sign := if negative then ['-'] else []
    let body := if m = 0 then ['0', '.', '0'] else magnitudeText style m exponent
    String.ofList (sign ++ body)
  | .infinite negative => if negative then "-inf" else "inf"
  | .nan => "NaN"

end Decimal

end FallbackEnum
