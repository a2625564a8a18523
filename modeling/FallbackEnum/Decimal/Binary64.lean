import FallbackEnum.Text.Digits

/-!
# Binary floating-point numbers

Numbers of 53 significant bits, as a significand and a power of two. An exact quotient is rounded
to the nearest such number, and a tie goes to the even significand. Products and quotients are
exact first and rounded then.
-/

namespace FallbackEnum

/-- A floating-point number. A finite one is `significand * 2 ^ exponent` with a sign. -/
inductive Binary64 where
  | finite (negative : Bool) (significand : Nat) (exponent : Int)
  | infinite (negative : Bool)
  | nan
deriving DecidableEq, Repr

namespace Binary64

/-! ### Rounding -/

/-- The quotient rounded to the nearest natural number; a tie goes to the even one. -/
def roundQuotient (num den : Nat) : Nat :=
  let q := num / den
  let twice := 2 * (num % den)
  if twice < den then q
  else if den < twice then q + 1
  else if q % 2 = 0 then q
  else q + 1

/-- The least exponent of a finite number. -/
def minExponent : Int := -1074

/-- The greatest exponent of a finite number. -/
def maxExponent : Int := 971

/-- The position of the leading bit of a quotient of positive numbers. -/
def leadingBit (num den : Nat) : Int :=
  let guess : Int := (Nat.log2 num : Int) - Nat.log2 den
  let reached :=
    if 0 ≤ guess then den * Nat.pow 2 guess.toNat ≤ num else den ≤ num * Nat.pow 2 (-guess).toNat
  if reached then guess else guess - 1

/-- The nearest significand and exponent to a quotient; `none` beyond the greatest number. -/
def nearest? (num den : Nat) : Option (Nat × Int) :=
  if num = 0 then some (0, minExponent)
  else
    let q := max (leadingBit num den - 52) minExponent
    let m :=
      if 0 ≤ q then roundQuotient num (den * Nat.pow 2 q.toNat)
      else roundQuotient (num * Nat.pow 2 (-q).toNat) den
    let (m, q) := if m = Nat.pow 2 53 then (Nat.pow 2 52, q + 1) else (m, q)
    if maxExponent < q then none else some (m, q)

/-! ### Magnitudes -/

/-- A number without sign, as a significand and an exponent. -/
abbrev Magnitude := Nat × Int

/-- The quotient of naturals that equals a magnitude. -/
def ratio (x : Magnitude) : Nat × Nat :=
  if 0 ≤ x.2 then (x.1 * Nat.pow 2 x.2.toNat, 1) else (x.1, Nat.pow 2 (-x.2).toNat)

/-- The rounded product. -/
def mul? (x y : Magnitude) : Option Magnitude :=
  nearest? ((ratio x).1 * (ratio y).1) ((ratio x).2 * (ratio y).2)

/-- The rounded quotient. -/
def div? (x y : Magnitude) : Option Magnitude :=
  nearest? ((ratio x).1 * (ratio y).2) ((ratio x).2 * (ratio y).1)

/-- The nearest number to a power of ten. -/
def powerOfTen? (n : Nat) : Option Magnitude := nearest? (Nat.pow 10 n) 1

/-! ### Decimal input -/

/-- The nearest number to `digits * 10 ^ exponent`. -/
def ofDecimal (negative : Bool) (digits : Nat) (exponent : Int) : Binary64 :=
  let size : Int := (Nat.toDigits 10 digits).length + exponent
  let magnitude? :=
    if digits = 0 || size < -400 then some (0, minExponent)
    else if 400 < size then none
    else if 0 ≤ exponent then nearest? (digits * Nat.pow 10 exponent.toNat) 1
    else nearest? digits (Nat.pow 10 (-exponent).toNat)
  match magnitude? with
  | some (m, q) => finite negative m q
  | none => infinite negative

/-- The number that a text of digits denotes, with an optional sign, point and exponent. Infinity
and not-a-number are spelled out, in any case. -/
def ofText? (text : String) : Option Binary64 :=
  let (negative, body) :=
    match text.toList with
    | '-' :: rest => (true, rest)
    | '+' :: rest => (false, rest)
    | rest => (false, rest)
  let word := String.ofList (body.map Char.toLower)
  if word = "inf" ∨ word = "infinity" then some (infinite negative)
  else if word = "nan" then some nan
  else
    let whole := body.takeWhile Char.isDigit
    let afterWhole := body.dropWhile Char.isDigit
    let (fraction, afterFraction) :=
      match afterWhole with
      | '.' :: rest => (rest.takeWhile Char.isDigit, rest.dropWhile Char.isDigit)
      | rest => ([], rest)
    let exponent? : Option Int :=
      match afterFraction with
      | [] => some 0
      | e :: rest =>
        if e = 'e' || e = 'E' then Text.ofSignedDigits? rest else none
    if whole.isEmpty && fraction.isEmpty then none
    else exponent?.map fun e =>
      ofDecimal negative (Text.ofDigits (whole ++ fraction)) (e - fraction.length)

end Binary64

end FallbackEnum
